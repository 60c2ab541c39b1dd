import TemplateEngine.Script.Syntax

set_option autoImplicit false

namespace TemplateEngine.Script

mutual

def Expr.names : Expr → List Text
  | .constant _ => []
  | .name n => [n]
  | .list es | .tuple es => Expr.namesOfAll es
  | .dict es => Entry.namesOfAll es
  | .starred e | .attribute e _ | .unary _ e | .grouped e => e.names
  | .comprehension _ item clauses => item.names ++ Clause.namesOfAll clauses
  | .lambda ps body => Parameter.namesOfAll ps ++ body.names
  | .call f as => f.names ++ Argument.namesOfAll as
  | .subscript e i => e.names ++ i.names
  | .slice a b c => Expr.namesOfOption a ++ (Expr.namesOfOption b ++ Expr.namesOfOption c)
  | .binary _ a b | .both a b | .either a b => a.names ++ b.names
  | .compare e others => e.names ++ Expr.namesOfComparisons others
  | .conditional test yes no => test.names ++ (yes.names ++ no.names)

def Expr.namesOfAll : List Expr → List Text
  | [] => []
  | e :: es => e.names ++ Expr.namesOfAll es

def Expr.namesOfOption : Option Expr → List Text
  | none => []
  | some e => e.names

def Expr.namesOfComparisons : List (CompareOp × Expr) → List Text
  | [] => []
  | (_, e) :: es => e.names ++ Expr.namesOfComparisons es

def Entry.namesOfAll : List Entry → List Text
  | [] => []
  | .pair k e :: es => k.names ++ (e.names ++ Entry.namesOfAll es)
  | .spread e :: es => e.names ++ Entry.namesOfAll es

def Parameter.namesOfAll : List Parameter → List Text
  | [] => []
  | .mk n _ d :: ps => n :: (Expr.namesOfOption d ++ Parameter.namesOfAll ps)

def Argument.namesOfAll : List Argument → List Text
  | [] => []
  | .positional e :: as | .named _ e :: as | .spread e :: as | .spreadNamed e :: as =>
    e.names ++ Argument.namesOfAll as

def Clause.namesOfAll : List Clause → List Text
  | [] => []
  | .mk target items conditions :: cs =>
    target.names ++ (items.names ++ (Expr.namesOfAll conditions ++ Clause.namesOfAll cs))

end

mutual

def Stmt.names : Stmt → List Text
  | .expression e => e.names
  | .assign ts e => Expr.namesOfAll ts ++ e.names
  | .update t _ e => t.names ++ e.names
  | .declare n => [n]
  | .give e => Expr.namesOfOption e
  | .raise e cause => e.names ++ Expr.namesOfOption cause
  | .assert e message => e.names ++ Expr.namesOfOption message
  | .delete ts => Expr.namesOfAll ts
  | .branch e yes no => e.names ++ (Stmt.namesOfAll yes ++ Stmt.namesOfAll no)
  | .loop e body otherwise => e.names ++ (Stmt.namesOfAll body ++ Stmt.namesOfAll otherwise)
  | .each t e body otherwise =>
    t.names ++ (e.names ++ (Stmt.namesOfAll body ++ Stmt.namesOfAll otherwise))
  | .attempt body handlers otherwise finally_ =>
    Stmt.namesOfAll body ++ (Handler.namesOfAll handlers ++
      (Stmt.namesOfAll otherwise ++ Stmt.namesOfAll finally_))
  | .define n ps body => n :: (Parameter.namesOfAll ps ++ Stmt.namesOfAll body)
  | .raiseAgain | .pass | .leave | .next => []

def Stmt.namesOfAll : List Stmt → List Text
  | [] => []
  | s :: ss => s.names ++ Stmt.namesOfAll ss

def Handler.namesOfAll : List Handler → List Text
  | [] => []
  | .mk classes name body :: hs =>
    Expr.namesOfOption classes ++ (name.toList ++ (Stmt.namesOfAll body ++ Handler.namesOfAll hs))

end

end TemplateEngine.Script
