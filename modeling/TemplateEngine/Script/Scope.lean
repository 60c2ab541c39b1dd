import TemplateEngine.Script.Syntax

set_option autoImplicit false

/-!
# Scopes

Which names a piece of a program binds. A name that is bound anywhere in a function belongs to the
whole function; the target of a comprehension belongs to it alone.
-/
namespace TemplateEngine.Script

mutual

def Expr.bound : Expr → List Text
  | .name n => [n]
  | .list items | .tuple items => Expr.boundAll items
  | .starred e | .grouped e => e.bound
  | _ => []

def Expr.boundAll : List Expr → List Text
  | [] => []
  | e :: es => e.bound ++ Expr.boundAll es

end

def Clause.bound : List Clause → List Text
  | [] => []
  | .mk target _ _ :: cs => target.bound ++ Clause.bound cs

mutual

def Stmt.bound : Stmt → List Text
  | .assign targets _ | .delete targets => Expr.boundAll targets
  | .update target _ _ => target.bound
  | .declare n => [n]
  | .branch _ yes no => Stmt.boundAll yes ++ Stmt.boundAll no
  | .loop _ body otherwise => Stmt.boundAll body ++ Stmt.boundAll otherwise
  | .each target _ body otherwise =>
    target.bound ++ Stmt.boundAll body ++ Stmt.boundAll otherwise
  | .attempt body handlers otherwise finally_ =>
    Stmt.boundAll body ++ Handler.boundAll handlers ++ Stmt.boundAll otherwise
      ++ Stmt.boundAll finally_
  | .define n _ _ => [n]
  | _ => []

def Stmt.boundAll : List Stmt → List Text
  | [] => []
  | s :: ss => s.bound ++ Stmt.boundAll ss

def Handler.boundAll : List Handler → List Text
  | [] => []
  | .mk _ name body :: hs => name.toList ++ Stmt.boundAll body ++ Handler.boundAll hs

end

def distinct (ns : List Text) : List Text :=
  ns.foldl (fun seen n => if seen.contains n then seen else seen ++ [n]) []

end TemplateEngine.Script
