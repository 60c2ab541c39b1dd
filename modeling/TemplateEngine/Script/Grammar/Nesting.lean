import TemplateEngine.Script.Syntax

set_option autoImplicit false

/-!
# Nesting

How deep a program is nested, in two measures: by the parts that stand in each other, and by the rules
of the grammar that have to be followed at once to read it. Neither may be too deep. What a bracket
holds takes many rules, what stands behind an operator takes few, and a sign takes one.
-/
namespace TemplateEngine.Script.Grammar

structure Nesting where
  parts : Nat := 0
  rules : Nat := 0
  deriving DecidableEq, Repr

namespace Nesting

def beside (a b : Nesting) : Nesting := ⟨max a.parts b.parts, max a.rules b.rules⟩

def behind (rules : Nat) (a : Nesting) : Nesting := { a with rules := a.rules + rules }

def above (a : Nesting) : Nesting := { a with parts := a.parts + 1 }

def display : Nat := 29

def group : Nat := 28

def trailer : Nat := 24

def block : Nat := 6

def maxParts : Nat := 2951

/-- How many rules may be followed at once. -/
def maxRules : Nat := 5987

end Nesting

def isBoth : Expr → Bool
  | .both _ _ => true
  | _ => false

def isEither : Expr → Bool
  | .either _ _ => true
  | _ => false

def isCondition : List Stmt → Bool
  | [.branch _ _ _] => true
  | _ => false

mutual

/-- The depths of an expression. Parts that are joined by one operator that is written again and again
stand beside each other if they are compared or are truth values. -/
def nesting : Expr → Nesting
  | .constant _ | .name _ => { parts := 1 }
  | .grouped e => (nesting e).behind Nesting.group
  | .list es => ((nestingOfAll es).behind Nesting.display).above
  | .tuple es => ((nestingOfAll es).behind Nesting.group).above
  | .dict es => ((nestingOfEntries es).behind Nesting.display).above
  | .starred e => (nesting e).above
  | .comprehension _ item clauses =>
    (((nesting item).beside (nestingOfClauses clauses)).behind Nesting.display).above
  | .lambda ps body => ((nestingOfParameters ps).beside ((nesting body).behind 2)).above
  | .call f as => ((nesting f).beside ((nestingOfArguments as).behind Nesting.trailer)).above
  | .attribute e _ => (nesting e).above
  | .subscript e i => ((nesting e).beside ((nesting i).behind Nesting.trailer)).above
  | .slice a b c =>
    (((nestingOfOption a).beside (nestingOfOption b)).beside (nestingOfOption c)).above
  | .unary _ e => ((nesting e).behind 1).above
  | .binary .power a b => ((nesting a).beside ((nesting b).behind 2)).above
  | .binary _ a b => ((nesting a).beside (nesting b)).above
  | .compare e others => ((nesting e).beside (nestingOfComparisons others)).above
  | .both a b =>
    (nesting a).above.beside (if isBoth b then nesting b else ((nesting b).behind 2).above)
  | .either a b =>
    (nesting a).above.beside (if isEither b then nesting b else ((nesting b).behind 2).above)
  | .conditional test yes no =>
    (((nesting test).beside (nesting yes)).beside ((nesting no).behind 1)).above

def nestingOfAll : List Expr → Nesting
  | [] => {}
  | e :: es => (nesting e).beside (nestingOfAll es)

def nestingOfOption : Option Expr → Nesting
  | none => {}
  | some e => nesting e

def nestingOfComparisons : List (CompareOp × Expr) → Nesting
  | [] => {}
  | (_, e) :: es => ((nesting e).behind 3).beside (nestingOfComparisons es)

def nestingOfEntries : List Entry → Nesting
  | [] => {}
  | .pair k e :: es => ((nesting k).beside (nesting e)).beside (nestingOfEntries es)
  | .spread e :: es => (nesting e).beside (nestingOfEntries es)

def nestingOfParameters : List Parameter → Nesting
  | [] => {}
  | .mk _ _ d :: ps => (nestingOfOption d).beside (nestingOfParameters ps)

def nestingOfArguments : List Argument → Nesting
  | [] => {}
  | .positional e :: as | .named _ e :: as | .spread e :: as | .spreadNamed e :: as =>
    (nesting e).beside (nestingOfArguments as)

def nestingOfClauses : List Clause → Nesting
  | [] => {}
  | .mk t e cs :: rest =>
    (((nesting t).beside (nesting e)).beside (nestingOfAll cs)).beside (nestingOfClauses rest)

end

mutual

/-- The depths of a statement. Another branch that is only a condition takes one rule. -/
def nestingOfStatement : Stmt → Nesting
  | .expression e => (nesting e).above
  | .assign ts e => ((nestingOfAll ts).beside (nesting e)).above
  | .update t _ e => ((nesting t).beside (nesting e)).above
  | .give e => (nestingOfOption e).above
  | .raise e c => ((nesting e).beside (nestingOfOption c)).above
  | .assert e m => ((nesting e).beside (nestingOfOption m)).above
  | .delete ts => (nestingOfAll ts).above
  | .branch e yes no =>
    (((nesting e).beside ((nestingOfBlock yes).behind Nesting.block)).beside
      ((nestingOfBlock no).behind (if isCondition no then 1 else Nesting.block))).above
  | .loop e body otherwise =>
    ((nesting e).beside (((nestingOfBlock body).beside (nestingOfBlock otherwise)).behind
      Nesting.block)).above
  | .each t e body otherwise =>
    (((nesting t).beside (nesting e)).beside
      (((nestingOfBlock body).beside (nestingOfBlock otherwise)).behind Nesting.block)).above
  | .attempt body handlers otherwise finally_ =>
    ((((nestingOfBlock body).beside (nestingOfHandlers handlers)).beside
      ((nestingOfBlock otherwise).beside (nestingOfBlock finally_))).behind Nesting.block).above
  | .define _ ps body =>
    ((nestingOfParameters ps).beside ((nestingOfBlock body).behind Nesting.block)).above
  | .declare _ | .raiseAgain | .pass | .leave | .next => { parts := 1 }

def nestingOfBlock : List Stmt → Nesting
  | [] => {}
  | s :: ss => (nestingOfStatement s).beside (nestingOfBlock ss)

def nestingOfHandlers : List Handler → Nesting
  | [] => {}
  | .mk c _ body :: hs =>
    ((nestingOfOption c).beside (nestingOfBlock body)).beside (nestingOfHandlers hs)

end

end TemplateEngine.Script.Grammar
