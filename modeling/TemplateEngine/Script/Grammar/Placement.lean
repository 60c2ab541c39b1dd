import TemplateEngine.Script.Syntax

set_option autoImplicit false

/-!
# Where statements may stand

Some statements are at home in a function or a loop only, and loops and attempts may be nested only
so deep within one function.
-/
namespace TemplateEngine.Script.Grammar

structure Place where
  inFunction : Bool := false
  inLoop : Bool := false
  /-- Loops and parts of attempts around the statement. -/
  nested : Nat := 0
  deriving DecidableEq, Repr

namespace Place

def maxNested : Nat := 20

def nest? (p : Place) (n : Nat) : Option Place :=
  if p.nested + n ≤ maxNested then some { p with nested := p.nested + n } else none

end Place

mutual

def fits (p : Place) : Stmt → Bool
  | .give _ => p.inFunction
  | .leave | .next => p.inLoop
  | .branch _ yes no => allFit p yes && allFit p no
  | .loop _ body otherwise | .each _ _ body otherwise =>
    match p.nest? 1 with
    | none => false
    | some q => allFit { q with inLoop := true } body && allFit p otherwise
  | .attempt body handlers otherwise finally_ =>
    let outer := if finally_.isEmpty then 0 else 1
    let inner := if handlers.isEmpty then 0 else 1
    match p.nest? outer, p.nest? (outer + inner) with
    | some q, some r =>
      allFit r body && allFit q otherwise && handlersFit q handlers && allFit q finally_
    | _, _ => false
  | .define _ _ body => allFit { inFunction := true } body
  | _ => true

def allFit (p : Place) : List Stmt → Bool
  | [] => true
  | s :: ss => fits p s && allFit p ss

/-- Whether handlers may stand at a place, each two parts deep. -/
def handlersFit (p : Place) : List Handler → Bool
  | [] => true
  | .mk _ _ body :: hs =>
    (match p.nest? 2 with
      | none => false
      | some q => allFit q body) && handlersFit p hs

end

end TemplateEngine.Script.Grammar
