import TemplateEngine.Script.Grammar.Expression
import TemplateEngine.Script.Outline

set_option autoImplicit false

/-!
# The grammar of statements

A line of an outline is either some simple statements or the head of a block, whose body stands
behind the colon or is indented under it. Heads such as `else` continue the statement before them, so
the lines of a block are put together from the last to the first.
-/
namespace TemplateEngine.Script.Grammar

inductive Head where
  | if_ (test : Expr)
  | elif (test : Expr)
  | else_
  | while_ (test : Expr)
  | for_ (target items : Expr)
  | try_
  | except (classes : Option Expr) (name : Option Text)
  | finally_
  | def_ (name : Text) (parameters : List Parameter)

inductive Piece where
  | simple (statements : List Stmt)
  | block (head : Head) (body : List Stmt)

inductive Continuation where
  | none
  /-- An `else` with its body. -/
  | otherwise (body : List Stmt)
  /-- An `elif` and all that follows, which only a condition takes. -/
  | chain (body : List Stmt)
  /-- Handlers, and what follows them, which only `try` takes. -/
  | ending (handlers : List Handler) (otherwise finally_ : List Stmt)

def isUpdatable : Expr → Bool
  | .name _ => true
  | .attribute _ n => n ≠ debugName
  | .subscript _ _ => true
  | .grouped e => isUpdatable e
  | _ => false

/-- The right-hand sides of assignments; all but the last are targets. The number bounds them. -/
def assigned : Nat → List Lexeme → Option (List Expr × Expr × Rest)
  | 0, _ => none
  | n + 1, ts => do
    let (e, ts) ← expressions ts
    match symbol? .assign ts with
    | none => some ([], e, ts)
    | some ts =>
      guard (isTarget e)
      let (es, v, ts) ← assigned n ts
      some (e :: es, v, ts)

def expressionStatement (ts : List Lexeme) : Option (Stmt × Rest) := do
  let (e, ts) ← expressions ts
  match ts with
  | .symbol .assign :: ts =>
    guard (isTarget e)
    let (es, v, ts) ← assigned (ts.length + 1) ts
    some (.assign (e :: es) v, ts)
  | .symbol (.update op) :: ts =>
    guard (isUpdatable e)
    let (v, ts) ← expressions ts
    some (.update e op v, ts)
  | .symbol .colon :: ts =>
    match e.ungrouped with
    | .name n =>
      let (_, ts) ← expression (fuel ts) ts
      match symbol? .assign ts with
      | none => some (if e.isGrouped then .pass else .declare n, ts)
      | some ts =>
        let (v, ts) ← expressions ts
        some (.assign [.name n] v, ts)
    | _ => none
  | ts => some (.expression e, ts)

def simple : List Lexeme → Option (Stmt × Rest)
  | .word .pass :: ts => some (.pass, ts)
  | .word .break_ :: ts => some (.leave, ts)
  | .word .continue_ :: ts => some (.next, ts)
  | .word .return_ :: ts =>
    if startsItem ts then do
      let (e, ts) ← expressions ts
      some (.give (some e), ts)
    else some (.give none, ts)
  | .word .raise :: ts =>
    if startsExpression ts then do
      let (e, ts) ← expression (fuel ts) ts
      match word? .from_ ts with
      | none => some (.raise e none, ts)
      | some ts =>
        let (c, ts) ← expression (fuel ts) ts
        some (.raise e (some c), ts)
    else some (.raiseAgain, ts)
  | .word .assert :: ts => do
    let (e, ts) ← expression (fuel ts) ts
    match symbol? .comma ts with
    | none => some (.assert e none, ts)
    | some ts =>
      let (m, ts) ← expression (fuel ts) ts
      some (.assert e (some m), ts)
  | .word .del :: ts => do
    let (e, ts) ← expressions ts
    guard (isDeletable e)
    some (.delete [e], ts)
  | ts => expressionStatement ts

def simples : Nat → List Lexeme → Option (List Stmt)
  | 0, _ => none
  | n + 1, ts => do
    let (s, ts) ← simple ts
    match ts with
    | [] | [.symbol .semicolon] => some [s]
    | .symbol .semicolon :: ts => (simples n ts).map (s :: ·)
    | _ => none

def boundName : List Lexeme → Option (Option Text × Rest)
  | .word .as :: .name n :: ts => if n = debugName then none else some (some n, ts)
  | .word .as :: _ => none
  | ts => some (none, ts)

def head? : List Lexeme → Option (Head × Rest)
  | .word .if_ :: ts => do
    let (e, ts) ← expression (fuel ts) ts
    some (.if_ e, ts)
  | .word .elif :: ts => do
    let (e, ts) ← expression (fuel ts) ts
    some (.elif e, ts)
  | .word .else_ :: ts => some (.else_, ts)
  | .word .while_ :: ts => do
    let (e, ts) ← expression (fuel ts) ts
    some (.while_ e, ts)
  | .word .for_ :: ts => do
    let (target, ts) ← targets (fuel ts) ts
    let ts ← word? .in_ ts
    let (items, ts) ← expressions ts
    some (.for_ target items, ts)
  | .word .try_ :: ts => some (.try_, ts)
  | .word .except :: .symbol .colon :: ts => some (.except none none, .symbol .colon :: ts)
  | .word .except :: ts => do
    let (e, ts) ← expression (fuel ts) ts
    let (n, ts) ← boundName ts
    some (.except (some e) n, ts)
  | .word .finally_ :: ts => some (.finally_, ts)
  | .word .def_ :: .name f :: .symbol .parenOpen :: ts => do
    guard (f ≠ debugName)
    let (items, ts) ← parameterItems (fuel ts) .parenClose ts
    let ps ← parametersOf? items
    some (.def_ f ps, ts)
  | _ => none

def startsBlock : List Lexeme → Bool
  | .word w :: _ =>
    [.if_, .elif, .else_, .while_, .for_, .try_, .except, .finally_, .def_].contains w
  | _ => false

def piece (line : List Lexeme) (body : List Stmt) : Option Piece :=
  if startsBlock line then do
    let (h, ts) ← head? line
    match ts, body with
    | [.symbol .colon], _ :: _ => some (.block h body)
    | .symbol .colon :: ts, [] => (simples (ts.length + 1) ts).map (.block h)
    | _, _ => none
  else
    match body with
    | [] => (simples (line.length + 1) line).map .simple
    | _ :: _ => none

namespace Continuation

def otherwise? : Continuation → Option (List Stmt)
  | none => some []
  | otherwise body => some body
  | _ => Option.none

def chain? : Continuation → Option (List Stmt)
  | none => some []
  | otherwise body | chain body => some body
  | ending _ _ _ => Option.none

end Continuation

def addBlock (body : List Stmt) (k : Continuation) (rest : List Stmt) :
    Head → Option (Continuation × List Stmt)
  | .if_ test => do some (.none, .branch test body (← k.chain?) :: rest)
  | .elif test => do some (.chain [.branch test body (← k.chain?)], rest)
  | .while_ test => do some (.none, .loop test body (← k.otherwise?) :: rest)
  | .for_ target items => do some (.none, .each target items body (← k.otherwise?) :: rest)
  | .def_ f ps =>
    match k with
    | .none => some (.none, .define f ps body :: rest)
    | _ => none
  | .finally_ =>
    match k with
    | .none => some (.ending [] [] body, rest)
    | _ => none
  | .else_ =>
    match k with
    | .none => some (.otherwise body, rest)
    | .ending [] [] f => some (.ending [] body f, rest)
    | _ => none
  | .except classes name =>
    let h := Handler.mk classes name body
    match k with
    | .none => some (.ending [h] [] [], rest)
    | .otherwise o => some (.ending [h] o [], rest)
    | .ending hs o f =>
      if classes.isNone && !hs.isEmpty then none else some (.ending (h :: hs) o f, rest)
    | .chain _ => none
  | .try_ =>
    match k with
    | .ending [] (_ :: _) _ => none
    | .ending hs o f => some (.none, .attempt body hs o f :: rest)
    | _ => none

/-- Puts pieces together; what continues a statement that is not there is left over. -/
def assemble : List Piece → Option (Continuation × List Stmt)
  | [] => some (.none, [])
  | p :: ps => do
    let (k, rest) ← assemble ps
    match p, k with
    | .simple ss, .none => some (.none, ss ++ rest)
    | .simple _, _ => none
    | .block h body, k => addBlock body k rest h

def block (ps : List Piece) : Option (List Stmt) := do
  let (k, ss) ← assemble ps
  match k with
  | .none => some ss
  | _ => none

mutual

def ofOutline : Outline → Option Piece
  | .mk line body => do
    let ps ← ofOutlines body
    piece line (← block ps)

def ofOutlines : List Outline → Option (List Piece)
  | [] => some []
  | o :: os => do
    let p ← ofOutline o
    let ps ← ofOutlines os
    some (p :: ps)

end

def statements (os : List Outline) : Option (List Stmt) := do block (← ofOutlines os)

end TemplateEngine.Script.Grammar
