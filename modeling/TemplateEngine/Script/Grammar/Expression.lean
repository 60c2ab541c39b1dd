import TemplateEngine.Script.Lexeme

set_option autoImplicit false

/-!
# The grammar of expressions

Each function reads one kind of phrase at the start of some lexemes and gives back what is left. A
phrase of one level is made of phrases of the next, from conditional expressions down to atoms. The
number that is counted down bounds how deep the calls go; `fuel` is enough for all of them.
-/
namespace TemplateEngine.Script.Grammar

abbrev Rest := List Lexeme

def debugName : Text := "__debug__".toList

def fuel (ts : List Lexeme) : Nat := 24 * (ts.length + 1)

def symbol? (s : Symbol) : List Lexeme → Option (List Lexeme)
  | .symbol t :: ts => if t = s then some ts else none
  | _ => none

def word? (w : Word) : List Lexeme → Option (List Lexeme)
  | .word v :: ts => if v = w then some ts else none
  | _ => none

def startsExpression : List Lexeme → Bool
  | .name _ :: _ | .int _ :: _ | .float _ :: _ | .imaginary _ :: _ | .text _ :: _ => true
  | .word w :: _ => w = .none_ || w = .true_ || w = .false_ || w = .not || w = .lambda
  | .symbol s :: _ =>
    s = .parenOpen || s = .bracketOpen || s = .braceOpen || s = .ellipsis || s = .invert
      || s = .operator .add || s = .operator .subtract
  | [] => false

def startsItem (ts : List Lexeme) : Bool :=
  startsExpression ts || (symbol? (.operator .multiply) ts).isSome

def topLevel : Nat := 5

/-- The binary operators of a level, which bind tighter the lower it is. -/
def operatorsAt : Nat → List BinaryOp
  | 5 => [.bitOr]
  | 4 => [.bitXor]
  | 3 => [.bitAnd]
  | 2 => [.shiftLeft, .shiftRight]
  | 1 => [.add, .subtract]
  | _ => [.multiply, .divide, .floorDivide, .modulo]

def operatorAt? (level : Nat) : List Lexeme → Option (BinaryOp × Rest)
  | .symbol (.operator op) :: ts => if op ∈ operatorsAt level then some (op, ts) else none
  | _ => none

def comparison? : List Lexeme → Option (CompareOp × Rest)
  | .symbol (.compare op) :: ts => some (op, ts)
  | .word .in_ :: ts => some (.member, ts)
  | .word .not :: .word .in_ :: ts => some (.notMember, ts)
  | .word .is :: .word .not :: ts => some (.notSame, ts)
  | .word .is :: ts => some (.same, ts)
  | _ => none

def joinTexts : List Lexeme → Str × List Lexeme
  | .text t :: ts => let (u, r) := joinTexts ts; (t ++ u, r)
  | ts => ([], ts)

def sign? : List Lexeme → Option (UnaryOp × Rest)
  | .symbol (.operator .subtract) :: ts => some (.negate, ts)
  | .symbol (.operator .add) :: ts => some (.plus, ts)
  | .symbol .invert :: ts => some (.invert, ts)
  | _ => none

/-- Whether a value may be assigned to an expression. Among the items of a list or a tuple one may have
a star in front. -/
def isTarget : Expr → Bool
  | .name _ => true
  | .attribute _ n => n ≠ debugName
  | .subscript _ _ => true
  | .grouped e => isTarget e
  | .list items | .tuple items => areTargets false items
  | _ => false
where
  areTargets (starred : Bool) : List Expr → Bool
    | [] => true
    | .starred e :: es => !starred && isTarget e && areTargets true es
    | e :: es => isTarget e && areTargets starred es

def isDeletable : Expr → Bool
  | .name _ => true
  | .attribute _ n => n ≠ debugName
  | .subscript _ _ => true
  | .grouped e => isDeletable e
  | .list items | .tuple items => areDeletable items
  | _ => false
where
  areDeletable : List Expr → Bool
    | [] => true
    | e :: es => isDeletable e && areDeletable es

def leaf? : List Lexeme → Option (Expr × Rest)
  | .name n :: ts => some (if n = debugName then .constant (.bool true) else .name n, ts)
  | .word .none_ :: ts => some (.constant .none, ts)
  | .word .true_ :: ts => some (.constant (.bool true), ts)
  | .word .false_ :: ts => some (.constant (.bool false), ts)
  | .int n :: ts => some (.constant (.int n), ts)
  | .float f :: ts => some (.constant (.float f), ts)
  | .imaginary f :: ts => some (.constant (.complex ⟨.zero, f⟩), ts)
  | .text t :: ts => let (u, r) := joinTexts ts; some (.constant (.text (t ++ u)), r)
  | .symbol .ellipsis :: ts => some (.constant .ellipsis, ts)
  | _ => none

/-- What stands between the brackets behind a function's name: a parameter, the mark behind parameters
that take no name, or the mark in front of those that take only names. -/
inductive ParameterItem where
  | parameter (p : Parameter)
  | slash
  | star

inductive ParameterStage where
  | front
  /-- Behind the mark that ends parameters without names. -/
  | plain
  /-- Behind a star, with nothing behind it yet. -/
  | star
  | named
  | done
  deriving DecidableEq

/-- The parameters of a function from what is written, unless they stand in a wrong order, have a name
twice, or one without a default value follows one with it. -/
def arrange : ParameterStage → (seen : List Text) → (defaults : Bool) → List ParameterItem →
    Option (List Parameter)
  | stage, _, _, [] => if stage = .star then none else some []
  | stage, seen, defaults, .slash :: items => do
    guard (stage = .front && !seen.isEmpty)
    arrange .plain seen defaults items
  | stage, seen, defaults, .star :: items => do
    guard (stage = .front || stage = .plain)
    arrange .star seen defaults items
  | stage, seen, defaults, .parameter (.mk n k d) :: items => do
    guard (!seen.contains n && n ≠ debugName)
    match k with
    | .others =>
      guard (stage = .front || stage = .plain)
      (arrange .named (n :: seen) defaults items).map (.mk n k d :: ·)
    | .namedOthers =>
      guard (stage ≠ .star && stage ≠ .done)
      (arrange .done (n :: seen) defaults items).map (.mk n k d :: ·)
    | _ =>
      match stage with
      | .done => none
      | .star | .named => (arrange .named (n :: seen) defaults items).map (.mk n .named d :: ·)
      | stage =>
        guard (d.isSome || !defaults)
        (arrange stage (n :: seen) d.isSome items).map (.mk n .plain d :: ·)

def parametersOf? (items : List ParameterItem) : Option (List Parameter) := do
  let ps ← arrange .front [] false items
  let isSlash : ParameterItem → Bool
    | .slash => true
    | _ => false
  let count := (items.findIdx? isSlash).getD 0
  some ((ps.take count).map (fun p => .mk p.name .positional p.default?) ++ ps.drop count)

/-- Whether arguments stand in an allowed order: none without a name behind a named one, none that is
spread behind one that is spread by name, and no name twice. -/
def argumentsFit (seen : List Text) (named spreadNamed : Bool) : List Argument → Bool
  | [] => true
  | .positional _ :: as => !named && !spreadNamed && argumentsFit seen named spreadNamed as
  | .spread _ :: as => !spreadNamed && argumentsFit seen named spreadNamed as
  | .named n _ :: as => !seen.contains n && argumentsFit (n :: seen) true spreadNamed as
  | .spreadNamed _ :: as => argumentsFit seen named true as

mutual

def expression : Nat → List Lexeme → Option (Expr × Rest)
  | 0, _ => none
  | n + 1, .word .lambda :: ts => do
    let (items, ts) ← parameterItems n .colon ts
    let ps ← parametersOf? items
    let (body, ts) ← expression n ts
    some (.lambda ps body, ts)
  | n + 1, ts => do
    let (a, ts) ← disjunction n ts
    match word? .if_ ts with
    | none => some (a, ts)
    | some ts =>
      let (b, ts) ← disjunction n ts
      let ts ← word? .else_ ts
      let (c, ts) ← expression n ts
      some (.conditional b a c, ts)

def parameterItems : Nat → (close : Symbol) → List Lexeme → Option (List ParameterItem × Rest)
  | 0, _, _ => none
  | n + 1, close, ts =>
    match symbol? close ts with
    | some ts => some ([], ts)
    | none => do
      let (p, ts) ← parameterItem n ts
      match symbol? .comma ts with
      | some ts =>
        let (ps, ts) ← parameterItems n close ts
        some (p :: ps, ts)
      | none =>
        let ts ← symbol? close ts
        some ([p], ts)

def parameterItem : Nat → List Lexeme → Option (ParameterItem × Rest)
  | 0, _ => none
  | _ + 1, .symbol (.operator .divide) :: ts => some (.slash, ts)
  | _ + 1, .symbol (.operator .multiply) :: .name p :: ts =>
    some (.parameter (.mk p .others none), ts)
  | _ + 1, .symbol (.operator .multiply) :: ts => some (.star, ts)
  | _ + 1, .symbol (.operator .power) :: .name p :: ts =>
    some (.parameter (.mk p .namedOthers none), ts)
  | n + 1, .name p :: .symbol .assign :: ts => do
    let (e, ts) ← expression n ts
    some (.parameter (.mk p .plain (some e)), ts)
  | _ + 1, .name p :: ts => some (.parameter (.mk p .plain none), ts)
  | _, _ => none

def disjunction : Nat → List Lexeme → Option (Expr × Rest)
  | 0, _ => none
  | n + 1, ts => do
    let (a, ts) ← conjunction n ts
    match word? .or ts with
    | none => some (a, ts)
    | some ts =>
      let (b, ts) ← disjunction n ts
      some (.either a b, ts)

def conjunction : Nat → List Lexeme → Option (Expr × Rest)
  | 0, _ => none
  | n + 1, ts => do
    let (a, ts) ← inversion n ts
    match word? .and ts with
    | none => some (a, ts)
    | some ts =>
      let (b, ts) ← conjunction n ts
      some (.both a b, ts)

def inversion : Nat → List Lexeme → Option (Expr × Rest)
  | 0, _ => none
  | n + 1, ts =>
    match word? .not ts with
    | some ts => do
      let (a, ts) ← inversion n ts
      some (.unary .not a, ts)
    | none => do
      let (a, ts) ← binary n topLevel ts
      let (others, ts) ← compared n ts
      some (if others.isEmpty then a else .compare a others, ts)

def compared : Nat → List Lexeme → Option (List (CompareOp × Expr) × Rest)
  | 0, _ => none
  | n + 1, ts =>
    match comparison? ts with
    | none => some ([], ts)
    | some (op, ts) => do
      let (a, ts) ← binary n topLevel ts
      let (others, ts) ← compared n ts
      some ((op, a) :: others, ts)

def binary : Nat → (level : Nat) → List Lexeme → Option (Expr × Rest)
  | 0, _, _ => none
  | n + 1, 0, ts => do
    let (a, ts) ← signed n ts
    binaryRest n 0 a ts
  | n + 1, level + 1, ts => do
    let (a, ts) ← binary n level ts
    binaryRest n (level + 1) a ts

def binaryRest : Nat → (level : Nat) → Expr → List Lexeme → Option (Expr × Rest)
  | 0, _, _, _ => none
  | n + 1, level, a, ts =>
    match operatorAt? level ts with
    | none => some (a, ts)
    | some (op, ts) => do
      let (b, ts) ← if level = 0 then signed n ts else binary n (level - 1) ts
      binaryRest n level (.binary op a b) ts

def signed : Nat → List Lexeme → Option (Expr × Rest)
  | 0, _ => none
  | n + 1, ts =>
    match sign? ts with
    | some (op, ts) => do
      let (a, ts) ← signed n ts
      some (.unary op a, ts)
    | none => do
      let (a, ts) ← primary n ts
      match symbol? (.operator .power) ts with
      | none => some (a, ts)
      | some ts =>
        let (b, ts) ← signed n ts
        some (.binary .power a b, ts)

def primary : Nat → List Lexeme → Option (Expr × Rest)
  | 0, _ => none
  | n + 1, ts => do
    let (a, ts) ← atom n ts
    trailers n a ts

def trailers : Nat → Expr → List Lexeme → Option (Expr × Rest)
  | 0, _, _ => none
  | n + 1, a, .symbol .dot :: .name m :: ts => trailers n (.attribute a m) ts
  | n + 1, a, .symbol .parenOpen :: ts => do
    let (arguments, ts) ← arguments n true ts
    guard (argumentsFit [] false false arguments)
    trailers n (.call a arguments) ts
  | n + 1, a, .symbol .bracketOpen :: ts => do
    let (i, ts) ← index n ts
    let ts ← symbol? .bracketClose ts
    trailers n (.subscript a i) ts
  | _ + 1, _, .symbol .dot :: _ => none
  | _ + 1, a, ts => some (a, ts)

def atom : Nat → List Lexeme → Option (Expr × Rest)
  | 0, _ => none
  | _ + 1, .symbol .parenOpen :: .symbol .parenClose :: ts => some (.tuple [], ts)
  | n + 1, .symbol .parenOpen :: ts => do
    let (a, ts) ← item n ts
    match symbol? .parenClose ts, word? .for_ ts with
    | some ts, _ => if a.isStarred then none else some (.grouped a, ts)
    | none, some _ => comprehension n .iterator a .parenClose ts
    | none, none =>
      let (es, ts) ← items n .parenClose ts
      some (.tuple (a :: es), ts)
  | _ + 1, .symbol .bracketOpen :: .symbol .bracketClose :: ts => some (.list [], ts)
  | n + 1, .symbol .bracketOpen :: ts => do
    let (a, ts) ← item n ts
    match word? .for_ ts with
    | some _ => comprehension n .list a .bracketClose ts
    | none =>
      let (es, ts) ← items n .bracketClose ts
      some (.list (a :: es), ts)
  | n + 1, .symbol .braceOpen :: ts => braced n ts
  | _ + 1, ts => leaf? ts

def item : Nat → List Lexeme → Option (Expr × Rest)
  | 0, _ => none
  | n + 1, ts =>
    match symbol? (.operator .multiply) ts with
    | none => expression n ts
    | some ts => do
      let (e, ts) ← binary n topLevel ts
      some (.starred e, ts)

def items : Nat → (close : Symbol) → List Lexeme → Option (List Expr × Rest)
  | 0, _, _ => none
  | n + 1, close, ts =>
    match symbol? close ts with
    | some ts => some ([], ts)
    | none => do
      let ts ← symbol? .comma ts
      match symbol? close ts with
      | some ts => some ([], ts)
      | none =>
        let (e, ts) ← item n ts
        let (es, ts) ← items n close ts
        some (e :: es, ts)

def comprehension : Nat → Collection → (item : Expr) → (close : Symbol) → List Lexeme →
    Option (Expr × Rest)
  | 0, _, _, _, _ => none
  | n + 1, kind, a, close, ts => do
    guard (!a.isStarred)
    let (cs, ts) ← clauses n ts
    let ts ← symbol? close ts
    some (.comprehension kind a cs, ts)

def braced : Nat → List Lexeme → Option (Expr × Rest)
  | 0, _ => none
  | n + 1, ts =>
    match symbol? .braceClose ts with
    | some ts => some (.dict [], ts)
    | none => do
      let (e, ts) ← entry n ts
      match e, word? .for_ ts with
      | .pair k v, some _ => comprehension n .dict (.tuple [k, v]) .braceClose ts
      | e, _ =>
        let (es, ts) ← entries n ts
        some (.dict (e :: es), ts)

def entry : Nat → List Lexeme → Option (Entry × Rest)
  | 0, _ => none
  | n + 1, ts =>
    match symbol? (.operator .power) ts with
    | some ts => do
      let (e, ts) ← binary n topLevel ts
      some (.spread e, ts)
    | none => do
      let (k, ts) ← expression n ts
      let ts ← symbol? .colon ts
      let (v, ts) ← expression n ts
      some (.pair k v, ts)

def entries : Nat → List Lexeme → Option (List Entry × Rest)
  | 0, _ => none
  | n + 1, ts =>
    match symbol? .braceClose ts with
    | some ts => some ([], ts)
    | none => do
      let ts ← symbol? .comma ts
      match symbol? .braceClose ts with
      | some ts => some ([], ts)
      | none =>
        let (e, ts) ← entry n ts
        let (es, ts) ← entries n ts
        some (e :: es, ts)

/-- The arguments of a call up to its closing bracket. The first one may be a comprehension without
brackets of its own, if it is the only one. -/
def arguments : Nat → (first : Bool) → List Lexeme → Option (List Argument × Rest)
  | 0, _, _ => none
  | n + 1, first, ts =>
    match symbol? .parenClose ts with
    | some ts => some ([], ts)
    | none => do
      let (a, ts) ← argument n ts
      match symbol? .comma ts, a, word? .for_ ts with
      | some ts, a, _ =>
        let (as, ts) ← arguments n false ts
        some (a :: as, ts)
      | none, .positional e, some _ =>
        guard first
        let (e, ts) ← comprehension n .iterator e .parenClose ts
        some ([.positional e], ts)
      | none, a, _ =>
        let ts ← symbol? .parenClose ts
        some ([a], ts)

def argument : Nat → List Lexeme → Option (Argument × Rest)
  | 0, _ => none
  | n + 1, .symbol (.operator .multiply) :: ts => do
    let (e, ts) ← expression n ts
    some (.spread e, ts)
  | n + 1, .symbol (.operator .power) :: ts => do
    let (e, ts) ← expression n ts
    some (.spreadNamed e, ts)
  | n + 1, .name m :: .symbol .assign :: ts => do
    guard (m ≠ debugName)
    let (e, ts) ← expression n ts
    some (.named m e, ts)
  | n + 1, ts => do
    let (e, ts) ← expression n ts
    some (.positional e, ts)

def index : Nat → List Lexeme → Option (Expr × Rest)
  | 0, _ => none
  | n + 1, ts => do
    let (a, ts) ← slice n ts
    match symbol? .comma ts with
    | none => some (if a.isStarred then .tuple [a] else a, ts)
    | some ts =>
      let (es, ts) ← slices n ts
      some (.tuple (a :: es), ts)

def slices : Nat → List Lexeme → Option (List Expr × Rest)
  | 0, _ => none
  | n + 1, ts =>
    match symbol? .bracketClose ts with
    | some _ => some ([], ts)
    | none => do
      let (a, ts) ← slice n ts
      match symbol? .comma ts with
      | none => some ([a], ts)
      | some ts =>
        let (es, ts) ← slices n ts
        some (a :: es, ts)

def slice : Nat → List Lexeme → Option (Expr × Rest)
  | 0, _ => none
  | n + 1, .symbol (.operator .multiply) :: ts => do
    let (e, ts) ← binary n topLevel ts
    some (.starred e, ts)
  | n + 1, ts => do
    let (a, ts) ← bound n ts
    match a, symbol? .colon ts with
    | some a, none => some (a, ts)
    | none, none => none
    | a, some ts =>
      let (b, ts) ← bound n ts
      match symbol? .colon ts with
      | none => some (.slice a b none, ts)
      | some ts =>
        let (c, ts) ← bound n ts
        some (.slice a b c, ts)

def bound : Nat → List Lexeme → Option (Option Expr × Rest)
  | 0, _ => none
  | n + 1, ts =>
    if startsExpression ts then do
      let (a, ts) ← expression n ts
      some (some a, ts)
    else some (none, ts)

def clauses : Nat → List Lexeme → Option (List Clause × Rest)
  | 0, _ => none
  | n + 1, ts =>
    match word? .for_ ts with
    | none => some ([], ts)
    | some ts => do
      let (target, ts) ← targets n ts
      let ts ← word? .in_ ts
      let (source, ts) ← disjunction n ts
      let (tests, ts) ← conditions n ts
      let (cs, ts) ← clauses n ts
      some (.mk target source tests :: cs, ts)

def conditions : Nat → List Lexeme → Option (List Expr × Rest)
  | 0, _ => none
  | n + 1, ts =>
    match word? .if_ ts with
    | none => some ([], ts)
    | some ts => do
      let (e, ts) ← disjunction n ts
      let (es, ts) ← conditions n ts
      some (e :: es, ts)

def targets : Nat → List Lexeme → Option (Expr × Rest)
  | 0, _ => none
  | n + 1, ts => do
    let (a, ts) ← target n ts
    match symbol? .comma ts with
    | none =>
      guard (isTarget a)
      some (a, ts)
    | some ts =>
      let (es, ts) ← moreTargets n ts
      guard (isTarget (.tuple (a :: es)))
      some (.tuple (a :: es), ts)

def target : Nat → List Lexeme → Option (Expr × Rest)
  | 0, _ => none
  | n + 1, .symbol (.operator .multiply) :: ts => do
    let (a, ts) ← binary n topLevel ts
    some (.starred a, ts)
  | n + 1, ts => binary n topLevel ts

def moreTargets : Nat → List Lexeme → Option (List Expr × Rest)
  | 0, _ => none
  | n + 1, ts =>
    if startsItem ts then do
      let (a, ts) ← target n ts
      match symbol? .comma ts with
      | none => some ([a], ts)
      | some ts =>
        let (es, ts) ← moreTargets n ts
        some (a :: es, ts)
    else some ([], ts)

end

def moreItems : Nat → List Lexeme → Option (List Expr × Rest)
  | 0, _ => none
  | n + 1, ts =>
    if startsItem ts then do
      let (e, ts) ← item (fuel ts) ts
      match symbol? .comma ts with
      | none => some ([e], ts)
      | some ts =>
        let (es, ts) ← moreItems n ts
        some (e :: es, ts)
    else some ([], ts)

def expressions (ts : List Lexeme) : Option (Expr × Rest) := do
  let (e, ts) ← item (fuel ts) ts
  match symbol? .comma ts with
  | none => if e.isStarred then none else some (e, ts)
  | some ts =>
    let (es, ts) ← moreItems (fuel ts) ts
    some (.tuple (e :: es), ts)

end TemplateEngine.Script.Grammar
