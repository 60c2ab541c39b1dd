import TemplateEngine.Script.Arithmetic

set_option autoImplicit false

/-!
# Constant expressions

An expression of constants is worked out once, before the program runs, unless that is an error, would
make something large, or gives what differs from itself. What it gives is written in the program as much
as a constant is.
-/
namespace TemplateEngine.Script

namespace Constant

mutual

def value : Constant → Value
  | none => .none
  | ellipsis => .ellipsis
  | bool b => .bool b
  | int i => if (Value.ofInt i).isShared then .ofInt i else .int i .literal
  | float f => .float f .literal
  | complex c => .complex c .literal
  | text t => .ofLiteral t
  | tuple [] => .ofItems []
  | tuple items => .tuple (values items) .literal

def values : List Constant → List Value
  | [] => []
  | c :: cs => value c :: values cs

end

def number? : Constant → Option Number
  | bool b => some (.int b.toNat)
  | int i => some (.int i)
  | float f => some (.float f)
  | complex c => some (.complex c)
  | _ => Option.none

def integer? (c : Constant) : Option Int :=
  match c.number? with
  | some (.int i) => some i
  | _ => Option.none

def ofNumber : Number → Constant
  | .int i => int i
  | .float f => float f
  | .complex c => complex c

/-- Whether a number differs from itself. -/
def isUndefined : Number → Bool
  | .int _ => false
  | .float f => f = .nan
  | .complex c => c.re = .nan || c.im = .nan

def truthy : Constant → Bool
  | none => false
  | ellipsis => true
  | text t => t ≠ []
  | tuple items => !items.isEmpty
  | c =>
    match c.number? with
    | some n => !n.equal (.int 0)
    | Option.none => true

def bits (i : Int) : Nat := if i = 0 then 0 else i.natAbs.log2 + 1

/-- How many binary digits an integer may have that is worked out by an operator that can make it
large. -/
def maxBits : Nat := 128

def maxText : Nat := 4096

def maxTuple : Nat := 256

/-- How many items a tuple that is repeated may have with those that are in them. -/
def maxTotal : Nat := 1024

mutual

def total : Constant → Nat
  | tuple items => items.length + totalOf items
  | _ => 0

def totalOf : List Constant → Nat
  | [] => 0
  | c :: cs => total c + totalOf cs

end

def staysSmall (op : BinaryOp) (i j : Int) : Bool :=
  match op with
  | .multiply => i = 0 || j = 0 || bits i + bits j ≤ maxBits
  | .power => j ≤ 0 || bits i * j.toNat ≤ maxBits
  | .shiftLeft => i = 0 || j ≤ 0 || bits i + j.toNat ≤ maxBits
  | _ => true

def unary? (op : UnaryOp) (c : Constant) : Option Constant :=
  match op, c.number? with
  | .not, _ => some (bool !c.truthy)
  | op, some n => (n.unary op).toOption.map ofNumber
  | _, Option.none => Option.none

def numbers? (op : BinaryOp) (c d : Constant) (n m : Number) : Option Constant :=
  match Number.binary op n m, c, d with
  | .ok (.int i), bool _, bool _ => some (if Value.staysBool op then bool (i = 1) else int i)
  | .ok r, _, _ => if isUndefined r then Option.none else some (ofNumber r)
  | .error _, _, _ => Option.none

def repeat? (c : Constant) (i : Int) : Option Constant :=
  match c with
  | text t =>
    if t ≠ [] && (i < 0 || maxText < i * t.length) then Option.none
    else (Value.repeated .overflowError t i).toOption.map text
  | tuple items =>
    if !items.isEmpty && (i < 0 || maxTuple < i * items.length)
      || maxTotal < (tuple items).total then Option.none
    else (Value.repeated .memoryError items i).toOption.map tuple
  | _ => Option.none

def binary? (op : BinaryOp) (c d : Constant) : Option Constant :=
  match c.number?, d.number? with
  | some n, some m =>
    match c.integer?, d.integer? with
    | some i, some j => if staysSmall op i j then numbers? op c d n m else Option.none
    | _, _ => numbers? op c d n m
  | _, _ =>
    match op, c, d with
    | .add, text s, text t => some (text (s ++ t))
    | .add, tuple xs, tuple ys => some (tuple (xs ++ ys))
    | .multiply, c, d =>
      match c.integer?, d.integer? with
      | some i, _ => repeat? d i
      | _, some i => repeat? c i
      | _, _ => Option.none
    | _, _, _ => Option.none

def item? (c index : Constant) : Option Constant := do
  let i ← index.integer?
  let place (n : Nat) : Int := if i < 0 then i + n else i
  match c with
  | text t => if 0 ≤ place t.length then t[(place t.length).toNat]?.map (text [·]) else Option.none
  | tuple items => if 0 ≤ place items.length then items[(place items.length).toNat]? else Option.none
  | _ => Option.none

end Constant

namespace Expr

def constant? : Expr → Option Constant
  | constant c => some c
  | _ => none

def constants? (es : List Expr) : Option (List Constant) := es.mapM constant?

def orConstant (e : Expr) (c : Option Constant) : Expr := (c.map constant).getD e

/-- An expression with constants worked out at its root only. -/
def foldRoot (e : Expr) : Expr :=
  match e with
  | tuple es => e.orConstant ((constants? es).map .tuple)
  | unary op a => e.orConstant (a.constant?.bind (Constant.unary? op))
  | binary op a b => e.orConstant do Constant.binary? op (← a.constant?) (← b.constant?)
  | subscript a i => e.orConstant do Constant.item? (← a.constant?) (← i.constant?)
  | e => e

mutual

/-- An expression with constants worked out and without brackets around others. -/
def fold : Expr → Expr
  | list es => list (foldAll es)
  | tuple es => foldRoot (tuple (foldAll es))
  | dict es => dict (foldEntries es)
  | starred e => starred (fold e)
  | comprehension kind item clauses => comprehension kind (fold item) (foldClauses clauses)
  | lambda ps body => lambda (foldParameters ps) (fold body)
  | call f as => call (fold f) (foldArguments as)
  | .attribute e n => .attribute (fold e) n
  | subscript e i => foldRoot (subscript (fold e) (fold i))
  | slice a b c => slice (foldOption a) (foldOption b) (foldOption c)
  | unary op e => foldRoot (unary op (fold e))
  | binary op a b => foldRoot (binary op (fold a) (fold b))
  | compare e others => compare (fold e) (foldComparisons others)
  | both a b => both (fold a) (fold b)
  | either a b => either (fold a) (fold b)
  | conditional test yes no => conditional (fold test) (fold yes) (fold no)
  | constant c => constant c
  | name n => name n
  | grouped e => fold e

def foldAll : List Expr → List Expr
  | [] => []
  | e :: es => fold e :: foldAll es

/-- A target with constants worked out; the target itself is none. -/
def foldTarget : Expr → Expr
  | list es => list (foldTargets es)
  | tuple es => tuple (foldTargets es)
  | starred e => starred (foldTarget e)
  | grouped e => foldTarget e
  | .attribute e n => .attribute (fold e) n
  | subscript e i => subscript (fold e) (fold i)
  | e => e

def foldTargets : List Expr → List Expr
  | [] => []
  | e :: es => foldTarget e :: foldTargets es

def foldOption : Option Expr → Option Expr
  | none => none
  | some e => some (fold e)

def foldComparisons : List (CompareOp × Expr) → List (CompareOp × Expr)
  | [] => []
  | (op, e) :: es => (op, fold e) :: foldComparisons es

def foldEntries : List Entry → List Entry
  | [] => []
  | .pair k e :: es => .pair (fold k) (fold e) :: foldEntries es
  | .spread e :: es => .spread (fold e) :: foldEntries es

def foldParameters : List Parameter → List Parameter
  | [] => []
  | .mk n k d :: ps => .mk n k (foldOption d) :: foldParameters ps

def foldArguments : List Argument → List Argument
  | [] => []
  | .positional e :: as => .positional (fold e) :: foldArguments as
  | .named n e :: as => .named n (fold e) :: foldArguments as
  | .spread e :: as => .spread (fold e) :: foldArguments as
  | .spreadNamed e :: as => .spreadNamed (fold e) :: foldArguments as

def foldClauses : List Clause → List Clause
  | [] => []
  | .mk t e cs :: rest => .mk (foldTarget t) (fold e) (foldAll cs) :: foldClauses rest

end

end Expr

mutual

def Stmt.fold : Stmt → Stmt
  | .expression e => .expression e.fold
  | .assign ts e => .assign (Expr.foldTargets ts) e.fold
  | .update t op e => .update t.foldTarget op e.fold
  | .give e => .give (Expr.foldOption e)
  | .raise e c => .raise e.fold (Expr.foldOption c)
  | .assert e m => .assert e.fold (Expr.foldOption m)
  | .delete ts => .delete (Expr.foldTargets ts)
  | .branch e yes no => .branch e.fold (Stmt.foldAll yes) (Stmt.foldAll no)
  | .loop e body otherwise => .loop e.fold (Stmt.foldAll body) (Stmt.foldAll otherwise)
  | .each t e body otherwise =>
    .each t.foldTarget e.fold (Stmt.foldAll body) (Stmt.foldAll otherwise)
  | .attempt body handlers otherwise finally_ =>
    .attempt (Stmt.foldAll body) (Stmt.foldHandlers handlers) (Stmt.foldAll otherwise)
      (Stmt.foldAll finally_)
  | .define n ps body => .define n (Expr.foldParameters ps) (Stmt.foldAll body)
  | s => s

def Stmt.foldAll : List Stmt → List Stmt
  | [] => []
  | s :: ss => s.fold :: Stmt.foldAll ss

def Stmt.foldHandlers : List Handler → List Handler
  | [] => []
  | .mk c n body :: hs => .mk (Expr.foldOption c) n (Stmt.foldAll body) :: Stmt.foldHandlers hs

end

end TemplateEngine.Script
