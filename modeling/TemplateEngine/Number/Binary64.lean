set_option autoImplicit false

/-!
# Binary floating-point numbers

Numbers with 53 significant bits and an exponent from -1074 to 971, held exactly. A quotient of
natural numbers is rounded to the nearest of them, and to the one with the even significand when two
are equally near. The scales are powers of two and of ten.
-/
namespace TemplateEngine

def twoTo (n : Nat) : Nat := Nat.pow 2 n

def tenTo (n : Nat) : Nat := Nat.pow 10 n

/-- A binary floating-point number; `finite` stands for `significand * 2 ^ exponent`. -/
inductive Binary64 where
  | finite (negative : Bool) (significand : Nat) (exponent : Int)
  | infinite (negative : Bool)
  | nan
  deriving DecidableEq, Repr

namespace Binary64

def minExponent : Int := -1074

def maxExponent : Int := 971

def zero : Binary64 := finite false 0 minExponent

def scaleDown (n d : Nat) (e : Int) : Nat × Nat :=
  match e with
  | .ofNat k => (n, d * twoTo k)
  | .negSucc k => (n * twoTo (k + 1), d)

def roundHalfEven (n d : Nat) : Nat :=
  let q := n / d
  let r := n % d
  if 2 * r < d then q else if d < 2 * r then q + 1 else if q % 2 = 0 then q else q + 1

/-- An exponent under which `n / d` has 53 bits before the point, as far as there is one. -/
def exponentFor (n d : Nat) : Int :=
  let guess : Int := (n.log2 : Int) - (d.log2 : Int) - 52
  let (a, b) := scaleDown n d guess
  let e := if a / b < twoTo 52 then guess - 1 else guess
  if e < minExponent then minExponent else e

def ofRatio (negative : Bool) (n d : Nat) : Binary64 :=
  if n = 0 then finite negative 0 minExponent
  else
    let e := exponentFor n d
    let (a, b) := scaleDown n d e
    let m := roundHalfEven a b
    let (m, e) := if m = twoTo 53 then (twoTo 52, e + 1) else (m, e)
    if maxExponent < e then infinite negative else finite negative m e

/-- The number nearest to `digits * 10 ^ exponent`. From `10 ^ 310` on the nearest one is infinite,
and up to `10 ^ -330` it is zero. -/
def ofDecimal (negative : Bool) (digits : Nat) (exponent : Int) : Binary64 :=
  let size : Int := (Nat.toDigits 10 digits).length + exponent
  if digits = 0 || size < -330 then finite negative 0 minExponent
  else if 310 < size then infinite negative
  else match exponent with
    | .ofNat k => ofRatio negative (digits * tenTo k) 1
    | .negSucc k => ofRatio negative digits (tenTo (k + 1))

def ofInt (i : Int) : Binary64 := ofRatio (i < 0) i.natAbs 1

def ratio (significand : Nat) (exponent : Int) : Nat × Nat :=
  scaleDown significand 1 (-exponent)

def toRatio? : Binary64 → Option (Int × Nat)
  | finite negative m e =>
    let (n, d) := ratio m e
    some (if negative then -(n : Int) else n, d)
  | _ => none

def negate : Binary64 → Binary64
  | finite s m e => finite (!s) m e
  | infinite s => infinite (!s)
  | nan => nan

def isZero : Binary64 → Bool
  | finite _ m _ => m = 0
  | _ => false

def compare? : Binary64 → Binary64 → Option Ordering
  | nan, _ | _, nan => none
  | infinite s, infinite t => some (compare (if s then (0 : Nat) else 1) (if t then 0 else 1))
  | infinite s, _ => some (if s then .lt else .gt)
  | _, infinite t => some (if t then .gt else .lt)
  | a, b =>
    match a.toRatio?, b.toRatio? with
    | some (n, d), some (k, l) => some (compare (n * l) (k * d))
    | _, _ => none

def truncate? (f : Binary64) : Option Int :=
  f.toRatio?.map fun (n, d) => n.tdiv d

end Binary64
end TemplateEngine
