import TemplateEngine.Number.Binary64

set_option autoImplicit false

/-!
# Arithmetic of binary floating-point numbers

Sums, products and quotients are worked out exactly and rounded once; a quotient rounded down takes
several such steps.
-/
namespace TemplateEngine.Binary64

def isNegative : Binary64 → Bool
  | finite s _ _ => s
  | infinite s => s
  | nan => false

def ofSigned (zeroNegative : Bool) (n : Int) (d : Nat) : Binary64 :=
  if n = 0 then finite zeroNegative 0 minExponent else ofRatio (n < 0) n.natAbs d

def add (a b : Binary64) : Binary64 :=
  match a, b with
  | nan, _ | _, nan => nan
  | infinite s, infinite t => if s = t then infinite s else nan
  | infinite s, _ | _, infinite s => infinite s
  | a, b =>
    match a.toRatio?, b.toRatio? with
    | some (n, d), some (k, l) =>
      ofSigned (a.isNegative && b.isNegative) (n * l + k * d) (d * l)
    | _, _ => nan

def subtract (a b : Binary64) : Binary64 := add a b.negate

def multiply (a b : Binary64) : Binary64 :=
  let s := a.isNegative ^^ b.isNegative
  match a, b with
  | nan, _ | _, nan => nan
  | infinite _, b => if b.isZero then nan else infinite s
  | a, infinite _ => if a.isZero then nan else infinite s
  | a, b =>
    match a.toRatio?, b.toRatio? with
    | some (n, d), some (k, l) => ofSigned s (n * k) (d * l)
    | _, _ => nan

def divide (a b : Binary64) : Binary64 :=
  let s := a.isNegative ^^ b.isNegative
  match a, b with
  | nan, _ | _, nan => nan
  | infinite _, infinite _ => nan
  | infinite _, _ => infinite s
  | _, infinite _ => finite s 0 minExponent
  | a, b =>
    match a.toRatio?, b.toRatio? with
    | some (n, d), some (k, l) =>
      if k = 0 then nan
      else ofSigned s (if k < 0 then -(n * l) else n * l) (d * k.natAbs)
    | _, _ => nan

def floor (a : Binary64) : Binary64 :=
  match a.toRatio? with
  | some (n, d) => ofSigned a.isNegative (n.fdiv d) 1
  | none => a

/-- What a quotient rounded towards zero leaves, exactly; it has the sign of the first number. Both are
finite, and the second one is not zero. -/
def remainder (a b : Binary64) : Binary64 :=
  match a.toRatio?, b.toRatio? with
  | some (n, d), some (k, l) => ofSigned a.isNegative ((n * l).tmod (k * d)) (d * l)
  | _, _ => nan

def settle (q : Binary64) : Binary64 :=
  let f := q.floor
  if compare? (finite false 1 (-1)) (q.subtract f) = some .lt then f.add (ofInt 1) else f

/-- The quotient rounded down, and what is left, which has the sign of the divisor; the divisor is not
zero. What is left is found first, and each step to the quotient is rounded. -/
def divideDown (a b : Binary64) : Binary64 × Binary64 :=
  match a, b with
  | nan, _ | _, nan | infinite _, _ => (nan, nan)
  | a, infinite t =>
    if a.isZero then (finite (a.isNegative ^^ t) 0 minExponent, finite t 0 minExponent)
    else if a.isNegative = t then (finite false 0 minExponent, a)
    else (ofInt (-1), infinite t)
  | a, b =>
    let r := a.remainder b
    let q := (a.subtract r).divide b
    let (q, r) :=
      if r.isZero then (q, finite b.isNegative 0 minExponent)
      else if r.isNegative = b.isNegative then (q, r)
      else (q.subtract (ofInt 1), r.add b)
    (if q.isZero then finite (a.isNegative ^^ b.isNegative) 0 minExponent else q.settle, r)

def toBits (a : Binary64) : Nat :=
  let sign (s : Bool) : Nat := if s then twoTo 63 else 0
  match a with
  | nan => 0x7FF8000000000000
  | infinite s => sign s + 0x7FF0000000000000
  | finite s m e =>
    if m < twoTo 52 then sign s + m
    else sign s + (e + 1075).toNat * twoTo 52 + (m - twoTo 52)

def ofBits (n : Nat) : Binary64 :=
  let s : Bool := n / twoTo 63 % 2 == (1 : Nat)
  let k : Nat := n / twoTo 52 % 2048
  let m : Nat := n % twoTo 52
  if k = 0 then finite s m minExponent
  else if k = 2047 then (if m = 0 then infinite s else nan)
  else finite s (m + twoTo 52) ((k : Int) - 1075)

def toFloat (a : Binary64) : Float := Float.ofBits (UInt64.ofNat a.toBits)

def ofFloat (x : Float) : Binary64 := ofBits x.toBits.toNat

def power (a b : Binary64) : Binary64 := ofFloat (a.toFloat.pow b.toFloat)

def size (a : Binary64) : Binary64 := if a.isNegative then a.negate else a

def whole? (a : Binary64) : Option Int :=
  match a.toRatio? with
  | some (n, d) => if n % d = 0 then some (n / d) else none
  | none => none

end TemplateEngine.Binary64
