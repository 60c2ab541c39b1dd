import TemplateEngine.Number.Arithmetic

set_option autoImplicit false

/-!
# Complex numbers

Pairs of floating-point numbers, a real and an imaginary part. They come of powers of negative numbers
whose exponent is not whole. Each step of an operation is rounded.
-/
namespace TemplateEngine

structure Complex128 where
  re : Binary64
  im : Binary64
  deriving DecidableEq, Repr

namespace Complex128

def ofReal (x : Binary64) : Complex128 := ⟨x, .zero⟩

def isZero (a : Complex128) : Bool := a.re.isZero && a.im.isZero

def negate (a : Complex128) : Complex128 := ⟨a.re.negate, a.im.negate⟩

def add (a b : Complex128) : Complex128 := ⟨a.re.add b.re, a.im.add b.im⟩

def subtract (a b : Complex128) : Complex128 := ⟨a.re.subtract b.re, a.im.subtract b.im⟩

def multiply (a b : Complex128) : Complex128 :=
  ⟨(a.re.multiply b.re).subtract (a.im.multiply b.im),
    (a.re.multiply b.im).add (a.im.multiply b.re)⟩

/-- The quotient of two numbers, the second of which is not zero. It is worked out with the ratio of the
smaller part of the second one to the larger. -/
def divide (a b : Complex128) : Complex128 :=
  match b.re.size.compare? b.im.size with
  | none => ⟨.nan, .nan⟩
  | some .lt =>
    let r := b.re.divide b.im
    let d := (b.re.multiply r).add b.im
    ⟨((a.re.multiply r).add a.im).divide d, ((a.im.multiply r).subtract a.re).divide d⟩
  | some _ =>
    let r := b.im.divide b.re
    let d := b.re.add (b.im.multiply r)
    ⟨(a.re.add (a.im.multiply r)).divide d, (a.im.subtract (a.re.multiply r)).divide d⟩

def size (a : Complex128) : Binary64 :=
  if a.im.isZero then a.re.size
  else .ofFloat (a.re.toFloat * a.re.toFloat + a.im.toFloat * a.im.toFloat).sqrt

/-- The product of `r` and of the number `p` as often as `n` says, which is read bit by bit. The first
number bounds the bits. -/
def multiplyPower : Nat → (r p : Complex128) → (n : Nat) → Complex128
  | 0, r, _, _ => r
  | k + 1, r, p, n =>
    if n = 0 then r
    else multiplyPower k (if n % 2 = 1 then r.multiply p else r) (p.multiply p) (n / 2)

def powerWhole (a : Complex128) (i : Int) : Complex128 :=
  let one := ofReal (.ofInt 1)
  let p := multiplyPower (i.natAbs.log2 + 1) one a i.natAbs
  if i < 0 then one.divide p else p

/-- A power of a number that is not zero, by its size and its angle, which must not become infinite. -/
def powerPolar? (a b : Complex128) : Option Complex128 :=
  let size := a.size.toFloat
  let angle := Float.atan2 a.im.toFloat a.re.toFloat
  let length := size.pow b.re.toFloat
  let phase := angle * b.re.toFloat
  let (length, phase) :=
    if b.im.isZero then (length, phase)
    else (length / (angle * b.im.toFloat).exp, phase + b.im.toFloat * size.log)
  if phase.isInf then none
  else some ⟨.ofFloat (length * phase.cos), .ofFloat (length * phase.sin)⟩

def whole? (a : Complex128) : Option Int :=
  if a.im.isZero then a.re.whole?.filter (·.natAbs ≤ 100) else none

/-- A power. Zero has none with a negative exponent, or with one that is not real. -/
def power? (a b : Complex128) : Option Complex128 :=
  match b.whole? with
  | some i => if a.isZero && i < 0 then none else some (a.powerWhole i)
  | none =>
    if a.isZero then
      if b.im.isZero && !b.re.isNegative then some (ofReal .zero) else none
    else a.powerPolar? b

def isInfinite (a : Complex128) : Bool :=
  match a.re, a.im with
  | .infinite _, _ | _, .infinite _ => true
  | _, _ => false

end Complex128
end TemplateEngine
