import TemplateEngine.Script.Value

set_option autoImplicit false

/-!
# Numbers and ranges

The values that are numbers, and how they compare. Truth values are the integers 0 and 1. Integers and
floating-point numbers are compared exactly, without making one of them the other. A range has the
integers from a start on in steps, up to but not at a stop; ranges are equal if they have the same ones.
-/
namespace TemplateEngine.Script

inductive Number where
  | int (i : Int)
  | float (f : Binary64)
  | complex (c : Complex128)
  deriving DecidableEq, Repr

namespace Number

def compareIntFloat (i : Int) : Binary64 → Option Ordering
  | .nan => none
  | .infinite negative => some (if negative then .gt else .lt)
  | .finite s m e =>
    match (Binary64.finite s m e).toRatio? with
    | some (n, d) => some (compare (i * d) n)
    | none => none

def compare? : Number → Number → Option Ordering
  | int i, int j => some (compare i j)
  | int i, float f => compareIntFloat i f
  | float f, int i => (compareIntFloat i f).map Ordering.swap
  | float f, float g => f.compare? g
  | _, _ => none

def re : Number → Number
  | complex c => float c.re
  | n => n

def im : Number → Number
  | complex c => float c.im
  | _ => int 0

def isReal : Number → Bool
  | complex _ => false
  | _ => true

def equal (a b : Number) : Bool :=
  a.re.compare? b.re = some .eq && a.im.compare? b.im = some .eq

def toValue : Number → Value
  | int i => .ofInt i
  | float f => .ofFloat f
  | complex c => .complex c .fresh

end Number

namespace Value

def integer? : Value → Option Int
  | bool b => some (if b then 1 else 0)
  | int i _ => some i
  | _ => Option.none

def number? : Value → Option Number
  | bool b => some (.int (if b then 1 else 0))
  | int i _ => some (.int i)
  | float f _ => some (.float f)
  | complex c _ => some (.complex c)
  | _ => Option.none

end Value

def rangeLength (start stop step : Int) : Nat :=
  if 0 < step then ((stop - start + step - 1).fdiv step).toNat
  else if step < 0 then ((start - stop - step - 1).fdiv (-step)).toNat
  else 0

def rangeIntegers (start stop step : Int) : List Int :=
  (List.range (rangeLength start stop step)).map fun i : Nat => start + step * i

/-- What decides about the integers of a range: how many there are, the first one, and the step if
there are more. -/
def rangeContent (start stop step : Int) : Nat × Int × Int :=
  let n := rangeLength start stop step
  (n, if n = 0 then 0 else start, if n ≤ 1 then 0 else step)

def inRange (start stop step i : Int) : Bool :=
  let d := i - start
  step ∣ d && 0 ≤ d.fdiv step && d.fdiv step < rangeLength start stop step

end TemplateEngine.Script
