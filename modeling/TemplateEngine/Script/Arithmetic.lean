import TemplateEngine.Number.Arithmetic
import TemplateEngine.Script.Compare

set_option autoImplicit false

/-!
# Operators

What the operators make of numbers. A truth value counts as 0 or 1. Whole quotients and remainders
are rounded down, so a remainder has the sign of the divisor.
-/
namespace TemplateEngine.Script

namespace Number

def toFloat : Number → Result Binary64
  | int i =>
    match Binary64.ofInt i with
    | .infinite _ => Result.raise .overflowError
    | f => return f
  | float f => return f
  | complex _ => Result.raise .typeError

def toComplex : Number → Result Complex128
  | complex c => return c
  | n => do return .ofReal (← n.toFloat)

/-- An operation on integers, on floating-point numbers if one of the two is one, or on complex
numbers if it is one of theirs. -/
def lift (ints : Int → Int → Result Number) (floats : Binary64 → Binary64 → Result Number)
    (complexes? : Option (Complex128 → Complex128 → Result Number)) (a b : Number) : Result Number :=
  match a, b with
  | int i, int j => ints i j
  | complex _, _ | _, complex _ =>
    match complexes? with
    | some complexes => do complexes (← a.toComplex) (← b.toComplex)
    | none => Result.raise .typeError
  | a, b => do floats (← a.toFloat) (← b.toFloat)

def divide (a b : Number) : Result Number :=
  lift
    (fun i j => do
      if j = 0 then Result.raise .zeroDivisionError
      else match Binary64.ofSigned (j < 0) (if j < 0 then -i else i) j.natAbs with
        | .infinite _ => Result.raise .overflowError
        | f => return .float f)
    (fun x y => if y.isZero then Result.raise .zeroDivisionError else return .float (x.divide y))
    (some fun c d =>
      if d.isZero then Result.raise .zeroDivisionError else return .complex (c.divide d))
    a b

def floorDivide (a b : Number) : Result Number :=
  lift
    (fun i j => if j = 0 then Result.raise .zeroDivisionError else return .int (i.fdiv j))
    (fun x y =>
      if y.isZero then Result.raise .zeroDivisionError else return .float (x.divideDown y).1)
    none a b

def modulo (a b : Number) : Result Number :=
  lift
    (fun i j => if j = 0 then Result.raise .zeroDivisionError else return .int (i.fmod j))
    (fun x y =>
      if y.isZero then Result.raise .zeroDivisionError else return .float (x.divideDown y).2)
    none a b

def complexPower (c d : Complex128) : Result Number :=
  match c.power? d with
  | none => Result.raise .zeroDivisionError
  | some p => if p.isInfinite then Result.raise .overflowError else return .complex p

/-- A power of a floating-point number. Those of negative numbers with exponents that are not whole are
complex. -/
def floatPower (x y : Binary64) : Result Number :=
  if x.isZero && y.isNegative && !y.isZero && y.toRatio?.isSome then Result.raise .zeroDivisionError
  else if x.isNegative && !x.isZero && x.toRatio?.isSome && y.toRatio?.isSome
      && y.whole?.isNone then
    complexPower (.ofReal x) (.ofReal y)
  else match x, y, x.power y with
    | .finite _ _ _, .finite _ _ _, .infinite _ => Result.raise .overflowError
    | _, _, z => return .float z

def maxBits : Nat := twoTo 33

def limitOfBits : Nat := twoTo 61 * 30

def intPower (i : Int) (n : Nat) : Result Int :=
  if i = 0 || i = 1 then return (if n = 0 then 1 else i)
  else if i = -1 then return (if n % 2 = 0 then 1 else -1)
  else if maxBits < i.natAbs.log2 * n then Result.raise .memoryError
  else return i.pow n

def power (a b : Number) : Result Number :=
  lift
    (fun i j => do
      if 0 ≤ j then return .int (← intPower i j.toNat)
      else floatPower (← (int i).toFloat) (← (int j).toFloat))
    floatPower (some complexPower) a b

/-- An operation on the bits of two integers. The bits of a negative one go on forever. -/
def bitwise (f : Nat → Nat → Nat) (i j : Int) : Int :=
  let width := max i.natAbs.log2 j.natAbs.log2 + 2
  let size : Int := twoTo width
  let r : Int := f (i % size).toNat (j % size).toNat
  if 2 * r < size then r else r - size

def ints (f : Int → Int → Result Int) : Number → Number → Result Number
  | int i, int j => do return .int (← f i j)
  | _, _ => Result.raise .typeError

def shift (left : Bool) (i j : Int) : Result Int :=
  let bits := i.natAbs.log2 + j.toNat
  if j < 0 then Result.raise .valueError
  else if i = 0 then return 0
  else if !left then
    if i.natAbs.log2 < j.toNat then return (if i < 0 then -1 else 0)
    else return i.fdiv (twoTo j.toNat)
  else if limitOfBits ≤ bits then Result.raise .overflowError
  else if maxBits < bits then Result.raise .memoryError
  else return i * twoTo j.toNat

def unary : UnaryOp → Number → Result Number
  | .plus, n => return n
  | .negate, int i => return int (-i)
  | .negate, float f => return float f.negate
  | .negate, complex c => return complex c.negate
  | .invert, int i => return int (-i - 1)
  | _, _ => Result.raise .typeError

def binary : BinaryOp → Number → Number → Result Number
  | .add =>
    lift (fun i j => return .int (i + j)) (fun x y => return .float (x.add y))
      (some fun c d => return .complex (c.add d))
  | .subtract =>
    lift (fun i j => return .int (i - j)) (fun x y => return .float (x.subtract y))
      (some fun c d => return .complex (c.subtract d))
  | .multiply =>
    lift (fun i j => return .int (i * j)) (fun x y => return .float (x.multiply y))
      (some fun c d => return .complex (c.multiply d))
  | .divide => divide
  | .floorDivide => floorDivide
  | .modulo => modulo
  | .power => power
  | .bitAnd => ints fun i j => return bitwise Nat.land i j
  | .bitOr => ints fun i j => return bitwise Nat.lor i j
  | .bitXor => ints fun i j => return bitwise Nat.xor i j
  | .shiftLeft => ints (shift true)
  | .shiftRight => ints (shift false)

end Number

namespace Value

def unary (h : Heap) (op : UnaryOp) (v : Value) : Result Value :=
  match op, v, v.number? with
  | .not, _, _ => return bool (!v.truthy h)
  | .plus, bool b, _ => return ofNat b.toNat
  | .plus, _, some _ => return v
  | op, _, some n => do return (← n.unary op).toValue
  | _, _, _ => Result.raise .typeError

def staysBool : BinaryOp → Bool
  | .bitAnd | .bitOr | .bitXor => true
  | _ => false

/-- Items, repeated. If they are too many, that is an exception of the class `tooMany`, or there is no
memory for them. -/
def repeated {α : Type} (tooMany : ExceptionClass) (items : List α) (i : Int) : Result (List α) :=
  let n := i.toNat
  if (maxIndex : Int) < i || i < -(maxIndex : Int) - 1 then Result.raise .overflowError
  else if items.isEmpty || n = 0 then return []
  else if maxIndex < items.length * n then Result.raise tooMany
  else if maxItems < items.length * n then Result.raise .memoryError
  else return (List.replicate n items).flatten

/-- A binary operator. Formatting is not among its meanings. -/
def binary (op : BinaryOp) (v w : Value) : Run Value := do
  match op, v, w with
  | op, bool a, bool b =>
    let r ← Run.ofResult (Number.binary op (.int a.toNat) (.int b.toNat))
    match staysBool op, r with
    | true, .int i => return bool (i = 1)
    | _, r => return r.toValue
  | .add, text [] _, text _ _ | .add, tuple [] _, tuple _ _ => return w
  | .add, text _ _, text [] _ | .add, tuple _ _, tuple [] _ => return v
  | .add, text s _, text t _ => return ofText (s ++ t)
  | .add, tuple xs _, tuple ys _ => return ofItems (xs ++ ys)
  | .add, list a, list b => do
    Run.makeList (← Run.look fun h => h.items a ++ h.items b)
  | op, v, w =>
    match v.number?, w.number? with
    | some x, some y => do return (← Run.ofResult (Number.binary op x y)).toValue
    | _, _ =>
      match op, v, w.integer?, w, v.integer? with
      | .multiply, text t a, some i, _, _ | .multiply, _, _, text t a, some i =>
        if i = 1 then return text t a
        else return ofText (← Run.ofResult (repeated .overflowError t i))
      | .multiply, tuple xs a, some i, _, _ | .multiply, _, _, tuple xs a, some i =>
        if i = 1 then return tuple xs a
        else return ofItems (← Run.ofResult (repeated .memoryError xs i))
      | .multiply, list a, some i, _, _ | .multiply, _, _, list a, some i => do
        Run.makeList (← Run.withHeap fun h => repeated .memoryError (h.items a) i)
      | _, _, _, _, _ => Run.raise .typeError

end Value
end TemplateEngine.Script
