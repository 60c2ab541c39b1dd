import TemplateEngine.Script.Number

set_option autoImplicit false

/-!
# Keys

Which values may be keys of dictionaries, and the codes by which keys are found: equal keys have equal
codes. Values that can change are no keys.
-/
namespace TemplateEngine.Script

/-- There are fewer codes than this number, which is prime. -/
def codeCount : Nat := 1099511627689

def mixCode (code n : Nat) : Nat := (code * 1000003 + n) % codeCount

def intCode (i : Int) : Nat := (i % codeCount).toNat

def textCode (t : Str) : Nat := t.foldl (fun n c => mixCode n c.toNat) 5381

/-- The code of a floating-point number; one that is whole has that of the integer. -/
def floatCode (f : Binary64) : Nat :=
  match f.whole?, f.toRatio? with
  | some i, _ => intCode i
  | none, some (n, d) => mixCode (intCode n) d
  | none, none => if f.isNegative then 1 else 0

namespace Number

def code : Number → Nat
  | int i => intCode i
  | float f => floatCode f
  | complex c => if c.im.isZero then floatCode c.re else mixCode (floatCode c.re) (floatCode c.im)

end Number

namespace Value

mutual

def mayBeKey : Value → Bool
  | tuple items _ => allMayBeKeys items
  | list _ | dict _ | slice _ _ _ _ | view .keys _ _ | view .items _ _ => false
  | _ => true

def allMayBeKeys : List Value → Bool
  | [] => true
  | v :: vs => mayBeKey v && allMayBeKeys vs

end

/-- The code of an identity, by which values are found that equal nothing else. -/
def identityCode : Identity → Nat
  | .number n => n % codeCount
  | _ => 0

mutual

def code (v : Value) : Nat :=
  match v with
  | bool b => if b then 1 else 0
  | int i _ => intCode i
  | float f _ => floatCode f
  | complex c _ => (Number.complex c).code
  | text t _ => textCode t
  | date d _ => mixCode (mixCode d.year d.month) d.day
  | tuple items _ => codeOfAll 31 items
  | frozenset items _ => sumOfCodes 37 items
  | range a b c _ =>
    let (n, first, step) := rangeContent a b c
    mixCode (mixCode n (intCode first)) (intCode step)
  | iterator _ a | function a => a % codeCount
  | builtin b => textCode b.name
  | type t => textCode t.name
  | exceptionClass c => textCode c.name
  | view _ _ a | exception _ _ a => identityCode a
  | _ => 43

def codeOfAll (code : Nat) : List Value → Nat
  | [] => code
  | v :: vs => codeOfAll (mixCode code (Value.code v)) vs

/-- A sum with the codes of some values, in which their order does not matter. -/
def sumOfCodes (code : Nat) : List Value → Nat
  | [] => code
  | v :: vs => sumOfCodes ((code + Value.code v) % codeCount) vs

end

end Value
end TemplateEngine.Script
