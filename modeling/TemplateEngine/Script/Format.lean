import TemplateEngine.Number.Places
import TemplateEngine.Script.Conversion

set_option autoImplicit false

/-!
# Formatting

A text with directives such as `%s`, and what the values to its right make of it. A directive has
flags, a least width, a precision and a letter that says how its value is written; a directive with a
name takes its value from a mapping.
-/
namespace TemplateEngine.Script

structure Directive where
  flags : Str
  width : Nat
  precision : Option Nat
  letter : CodePoint

structure Supply where
  /-- Where directives with a name take their values from. -/
  mapping : Option Value
  values : List Value

namespace Supply

def ofValue (v : Value) : Supply :=
  match v with
  | .tuple vs _ => ⟨none, vs⟩
  | .list _ | .dict _ | .range _ _ _ _ => ⟨some v, [v]⟩
  | v => ⟨none, [v]⟩

def take (s : Supply) : Result (Value × Supply) :=
  match s.values with
  | [] => Result.raise .typeError
  | v :: vs => return (v, { s with values := vs })

def takeInt (bound : Nat) (s : Supply) : Result (Int × Supply) := do
  let (v, s) ← s.take
  return (← v.needIntWithin bound, s)

end Supply

def asciiOnly (t : Text) : Text :=
  t.flatMap fun c => if c.toNat < 128 then [c] else Text.escapeOf c.toNat

namespace Directive

def isFlag (c : CodePoint) : Bool := c.satisfies ['-', '+', ' ', '#', '0'].contains

/-- A name up to the bracket that closes it, and what follows; brackets in it come in pairs. -/
def name? : (opened : Nat) → Str → Option (Str × Str)
  | _, [] => none
  | 0, .char ')' :: t => some ([], t)
  | n + 1, .char ')' :: t => (name? n t).map fun r => (.char ')' :: r.1, r.2)
  | n, .char '(' :: t => (name? (n + 1) t).map fun r => (.char '(' :: r.1, r.2)
  | n, c :: t => (name? n t).map fun r => (c :: r.1, r.2)

/-- Takes the name of a directive, if it has one, which decides about its value. -/
def takeName (t : Str) (s : Supply) : Run (Str × Supply) := do
  match t, s.mapping with
  | .char '(' :: _, none => Run.raise .typeError
  | .char '(' :: t, some m =>
    match name? 0 t with
    | none => Run.raise .valueError
    | some (n, t) => do
      let v ← m.getItem (.ofText n)
      return (t, { s with values := [v] })
  | t, _ => return (t, s)

/-- A number that is written, or that a star takes from the values, and what follows it. -/
def readNumber (bound : Nat) (t : Str) (s : Supply) : Result (Option Int × Str × Supply) := do
  match t with
  | .char '*' :: t => do
    let (i, s) ← s.takeInt bound
    return (some i, t, s)
  | t =>
    match t.takeWhile (CodePoint.satisfies Char.isDigit) with
    | [] => return (none, t, s)
    | ds =>
      let n := Numeral.value 10 (Numeral.spelling ds)
      if bound < n then Result.raise .valueError
      else return (some n, t.dropWhile (CodePoint.satisfies Char.isDigit), s)

def readPrecision (t : Str) (s : Supply) : Result (Option Nat × Str × Supply) := do
  match t with
  | .char '.' :: t => do
    let (i, t, s) ← readNumber (twoTo 31 - 1) t s
    return (some ((i.getD 0).toNat), t, s)
  | t => return (none, t, s)

def read (t : Str) (s : Supply) : Result (Directive × Str × Supply) := do
  let flags := t.takeWhile isFlag
  let (width, t, s) ← readNumber maxIndex (t.dropWhile isFlag) s
  let flags := if (width.getD 0) < 0 then .char '-' :: flags else flags
  let (precision, t, s) ← readPrecision t s
  let t := match t with
    | .char 'h' :: u | .char 'l' :: u | .char 'L' :: u => u
    | t => t
  match t with
  | c :: t => return (⟨flags, (width.getD 0).natAbs, precision, c⟩, t, s)
  | [] => Result.raise .valueError

def filled (d : Directive) (front : Str) (fill : Char) (t : Str) : Result Str :=
  let n := d.width - front.length - t.length
  if maxItems < n then Result.raise .memoryError
  else if d.flags.contains (.char '-') then return front ++ t ++ List.replicate n (.char ' ')
  else if fill = ' ' then return List.replicate n (.char ' ') ++ front ++ t
  else return front ++ List.replicate n (.char fill) ++ t

def sign (d : Directive) (negative : Bool) : Text :=
  if negative then ['-'] else if d.flags.contains (.char '+') then ['+']
  else if d.flags.contains (.char ' ') then [' '] else []

def signed (d : Directive) (negative : Bool) (mark digits : Text) : Result Str :=
  d.filled (d.sign negative ++ mark) (if d.flags.contains (.char '0') then '0' else ' ') digits

def integer (d : Directive) (i : Int) (mark digits : Text) : Result Str :=
  let zeros := List.replicate (d.precision.getD 0 - digits.length) '0'
  d.signed (i < 0) mark (zeros ++ digits)

def inBase (d : Directive) (base : Nat) (i : Int) : Result Str :=
  let digits := Nat.toDigits base i.natAbs
  let digits := if d.letter = .char 'X' then digits.map Char.toUpper else digits
  d.integer i (if d.flags.contains (.char '#') then '0' :: d.letter.char?.toList else []) digits

def float (d : Directive) (kind : Places.Notation) (f : Binary64) : Result Str :=
  let digits := Places.text kind (d.precision.getD 6) (d.flags.contains (.char '#')) f
  d.signed f.isNegative [] (if d.letter.satisfies Char.isUpper then digits.map Char.toUpper else digits)

/-- A text, of which the precision may leave only the start. -/
def plain (d : Directive) (t : Str) : Result Str :=
  d.filled [] ' ' (match d.precision with
    | some p => t.take p
    | none => t)

def character (d : Directive) (v : Value) : Result Str := do
  match v, v.integer? with
  | .text [c] _, _ => d.filled [] ' ' [c]
  | _, some i =>
    match if 0 ≤ i then CodePoint.ofNat? i.toNat else none with
    | some c => d.filled [] ' ' [c]
    | none => Result.raise .overflowError
  | _, none => Result.raise .typeError

def truncated (v : Value) : Result Int := do
  match v.number? with
  | none => Result.raise .typeError
  | some _ =>
    match ← v.toInt none with
    | .int i _ => return i
    | _ => Result.raise .typeError

def apply (h : Heap) (d : Directive) (v : Value) : Result Str := do
  match d.letter with
  | .char 's' => d.plain (← v.toText h)
  | .char 'r' => d.plain (← v.shown h)
  | .char 'a' => d.plain (asciiOnly (← v.shown h))
  | .char 'd' | .char 'i' | .char 'u' => do
    let i ← truncated v
    d.integer i [] (← intText i.natAbs)
  | .char 'o' => do d.inBase 8 (← v.needInt)
  | .char 'x' | .char 'X' => do d.inBase 16 (← v.needInt)
  | .char 'e' | .char 'E' => do d.float .exponent (← v.numberToFloat)
  | .char 'f' | .char 'F' => do d.float .fixed (← v.numberToFloat)
  | .char 'g' | .char 'G' => do d.float .general (← v.numberToFloat)
  | .char 'c' => d.character v
  | _ => Result.raise .valueError

end Directive

def fillDirectives : Nat → Str → Supply → Run (Str × Supply)
  | 0, _, s | _, [], s => return ([], s)
  | n + 1, .char '%' :: .char '%' :: t, s => do
    let (u, s) ← fillDirectives n t s
    return (.char '%' :: u, s)
  | n + 1, .char '%' :: t, s => do
    let (t, s) ← Directive.takeName t s
    let (d, t, s) ← Run.ofResult (Directive.read t s)
    let (v, s) ← Run.ofResult s.take
    let filled ← Run.withHeap fun h => d.apply h v
    let (u, s) ← fillDirectives n t s
    return (filled ++ u, s)
  | n + 1, c :: t, s => do
    let (u, s) ← fillDirectives n t s
    return (c :: u, s)

/-- A text with its directives filled in from a value, of which nothing may be left over. A text without
directives stays the same one, as does a text that is filled into nothing else. -/
def formatText (t : Str) (id : Identity) (v : Value) : Run Value := do
  let (u, s) ← fillDirectives t.length t (.ofValue v)
  if s.mapping.isNone && !s.values.isEmpty then Run.raise .typeError
  else if !t.contains (.char '%') then return .text t id
  else
    match t, (Supply.ofValue v).values with
    | [.char '%', .char 's'], [.text w a] => return .text w a
    | _, _ => return .ofText u

end TemplateEngine.Script
