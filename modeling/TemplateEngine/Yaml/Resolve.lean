import TemplateEngine.Data
import TemplateEngine.Number.Arithmetic
import TemplateEngine.Yaml.Scalar
import TemplateEngine.Yaml.Time

set_option autoImplicit false

/-!
# What scalars stand for

A plain scalar is null, a truth value, a number or a time if it is written like one, and a text
otherwise. Underscores between digits are skipped; numbers between colons are digits to the base 60.
How a scalar is written and what it then stands for are two questions: there may be no such value.
-/
namespace TemplateEngine.Yaml

def nullTexts : List Text := ["~", "null", "Null", "NULL", ""].map String.toList

def trueTexts : List Text :=
  ["yes", "Yes", "YES", "true", "True", "TRUE", "on", "On", "ON"].map String.toList

def falseTexts : List Text :=
  ["no", "No", "NO", "false", "False", "FALSE", "off", "Off", "OFF"].map String.toList

def truth? (t : Text) : Option Bool :=
  if trueTexts.contains t then some true
  else if falseTexts.contains t then some false
  else none

def mergeKey : Text := "<<".toList

def valueKey : Text := ['=']

def colonParts (t : Text) : List Text := Text.splitAt [':'] t

/-- A string without its underscores, and whether a minus sign stood in front, the sign being taken away. -/
def bare (s : Str) : Bool × Str :=
  match s.filter (· ≠ .char '_') with
  | .char '-' :: u => (true, u)
  | .char '+' :: u => (false, u)
  | u => (false, u)

def isDigitTo (base : Nat) (c : Char) : Bool := (hexDigit? c).any (· < base)

def isNumeral (base : Nat) (t : Text) : Bool :=
  t ≠ [] && t.all fun c => c = '_' || isDigitTo base c

def isSixtieth : Text → Bool
  | [c] => c.isDigit
  | [c, d] => '0' ≤ c && c ≤ '5' && d.isDigit
  | _ => false

def startsWithDigit (t : Text) : Bool := t.head?.any Char.isDigit

def isNatural (t : Text) : Bool :=
  match t with
  | '0' :: 'b' :: u => isNumeral 2 u
  | '0' :: 'x' :: u => isNumeral 16 u
  | ['0'] => true
  | '0' :: u => isNumeral 8 u
  | t =>
    startsWithDigit t && match colonParts t with
      | p :: ps => isNumeral 10 p && ps.all isSixtieth
      | [] => false

def isInteger (t : Text) : Bool := isNatural (Numeral.sign t).2

def integerIn (base : Nat) (s : Str) : Except Fault Int :=
  (Numeral.integer base (Numeral.spelling s)).mapError (Fault.integer base s)

def unsigned (s : Str) : Except Fault Int :=
  match s with
  | [] => .error .emptyNumber
  | [.char '0'] => .ok 0
  | .char '0' :: .char 'b' :: u => integerIn 2 u
  | .char '0' :: .char 'x' :: u => integerIn 16 u
  | .char '0' :: _ => integerIn 8 s
  | s => do
    let digits ← (Text.splitAt [.char ':'] s).mapM (integerIn 10)
    return digits.foldl (fun n d => 60 * n + d) 0

def integer (s : Str) : Except Fault Int := do
  let i ← unsigned (bare s).2
  return if (bare s).1 then -i else i

def lowerPoint : CodePoint → CodePoint
  | .char c => .char c.toLower
  | c => c

def isExponent : Text → Bool
  | [] => true
  | e :: s :: ds =>
    (e = 'e' || e = 'E') && (s = '+' || s = '-') && ds ≠ [] && ds.all Char.isDigit
  | _ => false

def isPointed (t : Text) : Bool :=
  let whole := t.takeWhile (· ≠ '.')
  match t.drop whole.length with
  | [] => false
  | _ :: behind =>
    let fraction := behind.takeWhile fun c => c.isDigit || c = '_'
    let rest := behind.drop fraction.length
    match colonParts whole with
    | [_] =>
      isExponent rest
        && if whole = [] then startsWithDigit fraction
          else startsWithDigit whole && isNumeral 10 whole
    | p :: ps => rest = [] && startsWithDigit p && isNumeral 10 p && ps.all isSixtieth
    | [] => false

def infinityTexts : List Text := [".inf", ".Inf", ".INF"].map String.toList

def nanTexts : List Text := [".nan", ".NaN", ".NAN"].map String.toList

def isDecimal (t : Text) : Bool :=
  let u := (Numeral.sign t).2
  let isSigned := u.length ≠ t.length
  infinityTexts.contains u || nanTexts.contains t
    || (isPointed u && !(isSigned && u.head? = some '.'))

def decimalOf (s : Str) : Except Fault Binary64 :=
  match Numeral.decimal? (Numeral.spelling s) with
  | some f => .ok f
  | none => .error (.decimal s)

def decimal (s : Str) : Except Fault Binary64 := do
  let (negative, u) := bare (s.map lowerPoint)
  let signed (f : Binary64) : Binary64 := if negative then f.negate else f
  if s.all (· = .char '_') then .error .emptyNumber
  else if u = ".inf".toList then return .infinite negative
  else if u = ".nan".toList then return .nan
  else match Text.splitAt [.char ':'] u with
    | [_] => return signed (← decimalOf u)
    | parts => do
      let digits ← parts.mapM decimalOf
      let sum := digits.reverse.foldl
        (fun (s : Binary64 × Nat) d => (s.1.add (d.multiply (.ofInt s.2)), s.2 * 60))
        (.zero, 1)
      return signed sum.1

def timeData (p : TimeText) : Except Fault Data :=
  match p.data with
  | .ok (.inl d) => .ok (.date d)
  | .ok (.inr m) => .ok (.moment m)
  | .error f => .error (.calendar f)

/-- What a plain text stands for; the two special keys stand for no value. -/
def plainTextData (t : Text) : Except Fault Data :=
  if nullTexts.contains t then .ok .null
  else if t = mergeKey || t = valueKey then .error .malformed
  else match truth? t with
    | some b => .ok (.bool b)
    | none =>
      if isDecimal t then Data.float <$> decimal t
      else if isInteger t then Data.int <$> integer t
      else match TimeText.ofPlain? t with
        | some p => timeData p
        | none => .ok (.text t)

/-- What a plain scalar stands for. A string that is no text is written like nothing else. -/
def plainData (s : Str) : Except Fault Data :=
  match s.text? with
  | some t => plainTextData t
  | none => .ok (.text s)

end TemplateEngine.Yaml
