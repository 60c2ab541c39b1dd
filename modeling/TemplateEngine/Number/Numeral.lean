import TemplateEngine.Number.Binary64
import TemplateEngine.Text.Blank
import TemplateEngine.Text.Digit
import TemplateEngine.Text.Quoted

set_option autoImplicit false

/-!
# Numerals

The numbers that texts spell: integers in a base from 2 to 36, and decimal numbers with a point or an
exponent. A single underscore may stand between two digits, decimal digits of every row count as
those of ASCII, and blanks around a numeral are skipped.
-/
namespace TemplateEngine.Numeral

inductive Fault where
  | malformed
  /-- There are too many digits. -/
  | tooLong (digits : Nat)
  deriving DecidableEq, Repr

/-- The number of digits that an integer may be spelled with, unless the base is a power of two. -/
def maxDigits : Nat := 4300

def Fault.integerMessage (base : Nat) (s : Str) : Fault → Text
  | malformed =>
    "invalid literal for int() with base ".toList ++ Text.ofNat base ++ ": ".toList
      ++ (Str.quoted s).take 200
  | tooLong n =>
    "Exceeds the limit (".toList ++ Text.ofNat maxDigits
      ++ " digits) for integer string conversion: value has ".toList ++ Text.ofNat n
      ++ " digits; use sys.set_int_max_str_digits() to increase the limit".toList

def floatMessage (s : Str) : Text :=
  "could not convert string to float: ".toList ++ Str.quoted s

/-- The characters of a string that may spell a number. What is no character spells none, as little as
a question mark does. -/
def spelling (s : Str) : Text := s.map fun c => c.char?.getD '?'

def isBlank (c : Char) : Bool := Text.isBlank c && (c.toNat < 28 || 31 < c.toNat)

def plain (t : Text) : Text :=
  (Text.trimEndBy isBlank (Text.trimStartBy isBlank t)).map fun c =>
    match Text.digitValue? c with
    | some d => Char.ofNat (48 + d)
    | none => c

def sign : Text → Bool × Text
  | '-' :: t => (true, t)
  | '+' :: t => (false, t)
  | t => (false, t)

def digit? (c : Char) : Option Nat :=
  if c.isDigit then some (c.toNat - 48)
  else if c.isAlpha then some (c.toLower.toNat - 87)
  else none

/-- The value of digits in a base; what is no digit counts as nothing. -/
def value (base : Nat) (t : Text) : Nat :=
  t.foldl (fun n c => base * n + (digit? c).getD 0) 0

def spaced? : Text → Option Text
  | [] => none
  | [c] => if c = '_' then none else some [c]
  | c :: '_' :: t => if c = '_' then none else (spaced? t).map (c :: ·)
  | c :: t => if c = '_' then none else (spaced? t).map (c :: ·)

def marked? : Text → Option (Nat × Text)
  | '0' :: x :: t =>
    match x.toLower with
    | 'x' => some (16, t)
    | 'o' => some (8, t)
    | 'b' => some (2, t)
    | _ => none
  | _ => none

def isUnlimited (base : Nat) : Bool := [2, 4, 8, 16, 32].contains base

def natural (base : Nat) (t : Text) : Except Fault Nat :=
  match spaced? t with
  | none => .error .malformed
  | some ds =>
    if ds.all fun c => (digit? c).any (· < base) then
      if !isUnlimited base && maxDigits < ds.length then .error (.tooLong ds.length)
      else .ok (value base ds)
    else .error .malformed

/-- The natural number that a text without a sign spells. In base 0 the text says the base itself,
and a decimal number other than zero does not start with a zero. -/
def naturalIn (base : Nat) (t : Text) : Except Fault Nat :=
  let marked := match marked? t with
    | some (b, u) => if base = 0 || base = b then some (b, u) else none
    | none => none
  match marked with
  | some (b, u) => natural b (if u.head? = some '_' then u.drop 1 else u)
  | none =>
    if base = 0 then do
      let n ← natural 10 t
      if n ≠ 0 && t.head? = some '0' then .error .malformed else .ok n
    else natural base t

def integer (base : Nat) (t : Text) : Except Fault Int := do
  let (negative, u) := sign (plain t)
  let n ← naturalIn base u
  return if negative then -(n : Int) else n

def underscoresFit : (behindDigit : Bool) → Text → Bool
  | _, [] => true
  | d, '_' :: t => d && t.head?.any Char.isDigit && underscoresFit false t
  | _, c :: t => underscoresFit c.isDigit t

def decimalValue (t : Text) : Binary64 :=
  let mantissa := t.takeWhile fun c => c ≠ 'e' && c ≠ 'E'
  let whole := mantissa.takeWhile (· ≠ '.')
  let fraction := mantissa.drop (whole.length + 1)
  let exponent : Int :=
    match t.drop (mantissa.length + 1) with
    | '-' :: ds => -(value 10 ds : Int)
    | '+' :: ds => value 10 ds
    | ds => value 10 ds
  .ofDecimal false (value 10 (whole ++ fraction)) (exponent - fraction.length)

def isDecimal (t : Text) : Bool :=
  let mantissa := t.takeWhile fun c => c ≠ 'e' && c ≠ 'E'
  let whole := mantissa.takeWhile Char.isDigit
  let exponentFits := match t.drop mantissa.length with
    | [] => true
    | _ :: e => let (_, ds) := sign e; ds ≠ [] && ds.all Char.isDigit
  exponentFits && match mantissa.drop whole.length with
    | [] => whole ≠ []
    | c :: fraction =>
      c = '.' && fraction.all Char.isDigit && (whole ≠ [] || fraction ≠ [])

def decimal? (t : Text) : Option Binary64 :=
  let (negative, u) := sign (plain t)
  let signed (f : Binary64) : Binary64 := if negative then f.negate else f
  let word := String.ofList (u.map Char.toLower)
  if word = "inf" || word = "infinity" then some (signed (.infinite false))
  else if word = "nan" then some .nan
  else
    let bare := u.filter (· ≠ '_')
    if underscoresFit false u && isDecimal bare then some (signed (decimalValue bare)) else none

end TemplateEngine.Numeral
