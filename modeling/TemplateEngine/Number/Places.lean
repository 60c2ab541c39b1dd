import TemplateEngine.Number.Arithmetic
import TemplateEngine.Text.Basic

set_option autoImplicit false

/-!
# Decimal places

A floating-point number with a given number of decimal places or of significant digits, rounded to the
nearest such decimal and to the one with the even last digit if two are equally near. `Notation` says
where the point stands and whether there is an exponent.
-/
namespace TemplateEngine.Places

inductive Notation where
  /-- The point is in place, and there are so many digits behind it. -/
  | fixed
  /-- The point is behind the first digit, and an exponent follows. -/
  | exponent
  /-- An exponent is written only if it is small or large, and zeros at the end are not. -/
  | general
  deriving DecidableEq, Repr

/-- The digits of a decimal without zeros at the end; the place of its point is
`0.d₁d₂… * 10 ^ place`. -/
structure Digits where
  digits : Text
  place : Int
  deriving DecidableEq, Repr

/-- Digits without zeros at the end. Zero has the one digit that it is. -/
def trimmed (n : Nat) (place : Int) : Digits :=
  if n = 0 then ⟨['0'], 1⟩ else ⟨Text.trimEndBy (· = '0') (Text.ofNat n), place⟩

def withPlaces (n d places : Nat) : Digits :=
  let m := Binary64.roundHalfEven (n * tenTo places) d
  trimmed m ((Text.ofNat m).length - places)

def scaled (n d : Nat) (e : Int) : Nat :=
  match e with
  | .ofNat k => Binary64.roundHalfEven (n * tenTo k) d
  | .negSucc k => Binary64.roundHalfEven n (d * tenTo (k + 1))

def magnitude (n d : Nat) : Int :=
  let size : Int := (Text.ofNat n).length - (Text.ofNat d).length
  let isLess : Bool := match size with
    | .ofNat k => n < d * tenTo k
    | .negSucc k => n * tenTo (k + 1) < d
  if isLess then size else size + 1

def withDigits (n d count : Nat) : Digits :=
  if n = 0 then ⟨['0'], 1⟩
  else
    let place := magnitude n d
    let m := scaled n d (count - place)
    trimmed m (if m = tenTo count then place + 1 else place)

def exponentText (e : Int) : Text :=
  let ds := Text.ofNat e.natAbs
  'e' :: (if e < 0 then '-' else '+') :: (List.replicate (2 - ds.length) '0' ++ ds)

/-- Digits with the point at `place` and as many digits as reach up to `last`. -/
def pointed (d : Text) (place last : Int) : Text :=
  let n := (d.length : Int)
  let zeros (i : Int) : Text := List.replicate i.toNat '0'
  if place ≤ 0 then '0' :: '.' :: (zeros (-place) ++ d ++ zeros (last - n))
  else if place ≤ n then
    d.take place.toNat ++ '.' :: (d.drop place.toNat ++ zeros (last - n))
  else d ++ zeros (place - n) ++ '.' :: zeros (last - place)

/-- The number `n / d` in a notation; if `keepsPoint`, a point at the end stays and so do zeros. -/
def write (kind : Notation) (precision : Nat) (keepsPoint : Bool) (n d : Nat) : Text :=
  let precision := if kind = .general && precision = 0 then 1 else precision
  let x := match kind with
    | .fixed => withPlaces n d precision
    | .exponent => withDigits n d (precision + 1)
    | .general => withDigits n d precision
  let hasExponent := match kind with
    | .fixed => false
    | .exponent => true
    | .general => x.place ≤ -4 || (precision : Int) < x.place
  let last : Int := match kind with
    | .fixed => x.place + precision
    | .exponent => precision + 1
    | .general => if keepsPoint then precision else x.digits.length
  let place := if hasExponent then 1 else x.place
  let t := pointed x.digits place (max last place)
  let t := if t.getLast? = some '.' && !keepsPoint then t.dropLast else t
  if hasExponent then t ++ exponentText (x.place - 1) else t

def text (kind : Notation) (precision : Nat) (keepsPoint : Bool) : Binary64 → Text
  | .nan => "nan".toList
  | .infinite _ => "inf".toList
  | .finite _ m e =>
    let (n, d) := Binary64.ratio m e
    write kind precision keepsPoint n d

end TemplateEngine.Places
