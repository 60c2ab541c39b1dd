import TemplateEngine.Number.Binary64
import TemplateEngine.Text.Basic

set_option autoImplicit false

/-!
# Shortest decimal text

Of the decimals that round to a floating-point number, the one with the fewest digits, and of those
the nearest, the even one if two are equally near. `Layout` says how its digits are written out.
-/
namespace TemplateEngine.Shortest

/-- The quotients between which every number rounds to `m * 2 ^ e`, and whether they do too. -/
def interval (m : Nat) (e : Int) : (Nat × Nat) × (Nat × Nat) × Bool :=
  let below :=
    if m = twoTo 52 && Binary64.minExponent < e then Binary64.ratio (4 * m - 1) (e - 2)
    else Binary64.ratio (2 * m - 1) (e - 1)
  (below, Binary64.ratio (2 * m + 1) (e - 1), m % 2 = 0)

def decimalRatio (c : Nat) : Int → Nat × Nat
  | .ofNat k => (c * tenTo k, 1)
  | .negSucc k => (c, tenTo (k + 1))

def below (ends : Bool) (a b : Nat × Nat) : Bool :=
  if ends then a.1 * b.2 ≤ b.1 * a.2 else a.1 * b.2 < b.1 * a.2

/-- The greatest `p` with `10 ^ p` at most `n / d`; the search stops at `10 ^ -400`. -/
def magnitude (n d : Nat) : Int :=
  if d ≤ n then ((Nat.toDigits 10 (n / d)).length : Int) - 1
  else
    match (List.range 400).find? fun j => d ≤ n * tenTo j with
    | some j => -(j : Int)
    | none => -400

/-- The decimal `(c, k)`, standing for `c * 10 ^ k`, with the given number of digits that is nearest
to `m * 2 ^ e` among those that round to it. -/
def withDigits? (m : Nat) (e : Int) (count : Nat) : Option (Nat × Int) :=
  let (n, d) := Binary64.ratio m e
  let (low, high, ends) := interval m e
  let k : Int := magnitude n d - count + 1
  let (sn, sd) := decimalRatio d k
  let q := n * sd / sn
  let fits (c : Nat) : Bool := below ends low (decimalRatio c k) && below ends (decimalRatio c k) high
  let nearer : Nat := Binary64.roundHalfEven (n * sd) sn
  let other : Nat := if nearer = q then q + 1 else q
  if fits nearer then some (nearer, k) else if fits other then some (other, k) else none

def decimal (m : Nat) (e : Int) : Nat × Int :=
  ((List.range 17).findSome? fun i => withDigits? m e (i + 1)).getD (m, 0)

/-- The significant digits of a decimal and the place of its point: `0.d₁d₂… * 10 ^ place`. -/
def digits (c : Nat) (k : Int) : Text × Int :=
  let ds := Nat.toDigits 10 c
  ((ds.reverse.dropWhile (· = '0')).reverse, (ds.length : Int) + k)

structure Layout where
  /-- The point is written in place while the exponent lies from here … -/
  leastExponent : Int
  /-- … up to, but not at, this one. -/
  endExponent : Int
  /-- How many digits an exponent has at least. -/
  exponentDigits : Nat
  infinite : Text
  notANumber : Text

def positional (ds : Text) (place : Int) : Text :=
  if place ≤ 0 then "0.".toList ++ List.replicate (-place).toNat '0' ++ ds
  else
    let n := place.toNat
    if ds.length ≤ n then ds ++ List.replicate (n - ds.length) '0' ++ ".0".toList
    else ds.take n ++ '.' :: ds.drop n

def scientific (l : Layout) (ds : Text) (exponent : Int) : Text :=
  let e := Text.ofNat exponent.natAbs
  let mantissa := match ds with
    | d :: r@(_ :: _) => d :: '.' :: r
    | ds => ds
  mantissa ++ 'e' :: (if exponent < 0 then '-' else '+')
    :: (List.replicate (l.exponentDigits - e.length) '0' ++ e)

def text (l : Layout) : Binary64 → Text
  | .nan => l.notANumber
  | .infinite negative => (if negative then ['-'] else []) ++ l.infinite
  | .finite negative m e =>
    let sign : Text := if negative then ['-'] else []
    if m = 0 then sign ++ "0.0".toList
    else
      let (c, k) := decimal m e
      let (ds, place) := digits c k
      sign ++
        if l.leastExponent ≤ place - 1 && place - 1 < l.endExponent then positional ds place
        else scientific l ds (place - 1)

end TemplateEngine.Shortest
