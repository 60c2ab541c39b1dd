import TemplateEngine.Text.Decomposition

set_option autoImplicit false

/-!
# Normal names

The normal form of a name under compatibility (NFKC, Unicode 14): characters are taken apart, marks
are put in the order of their classes, and what can be composed is composed. Names that look the same
have the same normal form, and only characters that may stand in a name are dealt with.
-/
namespace TemplateEngine.Text

def syllableStart : Nat := 0xAC00

def leadStart : Nat := 0x1100

def vowelStart : Nat := 0x1161

def trailStart : Nat := 0x11A7

def leadCount : Nat := 19

def vowelCount : Nat := 21

def trailCount : Nat := 28

def syllableCount : Nat := leadCount * vowelCount * trailCount

def syllableParts (n : Nat) : List Nat :=
  let i := n - syllableStart
  let trail := i % trailCount
  [leadStart + i / (vowelCount * trailCount),
    vowelStart + i % (vowelCount * trailCount) / trailCount]
    ++ if trail = 0 then [] else [trailStart + trail]

def isSyllable (n : Nat) : Bool := syllableStart ≤ n && n < syllableStart + syllableCount

def syllable? (a b : Nat) : Option Nat :=
  if leadStart ≤ a && a < leadStart + leadCount && vowelStart ≤ b && b < vowelStart + vowelCount then
    some (syllableStart + ((a - leadStart) * vowelCount + (b - vowelStart)) * trailCount)
  else if isSyllable a && (a - syllableStart) % trailCount = 0
      && trailStart < b && b < trailStart + trailCount then
    some (a + (b - trailStart))
  else none

/-- The characters that a character is made of. No character is composed more than four times. -/
def decompose : Nat → Nat → List Nat
  | 0, n => [n]
  | fuel + 1, n =>
    if n < tableStart then [n]
    else if isSyllable n then syllableParts n
    else match partsIn? n tableStart compositions with
      | some (a, b) => decompose fuel a ++ decompose fuel b
      | none =>
        match replacementIn? n tableStart replacements with
        | some m => [m]
        | none => (expansionIn? n expansions.length tableStart expansions).getD [n]

/-- Puts a mark behind those in front of it whose class is not greater; the characters are given last
to first. -/
def insertMark (n : Nat) : List Nat → List Nat
  | [] => [n]
  | m :: ms =>
    if combiningClass n ≠ 0 && combiningClass n < combiningClass m then m :: insertMark n ms
    else n :: m :: ms

def orderMarks (ns : List Nat) : List Nat := (ns.foldl (fun ms n => insertMark n ms) []).reverse

def composite? (a b : Nat) : Option Nat :=
  (syllable? a b) <|> (compositeIn? a b tableStart compositions)

/-- Composes the characters behind a starter with it. `kept` are those that stay, last to first. -/
def composeFrom (starter : Nat) : (kept : List Nat) → List Nat → List Nat
  | kept, [] => starter :: kept.reverse
  | kept, n :: ns =>
    let cls := combiningClass n
    let blocked := match kept with
      | [] => false
      | k :: _ => combiningClass k = 0 || cls ≤ combiningClass k
    match if blocked then none else composite? starter n with
    | some c => composeFrom c kept ns
    | none =>
      if cls = 0 then starter :: kept.reverse ++ composeFrom n [] ns
      else composeFrom starter (n :: kept) ns

def compose : List Nat → List Nat
  | [] => []
  | n :: ns => if combiningClass n = 0 then composeFrom n [] ns else n :: compose ns

def normalName (t : Text) : Text :=
  if t.all fun c => c.toNat < tableStart then t
  else (compose (orderMarks (t.flatMap fun c => decompose 4 c.toNat))).map Char.ofNat

end TemplateEngine.Text
