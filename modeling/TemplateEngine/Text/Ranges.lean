import TemplateEngine.Text.Blank

set_option autoImplicit false

/-!
# Tables of character ranges

A property of the characters from U+0080 on is written as numbers in turn: how many characters lack
it, how many after those have it, and so on.
-/
namespace TemplateEngine.Text

def decimal (t : Text) : Nat := t.foldl (fun n c => 10 * n + (c.toNat - 48)) 0

/-- Whether the number `n` lies in a stretch that has the property; the first stretch starts at
`start`. -/
def inStretches (n : Nat) : (start : Nat) → List Nat → Bool
  | start, gap :: run :: rest =>
    if n < start + gap then false
    else if n < start + gap + run then true
    else inStretches n (start + gap + run) rest
  | _, _ => false

/-- The numbers of a table that is written as lines of decimals with white space between them. -/
def table (rows : List String) : List Nat := rows.flatMap fun s => (words s.toList).map decimal

end TemplateEngine.Text
