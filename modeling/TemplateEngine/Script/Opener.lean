import TemplateEngine.Script.LineScan
import TemplateEngine.Text.Identifier
import TemplateEngine.Text.Lines
import TemplateEngine.Text.WordChar

set_option autoImplicit false

/-!
# Statements that open a block

Lines open a block if their last token, comments apart, is a colon. The block is indented under the
statement that the colon ends. Lines that cannot be scanned, or whose indentation returns to no
earlier column, open none.
-/
namespace TemplateEngine.Script

/-- Names for finding block openers: word characters, the first of which may start a name. -/
def wordRule : NameRule := ⟨Text.isIdentifierStart, Text.isWordChar⟩

/-- The column behind some blanks: a tab goes on to the next multiple of eight and a form feed back
to the first column. -/
def columnAfter (blanks : Text) : Nat :=
  blanks.foldl (fun n c => if c = '\t' then (n / 8 + 1) * 8 else if c = '\x0c' then 0 else n + 1) 0

/-- The columns of the open blocks, innermost first, after a line that starts at a column; none if
it returns to a column that no open block has. -/
def indentTo? (column : Nat) : List Nat → Option (List Nat)
  | [] => some [column]
  | top :: below =>
    if top < column then some (column :: top :: below)
    else if column = top then some (top :: below)
    else if below.contains column then indentTo? column below
    else none

namespace Opener

structure State where
  columns : List Nat := [0]
  /-- Whether the next token starts a statement. -/
  fresh : Bool := true
  /-- Where the last statement starts. -/
  start : Option (Nat × Nat) := none
  /-- Whether the last token is a colon. -/
  colon : Bool := false
  deriving DecidableEq, Repr

def step (st : State) : Event → Option State
  | .margin blanks => (indentTo? (columnAfter blanks) st.columns).map ({ st with columns := · })
  | .lineEnd => some { st with fresh := true }
  | .token t =>
    some { st with
      fresh := false
      start := if st.fresh then some (t.row, t.column) else st.start
      colon := t.isOperator ":" }

/-- Where the statement starts that opens a block at the end of the lines, if one does. The row counts
line feeds, also those within the lines. -/
def start? (ls : List Text) : Option (Nat × Nat) := do
  let events ← LineScan.events? wordRule (Text.physicalLines (Text.join ['\n'] ls))
  let st ← events.foldlM step {}
  if st.colon then st.start else none

/-- The indentation of the statement that opens a block at the end of the lines, if one does and its row
is one of the lines. -/
def indent? (ls : List Text) : Option Text := do
  let (row, column) ← start? ls
  return (← ls[row]?).take column

end Opener
end TemplateEngine.Script
