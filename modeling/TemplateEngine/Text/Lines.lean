import TemplateEngine.Text.Basic

set_option autoImplicit false

/-!
# Lines and margins

A text is cut into lines at every character that Unicode lets end a line, a carriage return and the
line feed behind it counting as one end. A last line that is empty is no line. The margin of some lines
is the longest run of spaces and tabs that starts every line holding anything else. Taking the margin off
keeps the lines' indentation relative to each other.
-/
namespace TemplateEngine.Text

def isLineBreak (c : Char) : Bool :=
  let n := c.toNat
  (10 ≤ n && n ≤ 13) || (28 ≤ n && n ≤ 30) || n == 0x85 || n == 0x2028 || n == 0x2029

def lines : Text → List Text
  | [] => []
  | '\r' :: '\n' :: t => [] :: lines t
  | c :: t =>
    if isLineBreak c then [] :: lines t
    else match lines t with
      | [] => [[c]]
      | l :: ls => (c :: l) :: ls

/-- The pieces between line feeds; one more than there are line feeds. -/
def physicalLines : Text → List Text
  | [] => [[]]
  | c :: t =>
    if c = '\n' then [] :: physicalLines t
    else match physicalLines t with
      | [] => [[c]]
      | l :: ls => (c :: l) :: ls

/-- Every carriage return, with the line feed behind it if there is one, as one line feed. -/
def unifyLineEnds : Text → Text
  | [] => []
  | '\r' :: '\n' :: t => '\n' :: unifyLineEnds t
  | c :: t => (if c = '\r' then '\n' else c) :: unifyLineEnds t

def isIndent (c : Char) : Bool := c == ' ' || c == '\t'

def commonStart : Text → Text → Text
  | a :: s, b :: t => if a = b then a :: commonStart s t else []
  | _, _ => []

def indentOf (t : Text) : Text := t.takeWhile isIndent

/-- The longest run of spaces and tabs that starts each line not made of spaces and tabs alone. -/
def margin (ls : List Text) : Text :=
  match (ls.filter fun l => !l.all isIndent).map indentOf with
  | [] => []
  | i :: is => is.foldl commonStart i

/-- The lines without their margin; a line of spaces and tabs alone becomes empty. -/
def dedent (ls : List Text) : List Text :=
  let width := (margin ls).length
  ls.map fun l => if l.all isIndent then [] else l.drop width

end TemplateEngine.Text
