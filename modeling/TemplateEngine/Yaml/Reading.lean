import TemplateEngine.Yaml.Source

set_option autoImplicit false

/-!
# Reading a document

A document is read from left to right. A reading is what is left of it, together with the length of
all of it, the fault behind it if there is one, and the offset, the line and the column where it starts.
Every read of text that is more than one character is a repetition of the step by one character.
-/
namespace TemplateEngine.Yaml

def isBreak (c : Char) : Bool :=
  c = '\n' || c = '\r' || c = '\u0085' || c = '\u2028' || c = '\u2029'

def isGap (c : Char) : Bool := c = ' ' || c = '\t'

def atBreak (t : Text) : Bool := t.head?.all isBreak

def atSpace (t : Text) : Bool := t.head?.all fun c => isBreak c || c = ' '

def atGap (t : Text) : Bool := t.head?.all fun c => isBreak c || isGap c

def atMark (mark : String) (t : Text) : Bool := mark.toList.isPrefixOf t && atGap (t.drop 3)

def atDocumentMark (t : Text) : Bool := atMark "---" t || atMark "..." t

structure Reading where
  rest : Text
  /-- The length of the document, which bounds every repetition. -/
  size : Nat
  /-- The fault behind the rest, if that is not all of the document. -/
  fault? : Option Fault := none
  index : Nat := 0
  line : Nat := 0
  column : Nat := 0
  deriving DecidableEq, Repr

namespace Reading

def char? (r : Reading) : Option Char := r.rest.head?

def isAt (r : Reading) (c : Char) : Bool := r.char? = some c

def next (r : Reading) : Reading :=
  match r.rest with
  | [] => r
  | c :: t =>
    let r := { r with rest := t, index := r.index + 1 }
    if isBreak c && !(c = '\r' && t.head? = some '\n') then { r with line := r.line + 1, column := 0 }
    else if c = Text.byteOrderMark then r
    else { r with column := r.column + 1 }

def ending (r : Reading) : Fault := r.fault?.getD .malformed

/-- Whether the rest is used up and more of the document cannot be read. -/
def isCut (r : Reading) : Bool := r.rest.isEmpty && r.fault?.isSome

def skip : Nat → Reading → Reading
  | 0, r => r
  | n + 1, r => skip n r.next

def span (p : Char → Bool) (r : Reading) : Text × Reading :=
  let t := r.rest.takeWhile p
  (t, r.skip t.length)

def restOfLine (r : Reading) : Text × Reading := r.span fun c => !isBreak c

def skipWhile (p : Char → Bool) (r : Reading) : Reading := (r.span p).2

def skipSpaces (r : Reading) : Reading := r.skipWhile (· = ' ')

def skipSpacesTo (column : Nat) (r : Reading) : Reading :=
  r.skip (min (r.rest.takeWhile (· = ' ')).length (column - r.column))

def skipComment (r : Reading) : Reading := if r.isAt '#' then r.restOfLine.2 else r

/-- Reads the end of a line, if there is one. A line feed stands for most of them. -/
def lineBreak (r : Reading) : Text × Reading :=
  match r.rest with
  | '\r' :: '\n' :: _ => (['\n'], r.skip 2)
  | c :: _ =>
    if c = '\u2028' || c = '\u2029' then ([c], r.next)
    else if isBreak c then (['\n'], r.next)
    else ([], r)
  | [] => ([], r)

end Reading
end TemplateEngine.Yaml
