import TemplateEngine.Script.Opener
import TemplateEngine.Text.Lines

set_option autoImplicit false

/-!
# Lines of a scriptlet

A scriptlet's body becomes lines that start at column zero. Code beside the open marker is taken
without its margin; the lines below it lose the margin they share. When the code beside the marker
opens a block and the next line would not be indented, all lines below are indented into it.
-/
namespace TemplateEngine.Scriptlet

def indentStep : Text := "    ".toList

def indentLine (l : Text) : Text := if l = [] then l else indentStep ++ l

def trimBlankLines (ls : List Text) : List Text :=
  ((ls.dropWhile Text.allBlank).reverse.dropWhile Text.allBlank).reverse

/-- Whether the first line that is not blank starts with white space, or there is none. -/
def startsIndented (ls : List Text) : Bool :=
  match ls.find? fun l => !Text.allBlank l with
  | some (c :: _) => Text.isBlank c
  | _ => true

def head (body : Text) : Text := Text.trim (((Text.lines body)[0]?).getD [])

/-- The lines below the open marker's line, without their margin and white space at their ends. -/
def tail (body : Text) : List Text :=
  (Text.dedent ((Text.lines body).drop 1)).map Text.trimEnd

/-- Whether the lines below the open marker are indented into the block opened beside it. -/
def entersBlock (body : Text) : Bool :=
  head body ≠ [] && (Script.Opener.indent? [head body]).isSome && !startsIndented (tail body)

def lines (body : Text) : List Text :=
  let below := if entersBlock body then (tail body).map indentLine else tail body
  trimBlankLines (if head body = [] then below else head body :: below)

end TemplateEngine.Scriptlet
