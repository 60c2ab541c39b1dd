import TemplateEngine.Text.Lines
import TemplateEngine.Script.Name

set_option autoImplicit false

/-!
# The layout of a generated module

A generated module starts with a comment that names where it comes from, defines the function that
renders the template, and ends with the function that escapes values and its tables.
-/
namespace TemplateEngine.Generated

def renderName : Text := "render".toList

/-- The comment that names the origin; line ends within it become spaces. -/
def headerLine (origin : Text) : Text :=
  "# Generated by scriptpage from ".toList ++ Text.join [' '] (Text.lines origin)
    ++ ". Do not edit.".toList

def openingLines (param : Text) : List Text :=
  [[], [], "def render(".toList ++ param ++ "=None):".toList, "    _buf = []".toList]

def closingLines : List Text :=
  ["    return ''.join(_buf)",
    "",
    "",
    "def _escape(value):",
    "    if value is None:",
    "        return ''",
    "    if not isinstance(value, str):",
    "        return _escape(str(value))",
    "    if not _SPECIAL_CHARS.intersection(value):",
    "        return value",
    "    return value.translate(_HTML_ENTITIES)",
    "",
    "",
    "_SPECIAL_CHARS = frozenset('&\"<>')",
    "_HTML_ENTITIES = str.maketrans(\x7b",
    "    '&': '&amp;',",
    "    '\"': '&quot;',",
    "    '<': '&lt;',",
    "    '>': '&gt;',",
    "\x7d)"].map String.toList

def moduleLines (param : Text) (body : List Text) (origin : Text) : List Text :=
  headerLine origin :: openingLines param ++ body ++ closingLines

def module (param : Text) (body : List Text) (origin : Text) : Text :=
  (moduleLines param body origin).flatMap fun l => l ++ ['\n']

end TemplateEngine.Generated
