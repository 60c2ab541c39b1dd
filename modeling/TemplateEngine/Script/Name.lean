import TemplateEngine.Text.Identifier

set_option autoImplicit false

namespace TemplateEngine.Script

def keywords : List Text :=
  ["False", "None", "True", "and", "as", "assert", "async", "await", "break", "class", "continue",
    "def", "del", "elif", "else", "except", "finally", "for", "from", "global", "if", "import",
    "in", "is", "lambda", "nonlocal", "not", "or", "pass", "raise", "return", "try", "while",
    "with", "yield"].map String.toList

def isKeyword (t : Text) : Bool := keywords.contains t

def bufferName : Text := "_buf".toList

def escapeName : Text := "_escape".toList

/-- The names that generated code keeps for itself, in alphabetical order. -/
def reservedNames : List Text := [bufferName, escapeName]

def isVariableName (t : Text) : Bool := Text.isIdentifier t && !isKeyword t

end TemplateEngine.Script
