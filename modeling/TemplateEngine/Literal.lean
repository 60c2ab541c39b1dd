import TemplateEngine.Text.Basic

set_option autoImplicit false

/-!
# Literals in generated code

Template text is written into code between single quotes. Quotes, backslashes, tabs, line ends and
the null character are escaped, so that a literal stays on its line and ends where it should.
-/
namespace TemplateEngine.Literal

def escapeChar (c : Char) : Text :=
  if c = '\\' then "\\\\".toList
  else if c = '\'' then "\\'".toList
  else if c = '\t' then "\\t".toList
  else if c = '\r' then "\\r".toList
  else if c = '\n' then "\\n".toList
  else if c = '\x00' then "\\x00".toList
  else [c]

def escape (t : Text) : Text := t.flatMap escapeChar

def quote (t : Text) : Text := '\'' :: escape t ++ ['\'']

@[simp] theorem escape_cons (c : Char) (t : Text) : escape (c :: t) = escapeChar c ++ escape t :=
  rfl

theorem escape_append (s t : Text) : escape (s ++ t) = escape s ++ escape t := by
  simp [escape]

end TemplateEngine.Literal
