import TemplateEngine.Text.Printable

set_option autoImplicit false

/-!
# Quoted strings

A string between quotes, as a program would hold it. Single quotes are used unless the string has some
and no double quote. Backslashes, the quote, line ends, tabs and code points that are not printable
are escaped.
-/
namespace TemplateEngine

namespace Text

def hexDigits (width n : Nat) : Text :=
  let ds := Nat.toDigits 16 n
  List.replicate (width - ds.length) '0' ++ ds

def escapeOf (n : Nat) : Text :=
  if n < 0x100 then "\\x".toList ++ hexDigits 2 n
  else if n < 0x10000 then "\\u".toList ++ hexDigits 4 n
  else "\\U".toList ++ hexDigits 8 n

def quoteChar (quote c : Char) : Text :=
  if c = '\\' || c = quote then ['\\', c]
  else if c = '\n' then "\\n".toList
  else if c = '\r' then "\\r".toList
  else if c = '\t' then "\\t".toList
  else if isPrintable c then [c]
  else escapeOf c.toNat

end Text

namespace Str

def quotePoint (quote : Char) : CodePoint → Text
  | .char c => Text.quoteChar quote c
  | c => Text.escapeOf c.toNat

def quoteFor (s : Str) : Char :=
  if s.contains (.char '\'') && !s.contains (.char '"') then '"' else '\''

def quoted (s : Str) : Text :=
  quoteFor s :: s.flatMap (quotePoint (quoteFor s)) ++ [quoteFor s]

def escaped (s : Str) : Text :=
  s.flatMap fun
  | .char c => [c]
  | c => Text.escapeOf c.toNat

end Str
end TemplateEngine
