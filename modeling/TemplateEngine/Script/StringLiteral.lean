import TemplateEngine.Script.Token
import TemplateEngine.Text.CharacterName

set_option autoImplicit false

/-!
# The value of a string token

A string token is prefix letters, quotes, a body and the same quotes. In a body a backslash and what
follows it stand for a character, unless a prefix letter makes the string raw. A string in single
quotes goes on in the next line only behind a backslash.
-/
namespace TemplateEngine.Script.StringLiteral

def simpleEscape? (c : Char) : Option Char :=
  if c = '\\' || c = '\'' || c = '"' then some c
  else if c = 'a' then some '\x07'
  else if c = 'b' then some '\x08'
  else if c = 'f' then some '\x0c'
  else if c = 'n' then some '\n'
  else if c = 'r' then some '\r'
  else if c = 't' then some '\t'
  else if c = 'v' then some '\x0b'
  else none

def hexCount? (c : Char) : Option Nat :=
  if c = 'x' then some 2 else if c = 'u' then some 4 else if c = 'U' then some 8 else none

/-- The character whose name stands between braces at the start of a text, and how many characters that
takes. -/
def named? : Text → Option (Char × Nat)
  | '\x7b' :: t =>
    let name := t.takeWhile (· ≠ '\x7d')
    if name.length = t.length then none
    else (CharacterName.find? name).map fun c => (c, name.length + 2)
  | _ => none

def escape? (c : Char) (t : Text) : Option (Str × Nat) :=
  match simpleEscape? c, hexCount? c with
  | some d, _ => some ([.char d], 0)
  | none, some n =>
    let ds := t.take n
    if ds.length = n && ds.all Token.isHexDigit then
      (CodePoint.ofNat? (Numeral.value 16 ds)).map fun d => ([d], n)
    else none
  | none, none =>
    if c = '\n' then some ([], 0)
    else if Token.isOctalDigit c then
      let ds := (t.take 2).takeWhile Token.isOctalDigit
      (CodePoint.ofNat? (Numeral.value 8 (c :: ds))).map fun d => ([d], ds.length)
    else if c = 'N' then (named? t).map fun (d, n) => ([.char d], n)
    else some ([.char '\\', .char c], 0)

/-- The value of a body. The number counts characters that an escape has already taken. -/
def body? (raw multiline : Bool) : (taken : Nat) → Text → Option Str
  | _, [] => some []
  | n + 1, _ :: t => body? raw multiline n t
  | 0, '\\' :: c :: t =>
    if raw then (body? raw multiline 0 t).map (.char '\\' :: .char c :: ·)
    else do
      let (d, n) ← escape? c t
      let r ← body? raw multiline n t
      some (d ++ r)
  | 0, c :: t =>
    if c = '\n' && !multiline then none else (body? raw multiline 0 t).map (.char c :: ·)

/-- The value of a string token. Strings of bytes and strings with expressions have none. -/
def value? (token : Text) : Option Str := do
  let (letters, q, t) ← Token.opening? token
  let letters := letters.map Char.toLower
  if letters.contains 'b' || letters.contains 'f' then none
  else
    let raw := letters.contains 'r'
    if [q, q].isPrefixOf t && 4 < t.length then body? raw true 0 ((t.drop 2).take (t.length - 5))
    else body? raw false 0 t.dropLast

end TemplateEngine.Script.StringLiteral
