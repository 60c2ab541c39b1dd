import TemplateEngine.Text.Blank

set_option autoImplicit false

/-!
# Tokens of a line

The longest token at the start of a text: numbers, operators, the quotes and prefixes of strings,
and where a string ends. Every function gives back what it takes and what is left.
-/
namespace TemplateEngine.Script

/-- What a token is. A character that starts no token is `unknown`. -/
inductive TokenKind where
  | name
  | number
  | string
  | operator
  | unknown
  deriving DecidableEq, Repr

/-- A token and where it starts: lines count from 0, columns in code points. -/
structure Token where
  kind : TokenKind
  text : Text
  row : Nat
  column : Nat
  deriving DecidableEq, Repr

abbrev Taken := Text × Text

namespace Token

def isOperator (t : Token) (s : String) : Bool := t.kind = .operator && t.text = s.toList

def moreDigits (p : Char → Bool) : Text → Taken
  | '_' :: c :: t =>
    if p c then let (a, b) := moreDigits p t; ('_' :: c :: a, b) else ([], '_' :: c :: t)
  | c :: t => if p c then let (a, b) := moreDigits p t; (c :: a, b) else ([], c :: t)
  | [] => ([], [])

def digits? (p : Char → Bool) : Text → Option Taken
  | c :: t => if p c then let (a, b) := moreDigits p t; some (c :: a, b) else none
  | [] => none

def exponent? : Text → Option Taken
  | e :: t =>
    if e = 'e' || e = 'E' then
      match t with
      | s :: r =>
        if s = '+' || s = '-' then
          (digits? Char.isDigit r).map fun (a, b) => (e :: s :: a, b)
        else (digits? Char.isDigit t).map fun (a, b) => (e :: a, b)
      | [] => none
    else none
  | [] => none

def thenMaybe (next : Text → Option Taken) (x : Taken) : Taken :=
  match next x.2 with
  | some (a, b) => (x.1 ++ a, b)
  | none => x

def andThen (next : Text → Option Taken) (x : Taken) : Option Taken :=
  (next x.2).map fun (a, b) => (x.1 ++ a, b)

def either? (p q : Char) : Text → Option Taken
  | c :: t => if c = p || c = q then some ([c], t) else none
  | [] => none

def pointFloat? (t : Text) : Option Taken :=
  match (digits? Char.isDigit t).bind (andThen (either? '.' '.')) with
  | some x => some (thenMaybe (digits? Char.isDigit) x)
  | none => (either? '.' '.' t).bind (andThen (digits? Char.isDigit))

def float? (t : Text) : Option Taken :=
  match pointFloat? t with
  | some x => some (thenMaybe exponent? x)
  | none => (digits? Char.isDigit t).bind (andThen exponent?)

def imaginary? (t : Text) : Option Taken :=
  match (digits? Char.isDigit t).bind (andThen (either? 'j' 'J')) with
  | some x => some x
  | none => (float? t).bind (andThen (either? 'j' 'J'))

def isHexDigit (c : Char) : Bool :=
  c.isDigit || ('a' ≤ c && c ≤ 'f') || ('A' ≤ c && c ≤ 'F')

def isBinaryDigit (c : Char) : Bool := c = '0' || c = '1'

def isOctalDigit (c : Char) : Bool := '0' ≤ c && c ≤ '7'

def based? (letter capital : Char) (p : Char → Bool) : Text → Option Taken
  | z :: x :: t =>
    if z = '0' && (x = letter || x = capital) then
      match moreDigits p t with
      | ([], _) => none
      | (a, b) => some (z :: x :: a, b)
    else none
  | _ => none

/-- A decimal number; one that starts with a zero has nothing but zeros. -/
def decimal? : Text → Option Taken
  | [] => none
  | '0' :: t => let (a, b) := moreDigits (· = '0') t; some ('0' :: a, b)
  | t => digits? Char.isDigit t

def number? (t : Text) : Option Taken :=
  imaginary? t <|> float? t <|> based? 'x' 'X' isHexDigit t <|> based? 'b' 'B' isBinaryDigit t
    <|> based? 'o' 'O' isOctalDigit t <|> decimal? t

/-- The operators, each after those it is a start of. -/
def operators : List Text :=
  ["**=", "...", "//=", "<<=", ">>=", "!=", "%=", "&=", "**", "*=", "+=", "-=", "->", "//", "/=",
    ":=", "<<", "<=", "==", ">=", ">>", "@=", "^=", "|=", "%", "&", "(", ")", "*", "+", ",", "-",
    ".", "/", ":", ";", "<", "=", ">", "@", "[", "]", "^", "\x7b", "|", "\x7d", "~"].map
    String.toList

def operator? (t : Text) : Option Taken :=
  (operators.find? fun o => o.isPrefixOf t).map fun o => (o, t.drop o.length)

def bracketChange (o : Text) : Int :=
  match o with
  | ['('] | ['['] | ['\x7b'] => 1
  | [')'] | [']'] | ['\x7d'] => -1
  | _ => 0

def isQuote (c : Char) : Bool := c = '\'' || c = '"'

def isStringPrefix (p : Text) : Bool :=
  [[], ['b'], ['r'], ['u'], ['f'], ['b', 'r'], ['r', 'b'], ['f', 'r'], ['r', 'f']].contains
    (p.map Char.toLower)

def opening? : Text → Option (Text × Char × Text)
  | q :: t =>
    if isQuote q then some ([], q, t)
    else match t with
      | r :: u =>
        if isQuote r then if isStringPrefix [q] then some ([q], r, u) else none
        else match u with
          | s :: v => if isQuote s && isStringPrefix [q, r] then some ([q, r], s, v) else none
          | [] => none
      | [] => none
  | [] => none

/-- A text up to the first three quotes in a row; a backslash takes the next character with it. -/
def closeTriple? (q : Char) : Text → Option Taken
  | [] => none
  | '\\' :: c :: t => (closeTriple? q t).map fun (a, b) => ('\\' :: c :: a, b)
  | c :: t =>
    match t with
    | d :: e :: u =>
      if c = q && d = q && e = q then some ([c, d, e], u)
      else (closeTriple? q t).map fun (a, b) => (c :: a, b)
    | _ => (closeTriple? q t).map fun (a, b) => (c :: a, b)

inductive Ending where
  | closed (text rest : Text)
  /-- The line ends in a backslash that no other backslash escapes. -/
  | backslash
  | open

def Ending.prepend (p : Text) : Ending → Ending
  | closed a b => closed (p ++ a) b
  | backslash => backslash
  | «open» => «open»

def close (q : Char) : Text → Ending
  | [] => .open
  | ['\\'] => .backslash
  | ['\\', '\r'] => .backslash
  | '\\' :: c :: t => (close q t).prepend ['\\', c]
  | c :: t => if c = q then .closed [c] t else (close q t).prepend [c]

end Token
end TemplateEngine.Script
