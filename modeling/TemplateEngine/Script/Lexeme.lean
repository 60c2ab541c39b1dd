import TemplateEngine.Number.Numeral
import TemplateEngine.Script.LineScan
import TemplateEngine.Script.Name
import TemplateEngine.Script.StringLiteral
import TemplateEngine.Script.Syntax
import TemplateEngine.Text.Normal

set_option autoImplicit false

/-!
# Lexemes

What the grammar is written in: names, words, symbols and values. Not every token is a lexeme; words
and symbols that the grammar has no use for are none.
-/
namespace TemplateEngine.Script

inductive Word where
  | false_
  | none_
  | true_
  | and
  | as
  | assert
  | break_
  | continue_
  | def_
  | del
  | elif
  | else_
  | except
  | finally_
  | for_
  | from_
  | if_
  | in_
  | is
  | lambda
  | not
  | or
  | pass
  | raise
  | return_
  | try_
  | while_
  deriving DecidableEq, Repr

inductive Symbol where
  | parenOpen
  | parenClose
  | bracketOpen
  | bracketClose
  | braceOpen
  | braceClose
  | comma
  | colon
  | semicolon
  | dot
  | ellipsis
  | assign
  | operator (op : BinaryOp)
  | update (op : BinaryOp)
  | invert
  | compare (op : CompareOp)
  deriving DecidableEq, Repr

inductive Lexeme where
  /-- A name in its normal form. -/
  | name (n : Text)
  | word (w : Word)
  | symbol (s : Symbol)
  | int (n : Nat)
  | float (f : Binary64)
  | imaginary (f : Binary64)
  | text (t : Str)
  deriving DecidableEq, Repr

namespace Word

def table : List (Text × Word) :=
  [("False", false_), ("None", none_), ("True", true_), ("and", and), ("as", as),
    ("assert", assert), ("break", break_), ("continue", continue_), ("def", def_), ("del", del),
    ("elif", elif), ("else", else_), ("except", except), ("finally", finally_), ("for", for_),
    ("from", from_), ("if", if_), ("in", in_), ("is", is), ("lambda", lambda), ("not", not),
    ("or", or), ("pass", pass), ("raise", raise), ("return", return_), ("try", try_),
    ("while", while_)].map fun e => (e.1.toList, e.2)

end Word

namespace Symbol

/-- The binary operators as they are written; with an equals sign behind them they update. -/
def operators : List (Text × BinaryOp) :=
  [("+", BinaryOp.add), ("-", .subtract), ("*", .multiply), ("/", .divide), ("//", .floorDivide),
    ("%", .modulo), ("**", .power), ("&", .bitAnd), ("|", .bitOr), ("^", .bitXor),
    ("<<", .shiftLeft), (">>", .shiftRight)].map fun e => (e.1.toList, e.2)

def others : List (Text × Symbol) :=
  [("(", parenOpen), (")", parenClose), ("[", bracketOpen), ("]", bracketClose),
    ("\x7b", braceOpen), ("\x7d", braceClose), (",", comma), (":", colon), (";", semicolon),
    (".", dot), ("...", ellipsis), ("=", assign), ("~", invert), ("==", compare .equal),
    ("!=", compare .notEqual), ("<", compare .less), ("<=", compare .lessEqual),
    (">", compare .greater), (">=", compare .greaterEqual)].map fun e => (e.1.toList, e.2)

def table : List (Text × Symbol) :=
  others ++ operators.map (fun e => (e.1, operator e.2))
    ++ operators.map (fun e => (e.1 ++ ['='], update e.2))

end Symbol

namespace Lexeme

/-- Names for reading a program: letters, digits, underscores and every character beyond ASCII. -/
def nameRule : NameRule where
  start c := c.isAlpha || c = '_' || 128 ≤ c.toNat
  part c := c.isAlphanum || c = '_' || 128 ≤ c.toNat

def ofNumber? (token : Text) : Option Lexeme :=
  let t := token.filter (· ≠ '_')
  let digits (base : Nat) (ds : Text) : Option Lexeme := some (.int (Numeral.value base ds))
  match t.map Char.toLower with
  | '0' :: 'x' :: ds => digits 16 ds
  | '0' :: 'o' :: ds => digits 8 ds
  | '0' :: 'b' :: ds => digits 2 ds
  | ds =>
    if ds.all (· = '0') then some (.int 0)
    else if ds.all Char.isDigit then
      if ds.length ≤ Numeral.maxDigits then digits 10 ds else none
    else if ds.contains 'j' then some (.imaginary (Numeral.decimalValue (ds.filter (· ≠ 'j'))))
    else some (.float (Numeral.decimalValue ds))

/-- The lexeme of a name token. Names with the same normal form are the same name, but a word of the
grammar is one only as it stands. -/
def ofName? (token : Text) : Option Lexeme :=
  if isKeyword token then (Word.table.lookup token).map .word
  else if Text.isIdentifier token then some (.name (Text.normalName token))
  else none

def ofToken? (t : Token) : Option Lexeme :=
  match t.kind with
  | .name => ofName? t.text
  | .number => ofNumber? t.text
  | .string => (StringLiteral.value? t.text).map .text
  | .operator => (Symbol.table.lookup t.text).map .symbol
  | .unknown => none

/-- Whether one token spoils the one in front of it: a zero and the letter `o` right behind it start a
number in base 8, although digits of that base do not follow. -/
def spoils (t u : Token) : Bool :=
  t.kind = .number && t.text = ['0'] && u.row = t.row && u.column = t.column + 1
    && u.text.head? = some 'o'

def ofTokens? : List Token → Option (List Lexeme)
  | [] => some []
  | t :: ts => do
    guard (!ts.head?.any (spoils t))
    let l ← ofToken? t
    let ls ← ofTokens? ts
    some (l :: ls)

end Lexeme
end TemplateEngine.Script
