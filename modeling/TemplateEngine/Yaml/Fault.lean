import TemplateEngine.Calendar
import TemplateEngine.Number.Numeral
import TemplateEngine.Text.Utf8

set_option autoImplicit false

/-!
# Why a document has no data

Most documents without data break the rules of the language. In the others a scalar is written like a
number, a time or an escaped character, but there is none that it could stand for, or collections stand
too deep in each other, or bytes spell no text.
-/
namespace TemplateEngine.Yaml

inductive Fault where
  /-- The document breaks the rules of the language. -/
  | malformed
  /-- Bytes of the document spell no text. -/
  | encoding (f : Utf8.Fault)
  /-- A text spells no integer in a base. -/
  | integer (base : Nat) (t : Str) (f : Numeral.Fault)
  /-- A text spells no number with a point. -/
  | decimal (t : Str)
  | calendar (f : CalendarFault)
  /-- There is no character with a number. -/
  | character (n : Nat)
  /-- A scalar is said to be a number and is empty. -/
  | emptyNumber
  /-- A scalar is said to be a truth value and is none. -/
  | notTruth
  /-- A scalar is said to be a time and is not written like one. -/
  | notTime
  /-- Collections stand too deep in each other. -/
  | tooDeep
  deriving DecidableEq, Repr

namespace Fault

/-- The last character is far below this number, and no number from here on is looked up at all. -/
def characterBound : Nat := twoTo 31

def valueMessage? : Fault → Option Text
  | integer base t f => some (f.integerMessage base t)
  | decimal t => some (Numeral.floatMessage t)
  | calendar f => some f.message
  | character n =>
    if n < characterBound then some "chr() arg not in range(0x110000)".toList else none
  | malformed | encoding _ | emptyNumber | notTruth | notTime | tooDeep => none

def ofOption {α : Type} : Option α → Except Fault α
  | some a => .ok a
  | none => .error malformed

end Fault
end TemplateEngine.Yaml
