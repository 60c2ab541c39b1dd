import TemplateEngine.Data.Literal

set_option autoImplicit false

/-!
# Issues

An issue says where in some data a value was not accepted, and why. Issues are collected, so that
all of them are reported together in the order of the fields. A report shows the input, but not all of
a long one.
-/
namespace TemplateEngine

inductive Fault where
  | notText
  /-- A string is no text. -/
  | notUnicode
  | notBool
  | unclearBool
  | notPath
  /-- Something other than a mapping stood for a record with this name. -/
  | notRecord (name : Text)
  /-- The value breaks a rule, which the text states. -/
  | rule (text : Text)
  deriving DecidableEq, Repr

namespace Fault

def code : Fault → Text
  | notText => "string_type".toList
  | notUnicode => "string_unicode".toList
  | notBool => "bool_type".toList
  | unclearBool => "bool_parsing".toList
  | notPath => "path_type".toList
  | notRecord _ => "model_type".toList
  | rule _ => "value_error".toList

def message : Fault → Text
  | notText => "Input should be a valid string".toList
  | notUnicode =>
    "Input should be a valid string, unable to parse raw data as a unicode string".toList
  | notBool => "Input should be a valid boolean".toList
  | unclearBool => "Input should be a valid boolean, unable to interpret input".toList
  | notPath => "Input is not a valid path for <class 'pathlib.Path'>".toList
  | notRecord name =>
    "Input should be a valid dictionary or instance of ".toList ++ name
  | rule text => "Value error, ".toList ++ text

end Fault

structure Issue where
  location : List Text
  fault : Fault
  input : Data
  deriving Repr

namespace Issue

def byteCount (t : Text) : Nat := t.foldl (fun n c => n + c.utf8Size) 0

def frontOf : (bytes : Nat) → Text → Text
  | _, [] => []
  | n, c :: t => if c.utf8Size ≤ n then c :: frontOf (n - c.utf8Size) t else []

def maxInput : Nat := 50

/-- A text, without its middle if it is long. -/
def abbreviated (t : Text) : Text :=
  if byteCount t ≤ maxInput then t
  else
    let half := maxInput / 2
    frontOf half t ++ "...".toList ++ (frontOf (half - 1) t.reverse).reverse

def shown (d : Data) : Text :=
  if d.isLong then "<unprintable ".toList ++ d.typeName ++ " object>".toList
  else abbreviated d.literal

def report (i : Issue) : List Text :=
  let line := "  ".toList ++ i.fault.message ++ " [type=".toList ++ i.fault.code
    ++ ", input_value=".toList ++ shown i.input ++ ", input_type=".toList ++ i.input.typeName
    ++ [']']
  if i.location = [] then [line] else [Text.join ['.'] i.location, line]

def reportAll (record : Text) (issues : List Issue) : Text :=
  let count := Text.ofNat issues.length
  let noun := if issues.length = 1 then " validation error for " else " validation errors for "
  Text.join ['\n'] ((count ++ noun.toList ++ record) :: issues.flatMap report)

end Issue

abbrev Checked (α : Type) := Except (List Issue) α

namespace Checked

/-- Two checks, of which the second is made even if the first fails. -/
def both {α β : Type} (a : Checked α) (b : Checked β) : Checked (α × β) :=
  match a, b with
  | .ok x, .ok y => .ok (x, y)
  | .ok _, .error q => .error q
  | .error p, .ok _ => .error p
  | .error p, .error q => .error (p ++ q)

def refuse {α : Type} (location : List Text) (fault : Fault) (input : Data) : Checked α :=
  .error [⟨location, fault, input⟩]

end Checked
end TemplateEngine
