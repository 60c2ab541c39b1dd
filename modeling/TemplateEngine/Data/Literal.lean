import TemplateEngine.Data
import TemplateEngine.Number.Numeral
import TemplateEngine.Number.Shortest

set_option autoImplicit false

namespace TemplateEngine

namespace Data

/-- Floating-point numbers are written in place from `1e-4` up to `1e16`. -/
def floatLayout : Shortest.Layout where
  leastExponent := -4
  endExponent := 16
  exponentDigits := 2
  infinite := "inf".toList
  notANumber := "nan".toList

mutual

def literal : Data → Text
  | null => "None".toList
  | bool true => "True".toList
  | bool false => "False".toList
  | int i => Text.ofInt i
  | float f => Shortest.text floatLayout f
  | text t => Str.quoted t
  | date d => d.literal
  | moment m => m.literal
  | list xs => '[' :: Text.join ", ".toList (literals xs) ++ [']']
  | dict es => '\x7b' :: Text.join ", ".toList (entryLiterals es) ++ ['\x7d']
  | shared _ d => literal d
  | inside _ isList => (if isList then "[...]" else "\x7b...\x7d").toList

def literals : List Data → List Text
  | [] => []
  | x :: xs => literal x :: literals xs

def entryLiterals : List (Data × Data) → List Text
  | [] => []
  | (k, v) :: es => (literal k ++ ": ".toList ++ literal v) :: entryLiterals es

end

def numberBound : Nat := tenTo Numeral.maxDigits

mutual

def isLong : Data → Bool
  | int i => numberBound ≤ i.natAbs
  | list xs => anyLong xs
  | dict es => anyEntryLong es
  | shared _ d => isLong d
  | _ => false

def anyLong : List Data → Bool
  | [] => false
  | x :: xs => isLong x || anyLong xs

def anyEntryLong : List (Data × Data) → Bool
  | [] => false
  | (k, v) :: es => isLong k || isLong v || anyEntryLong es

end

def typeName : Data → Text
  | null => "NoneType".toList
  | bool _ => "bool".toList
  | int _ => "int".toList
  | float _ => "float".toList
  | text _ => "str".toList
  | date _ => "date".toList
  | moment _ => "datetime".toList
  | list _ | inside _ true => "list".toList
  | dict _ | inside _ false => "dict".toList
  | shared _ d => d.typeName

end Data

end TemplateEngine
