import TemplateEngine.Text.Basic

set_option autoImplicit false

namespace TemplateEngine.Script

inductive TypeName where
  | object
  | bool
  | int
  | float
  | str
  | list
  | tuple
  | dict
  | frozenset
  | range
  | slice
  | enumerate
  | zip
  | map
  | filter
  | reversed
  | type
  | noneType
  | ellipsis
  | function
  | builtin
  | method
  | complex
  | generator
  | keyView
  | valueView
  | itemView
  | date
  | moment
  deriving DecidableEq, Repr

namespace TypeName

def known : List (String × TypeName) :=
  [("object", object), ("bool", bool), ("int", int), ("float", float), ("str", str),
    ("list", list), ("tuple", tuple), ("dict", dict), ("frozenset", frozenset),
    ("range", range), ("slice", slice), ("enumerate", enumerate), ("zip", zip), ("map", map),
    ("filter", filter), ("reversed", reversed), ("type", type)]

def others : List (String × TypeName) :=
  [("NoneType", noneType), ("ellipsis", ellipsis), ("function", function),
    ("builtin_function_or_method", builtin), ("method_descriptor", method), ("complex", complex),
    ("generator", generator), ("dict_keys", keyView), ("dict_values", valueView),
    ("dict_items", itemView), ("date", date), ("datetime", moment)]

def name (t : TypeName) : Text :=
  match (known ++ others).find? fun e => e.2 = t with
  | some e => e.1.toList
  | none => []

/-- The name of a type with that of the module it is from, if that is not the language itself. -/
def fullName (t : TypeName) : Text :=
  match t with
  | date | moment => "datetime.".toList ++ t.name
  | t => t.name

end TypeName
end TemplateEngine.Script
