import TemplateEngine.Script.MethodName
import TemplateEngine.Script.Run

set_option autoImplicit false

namespace TemplateEngine.Script.Value

def numberParts (v : Value) : List (String × Value) :=
  match v with
  | bool b =>
    let i := ofNat b.toNat
    [("real", i), ("imag", ofNat 0), ("numerator", i), ("denominator", ofNat 1)]
  | int _ _ => [("real", v), ("imag", ofNat 0), ("numerator", v), ("denominator", ofNat 1)]
  | float _ _ => [("real", v), ("imag", ofFloat .zero)]
  | complex c _ => [("real", ofFloat c.re), ("imag", ofFloat c.im)]
  | _ => []

def dateParts (d : Date) : List (String × Value) :=
  [("year", ofNat d.year), ("month", ofNat d.month), ("day", ofNat d.day)]

def momentParts (m : Moment) : List (String × Value) :=
  dateParts m.date ++ [("hour", ofNat m.hour), ("minute", ofNat m.minute),
    ("second", ofNat m.second), ("microsecond", ofNat m.microsecond)]

/-- The attributes of a value that are no methods. Those that a value holds are known by its own
identity. -/
def parts (h : Heap) (v : Value) : List (String × Value) :=
  match v with
  | date d _ => dateParts d
  | moment m _ => momentParts m
  | range a b c _ => [("start", ofInt a), ("stop", ofInt b), ("step", ofInt c)]
  | slice a b c _ => [("start", a), ("stop", b), ("step", c)]
  | exception c arguments id =>
    [("args", if arguments.isEmpty then ofItems [] else tuple (shownArguments c arguments) id)]
  | function a => [("__name__", ofLiteral (((h.closure? a).map Closure.name).getD []))]
  | builtin b => [("__name__", ofNewText b.name)]
  | type .str =>
    [("__name__", ofNewText TypeName.str.name), ("maketrans", builtin .makeCharTable)]
  | type t => [("__name__", ofNewText t.name)]
  | exceptionClass c => [("__name__", ofNewText c.name)]
  | text _ _ => [("maketrans", builtin .makeCharTable)]
  | v => numberParts v

/-- The method that a value has under a name, for itself or, if it is a type, for its values. -/
def method? (v : Value) (n : Text) : Option Value :=
  match v, v.typeOf with
  | type t, _ => (Method.find? t n).map (unbound t)
  | v, type t => (Method.find? t n).map fun m => method v m .fresh
  | _, _ => Option.none

def typeAttribute : Text := "__class__".toList

/-- `v.n`. -/
def getAttribute (h : Heap) (v : Value) (n : Text) : Result Value :=
  if n = typeAttribute then return v.typeOf
  else match v.method? n, (v.parts h).find? fun e => e.1.toList = n with
    | some m, _ => return m
    | Option.none, some e => return e.2
    | Option.none, Option.none => Result.raise .attributeError

def attributeFault : Value → ExceptionClass
  | type _ | exceptionClass _ => .typeError
  | _ => .attributeError

end TemplateEngine.Script.Value
