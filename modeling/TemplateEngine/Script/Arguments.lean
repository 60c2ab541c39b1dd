import TemplateEngine.Script.Run

set_option autoImplicit false

namespace TemplateEngine.Script

structure Arguments where
  positional : List Value := []
  named : List (Str × Value) := []

/-- The values of the parameters of a function. Those that take what no other parameter takes have
theirs apart. -/
structure Bound where
  values : List (Text × Value)
  /-- The arguments without a name that are left, if a parameter takes them. -/
  others : Option (Text × List Value)
  /-- The arguments with a name that are left, if a parameter takes them. -/
  namedOthers : Option (Text × List (Str × Value))

namespace Slot

def takesPositional (p : Slot) : Bool := p.kind = .positional || p.kind = .plain

def takesNamed (p : Slot) : Bool := p.kind = .plain || p.kind = .named

def nameOf? (k : ParameterKind) (ps : List Slot) : Option Text :=
  (ps.find? fun p => p.kind = k).map Slot.name

end Slot

namespace Arguments

/-- The value of a parameter: the argument at its place, one with its name, or the default value, but
not two of them. -/
def valueOf (place : Option Value) (named : List (Str × Value)) (p : Slot) :
    Result (Text × Value) :=
  match place, if p.takesNamed then named.lookup (p.name : Str) else none with
  | some _, some _ => Result.raise .typeError
  | some v, none | none, some v => return (p.name, v)
  | none, none =>
    match p.default? with
    | some v => return (p.name, v)
    | none => Result.raise .typeError

def bind (a : Arguments) (parameters : List Slot) : Result Bound := do
  let front := parameters.filter Slot.takesPositional
  let back := parameters.filter fun p => p.kind = .named
  let places := a.positional.map some ++ List.replicate front.length none
  let values ← (front.zip places).mapM fun e => valueOf e.2 a.named e.1
  let more ← back.mapM (valueOf none a.named)
  let left := a.positional.drop front.length
  let known : List Str := (parameters.filter Slot.takesNamed).map fun p => p.name
  let leftNamed := a.named.filter fun e => !known.contains e.1
  let others := Slot.nameOf? .others parameters
  let namedOthers := Slot.nameOf? .namedOthers parameters
  if others.isNone && !left.isEmpty || namedOthers.isNone && !leftNamed.isEmpty then
    Result.raise .typeError
  else
    return ⟨values ++ more, others.map fun n => (n, left), namedOthers.map fun n => (n, leftNamed)⟩

/-- The values of some named parameters, of which the first `least` have no default value. -/
def take (a : Arguments) (least : Nat) (names : List String) : Result (List (Option Value)) := do
  if a.positional.length + a.named.length < least then Result.raise .typeError
  else
    let n := a.positional.length
    if names.length < n then Result.raise .typeError
    else if a.named.all fun e => (names.drop n).any fun m => e.1 = m.toList then
      let values := a.positional.map some
        ++ (names.drop n).map fun m => a.named.lookup (m.toList : Str)
      if (values.take least).all Option.isSome then return values else Result.raise .typeError
    else Result.raise .typeError

def one (a : Arguments) : Result Value :=
  match a.positional, a.named with
  | [v], [] => return v
  | _, _ => Result.raise .typeError

def nothing (a : Arguments) : Result Unit :=
  match a.positional, a.named with
  | [], [] => return ()
  | _, _ => Result.raise .typeError

def plain (a : Arguments) : Result (List Value) :=
  if a.named.isEmpty then return a.positional else Result.raise .typeError

def namedItems (a : Arguments) : List Item := a.named.map fun e => (.ofLiteral e.1, e.2)

def splitNamed (a : Arguments) (n : String) : Option Value × Arguments :=
  (a.named.lookup (n.toList : Str), { a with named := a.named.filter fun e => e.1 ≠ n.toList })

end Arguments
end TemplateEngine.Script
