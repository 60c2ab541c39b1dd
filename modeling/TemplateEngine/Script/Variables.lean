import TemplateEngine.Script.Run

set_option autoImplicit false

/-!
# Variables

A name belongs to the innermost function around it that binds it, else to the module, else it is
built in. A name that belongs to a function may still lack a value; then it is an error to read it,
and another kind of error if the function is not the innermost one.
-/
namespace TemplateEngine.Script

structure Frame where
  scope : Option Address := none

/-- The innermost variables that a name is among, going outwards, and the value it has there. -/
def findVariable (h : Heap) (n : Text) : Nat → Option Address → Option (Address × Option Value)
  | 0, _ | _, none => none
  | k + 1, some a =>
    match h.scope? a with
    | none => none
    | some s =>
      match s.bindings.find? n with
      | some v => some (a, v)
      | none => findVariable h n k s.outer

namespace Frame

def read (f : Frame) (n : Text) : Run Value := fun s =>
  match findVariable s.heap n (s.heap.objects.size + 1) f.scope with
  | some (_, some v) => .done v s
  | some (a, none) =>
    Run.raise (if f.scope = some a then .unboundLocalError else .nameError) [] s
  | none =>
    match s.globals.find? n with
    | some v => .done v s
    | none =>
      match Value.builtin? n with
      | some v => .done v s
      | none => Run.raise .nameError [] s

def readOwn (f : Frame) (n : Text) : Run Value := fun s =>
  match f.scope with
  | some _ => f.read n s
  | none =>
    match s.globals.find? n with
    | some v => .done v s
    | none => Run.raise .nameError [] s

def write (f : Frame) (n : Text) (v : Value) : Run Unit := fun s =>
  match f.scope with
  | none => .done () { s with globals := s.globals.insert n v }
  | some a =>
    match s.heap.scope? a with
    | some t => Run.put a (.scope { t with bindings := t.bindings.insert n (some v) }) s
    | none => .done () s

def forget (f : Frame) (n : Text) : Run Unit := fun s =>
  match f.scope with
  | none => .done () { s with globals := s.globals.erase n }
  | some a =>
    match s.heap.scope? a with
    | some t => Run.put a (.scope { t with bindings := t.bindings.insert n none }) s
    | none => .done () s

/-- A frame with variables of its own inside this one, with the values they start with. -/
def enter (outer : Option Address) (bindings : List (Text × Option Value)) : Run Frame := do
  let table : Table Text (Option Value) := bindings.foldl (fun t e => t.insert e.1 e.2) {}
  return ⟨some (← Run.make (.scope ⟨table, outer⟩))⟩

end Frame
end TemplateEngine.Script
