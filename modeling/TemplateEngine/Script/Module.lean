import TemplateEngine.Generated
import TemplateEngine.Script.Evaluate
import TemplateEngine.Script.Program

set_option autoImplicit false

/-!
# Modules

A module is a program that has run: what it has left in its variables and on the heap. Calling a
function of a module starts from there, and what the call leaves is the module from then on.
-/
namespace TemplateEngine.Script

structure Module where
  state : State

inductive LoadFault where
  | program (f : ProgramFault)
  /-- Running it raised an exception, which left the module as it is then. -/
  | raised (e : Raised) (m : Module)
  | endless

/-- The module that code leaves behind when it asks for the end of the program. -/
def LoadFault.abandoned? : LoadFault → Option Module
  | .raised e m => if e.cls.isA .exception then none else some m
  | _ => none

abbrev Labels := Table Nat Value

def Value.become (v w : Value) : Run Unit := do
  match v, w with
  | .list a, .list b => do Run.put a (.list (← Run.look (·.itemArray b)))
  | .dict a, .dict b => do Run.put a (.dict (← Run.look (·.dictionary b)))
  | _, _ => return ()

/-- A list without items or a dictionary without entries, if it is made from such data. -/
def Value.emptyOf : Data → Run Value
  | .list _ => Run.makeList []
  | .dict _ => Run.makeDict {}
  | _ => return .none

/-- A value as a key of data: equal texts are the same key. -/
def Value.asKey : Value → Value
  | .text t _ => .text t (.ofKey t)
  | v => v

mutual

def Value.ofDataWith (known : Labels) : Data → Run (Value × Labels)
  | .null => return (.none, known)
  | .bool b => return (.bool b, known)
  | .int i => do return (← Run.settle (.ofInt i), known)
  | .float f => do return (← Run.settle (.ofFloat f), known)
  | .text t => do return (← Run.settle (.ofText t), known)
  | .date d => do return (← Run.settle (.date d .fresh), known)
  | .moment m => do return (← Run.settle (.moment m .fresh), known)
  | .list ds => do
    let (vs, known) ← Value.ofAllDataWith known ds
    return (← Run.makeList vs, known)
  | .dict es => do
    let (es, known) ← Value.ofEntryDataWith known es
    return (← Run.makeDict (.ofEntries es), known)
  | .inside l _ => return ((known.find? l).getD .none, known)
  | .shared l d =>
    match known.find? l with
    | some v => return (v, known)
    | Option.none => do
      let v ← Value.emptyOf d
      let (w, known) ← Value.ofDataWith (known.insert l v) d
      v.become w
      return (v, known)

def Value.ofAllDataWith (known : Labels) : List Data → Run (List Value × Labels)
  | [] => return ([], known)
  | d :: ds => do
    let (v, known) ← Value.ofDataWith known d
    let (vs, known) ← Value.ofAllDataWith known ds
    return (v :: vs, known)

def Value.ofEntryDataWith (known : Labels) :
    List (Data × Data) → Run (List (Value × Value) × Labels)
  | [] => return ([], known)
  | (k, d) :: es => do
    let (x, known) ← Value.ofDataWith known k
    let (v, known) ← Value.ofDataWith known d
    let (es, known) ← Value.ofEntryDataWith known es
    return ((x.asKey, v) :: es, known)

end

def Value.ofAllData (ds : List Data) : Run (List Value) := do
  return (← Value.ofAllDataWith {} ds).1

namespace Module

/-- Runs a program whose calls go at most so deep; some variables have values at the start. -/
def loadWithin (depth : Nat) (globals : Table Text Value) (t : Text) : Except LoadFault Module :=
  match Program.ofText t with
  | .error f => .error (.program f)
  | .ok ss =>
    match runAll depth {} ss { globals := globals } with
    | .done _ s => .ok ⟨s⟩
    | .raised e s => .error (.raised e ⟨s⟩)
    | .exhausted => .error .endless

def load (globals : Table Text Value) (t : Text) : Except LoadFault Module :=
  loadWithin maxSteps globals t

def function? (m : Module) (n : Text) : Option Value :=
  match m.state.globals.find? n with
  | some v => if v.callable then some v else none
  | none => none

def callWithin (depth : Nat) (m : Module) (f : Value) (arguments : List Data) : Outcome Value :=
  (do
    let vs ← Value.ofAllData arguments
    apply depth f { positional := vs } : Run Value) m.state

def call (m : Module) (f : Value) (arguments : List Data) : Outcome Value :=
  callWithin maxSteps m f arguments

end Module
end TemplateEngine.Script
