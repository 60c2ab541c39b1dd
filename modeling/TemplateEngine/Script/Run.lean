import TemplateEngine.Script.Heap

set_option autoImplicit false

/-!
# Running

A run takes the heap and the variables of a module from one state to the next. It ends with a value,
with an exception, or without either when the bound on its steps is used up. What goes to a variable
or into an object is settled, so that it stays the same one there.
-/
namespace TemplateEngine.Script

structure Raised where
  cls : ExceptionClass
  arguments : List Value := []
  id : Identity := .fresh

def Raised.unwritable (s : Str) : Raised where
  cls := .unicodeEncodeError
  arguments := [.ofLiteral "utf-8".toList, .ofText s, .ofNat s.gap.1, .ofNat s.gap.2,
    .ofLiteral "surrogates not allowed".toList]

structure State where
  heap : Heap := {}
  /-- The variables of the module. -/
  globals : Table Text Value := {}
  /-- The exception that is being handled. -/
  handled : Option Raised := none
  /-- What has been printed. -/
  printed : Text := []
  deriving Inhabited

inductive Outcome (α : Type) where
  | done (a : α) (s : State)
  | raised (e : Raised) (s : State)
  | exhausted

def Run (α : Type) := State → Outcome α

abbrev Result (α : Type) := Except Raised α

namespace State

def withDepth (s : State) (n : Nat) : State := { s with heap := { s.heap with depth := n } }

end State

namespace Run

variable {α β : Type}

def pure (a : α) : Run α := fun s => .done a s

def bind (x : Run α) (f : α → Run β) : Run β := fun s =>
  match x s with
  | .done a s => f a s
  | .raised e s => .raised e s
  | .exhausted => .exhausted

instance : Monad Run where
  pure := pure
  bind := bind

instance : Inhabited (Run α) := ⟨fun _ => .exhausted⟩

def exhausted : Run α := fun _ => .exhausted

def raise (c : ExceptionClass) (arguments : List Value := []) : Run α :=
  fun s => .raised { cls := c, arguments } s

def ofResult : Result α → Run α
  | .ok a => pure a
  | .error e => fun s => .raised e s

def look (f : Heap → α) : Run α := fun s => .done (f s.heap) s

def withHeap (f : Heap → Result α) : Run α := fun s => ofResult (f s.heap) s

def deeper (x : Run α) : Run α := fun s =>
  let n := s.heap.depth
  if n < maxCalls then
    match x (s.withDepth (n + 1)) with
    | .done a t => .done a (t.withDepth n)
    | .raised e t => .raised e (t.withDepth n)
    | .exhausted => .exhausted
  else .raised { cls := .recursionError } s

def settle (v : Value) : Run Value := fun s =>
  if v.isSettled then .done v s
  else
    let (v, n) := v.settle s.heap.unused
    .done v { s with heap := { s.heap with unused := n } }

def settleAll (vs : List Value) : Run (List Value) := fun s =>
  if vs.all Value.isSettled then .done vs s
  else
    let (vs, n) := Value.settleAll s.heap.unused [] vs
    .done vs { s with heap := { s.heap with unused := n } }

def settled (x : Run Value) : Run Value := bind x settle

def allSettled (x : Run (List Value)) : Run (List Value) := bind x settleAll

def make (o : Object) : Run Address := fun s =>
  .done s.heap.objects.size { s with heap := { s.heap with objects := s.heap.objects.push o } }

def put (a : Address) (o : Object) : Run Unit := fun s =>
  .done () { s with heap := { s.heap with objects := s.heap.objects.setIfInBounds a o } }

def change (a : Address) (f : Object → Object) : Run Unit := fun s =>
  .done () { s with heap := { s.heap with objects := s.heap.objects.modify a f } }

def print (t : Str) : Run Unit := fun s =>
  match t.text? with
  | some t => .done () { s with printed := s.printed ++ t }
  | none => .raised (.unwritable t) s

def makeList (items : List Value) : Run Value := do
  let items ← settleAll items
  return .list (← make (.list items.toArray))

def putItems (a : Address) (items : List Value) : Run Unit := do
  let items ← settleAll items
  put a (.list items.toArray)

def changeItems (a : Address) (f : Array Value → Array Value) : Run Unit :=
  change a fun
    | .list items => .list (f items)
    | o => o

def makeDict (d : Dictionary) : Run Value := do
  return .dict (← make (.dict d))

def putDict (a : Address) (d : Dictionary) : Run Unit := put a (.dict d)

def changeDict (a : Address) (f : Dictionary → Dictionary) : Run Unit :=
  change a fun
    | .dict d => .dict (f d)
    | o => o

def makeIterator (t : TypeName) (c : Cursor) : Run Value := do
  return .iterator t (← make (.iterator c))

end Run

namespace Result

variable {α : Type}

def raise (c : ExceptionClass) (arguments : List Value := []) : Result α :=
  .error { cls := c, arguments }

end Result

/-- How many steps a loop may take, and how deep the calls of a run may go. -/
def maxSteps : Nat := tenTo 15

def maxIndex : Nat := twoTo 63 - 1

def maxItems : Nat := twoTo 33

end TemplateEngine.Script
