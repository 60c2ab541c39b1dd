import TemplateEngine.Script.Dictionary
import TemplateEngine.Script.Sameness
import TemplateEngine.Script.Syntax
import TemplateEngine.Table

set_option autoImplicit false

/-!
# The heap

What can change lies on the heap and is known by its address. The heap also knows how many values have
been told apart by numbers, and how many calls are under way, which leave less room for others and for
what looks into nested values.
-/
namespace TemplateEngine.Script

structure Slot where
  name : Text
  kind : ParameterKind
  default? : Option Value

structure Closure where
  name : Text
  parameters : List Slot
  body : List Stmt
  /-- The names that belong to the function. -/
  locals : List Text
  /-- The variables around the function's definition, if it stands in a function. -/
  scope : Option Address

structure Scope where
  bindings : Table Text (Option Value)
  /-- The variables of the function around it. -/
  outer : Option Address

/-- Where an iteration stands. One over a list sees what is appended to the list meanwhile; a
dictionary must keep its size. -/
inductive Cursor where
  /-- There is nothing left, whatever happens to what was gone through. -/
  | done
  | items (rest : List Value)
  | list (a : Address) (i : Nat)
  /-- Through a list from the end; so many items are left. -/
  | backwards (a : Address) (left : Nat)
  /-- Through a dictionary that had so many entries, of which so many are left, from a slot on. -/
  | dict (kind : ViewKind) (a : Address) (size left slot : Nat)
  | range (next : Int) (left : Nat) (step : Int)
  | iterator (a : Address)
  /-- What the iterator `source` yields, with numbers from `i` on in front. -/
  | numbered (i : Int) (source : Address)
  /-- What some iterators yield at the same time. -/
  | zipped (sources : List Address)

inductive Object where
  | list (items : Array Value)
  | dict (d : Dictionary)
  | iterator (c : Cursor)
  | function (f : Closure)
  | scope (s : Scope)

instance : Inhabited Object := ⟨.list #[]⟩

structure Heap where
  /-- The objects by their addresses. -/
  objects : Array Object := #[]
  /-- The first number that no value has. -/
  unused : Nat := 0
  /-- How many calls are under way. -/
  depth : Nat := 0
  deriving Inhabited

def maxCalls : Nat := 985

namespace Heap

def object? (h : Heap) (a : Address) : Option Object := h.objects[a]?

def itemArray (h : Heap) (a : Address) : Array Value :=
  match h.object? a with
  | some (.list items) => items
  | _ => #[]

def items (h : Heap) (a : Address) : List Value := (h.itemArray a).toList

def dictionary (h : Heap) (a : Address) : Dictionary :=
  match h.object? a with
  | some (.dict d) => d
  | _ => {}

def entries (h : Heap) (a : Address) : List Item := (h.dictionary a).entries

def cursor (h : Heap) (a : Address) : Cursor :=
  match h.object? a with
  | some (.iterator c) => c
  | _ => .done

def closure? (h : Heap) (a : Address) : Option Closure :=
  match h.object? a with
  | some (.function f) => some f
  | _ => none

def scope? (h : Heap) (a : Address) : Option Scope :=
  match h.object? a with
  | some (.scope s) => some s
  | _ => none

def room (h : Heap) : Nat := maxCalls - h.depth

end Heap
end TemplateEngine.Script
