import Std.Data.TreeMap
import TemplateEngine.Script.KeyCode

set_option autoImplicit false

/-!
# Dictionaries

A dictionary has its entries in slots, in the order in which their keys came, and finds the slots of a
key by the key's code. An entry that is taken out leaves its slot empty, so the others keep theirs.
Whether two keys are equal is decided elsewhere.
-/
namespace TemplateEngine.Script

abbrev Item := Value × Value

structure Dictionary where
  slots : Array (Option Item) := #[]
  /-- The number of entries. -/
  size : Nat := 0
  /-- The slots of the keys with a code. -/
  places : Std.TreeMap Nat (List Nat) := {}

namespace Dictionary

instance : Inhabited Dictionary := ⟨{}⟩

def entries (d : Dictionary) : List Item := d.slots.toList.filterMap id

def keys (d : Dictionary) : List Value := d.entries.map Prod.fst

def entry? (d : Dictionary) (i : Nat) : Option Item := d.slots[i]?.join

def candidates (d : Dictionary) (code : Nat) : List (Nat × Item) :=
  (d.places[code]?.getD []).filterMap fun i => (d.entry? i).map fun e => (i, e)

def push (d : Dictionary) (e : Item) : Dictionary :=
  let i := d.slots.size
  { slots := d.slots.push (some e)
    size := d.size + 1
    places := d.places.alter e.1.code fun is => some (is.getD [] ++ [i]) }

def ofEntries (es : List Item) : Dictionary := es.foldl push {}

/-- The dictionary without the empty slots, if they are most of them. -/
def compact (d : Dictionary) : Dictionary :=
  if d.slots.size < 2 * d.size + 16 then d else ofEntries d.entries

def setValue (d : Dictionary) (i : Nat) (v : Value) : Dictionary :=
  { d with slots := d.slots.modify i fun e => e.map fun e => (e.1, v) }

def erase (d : Dictionary) (i : Nat) : Dictionary :=
  match d.entry? i with
  | none => d
  | some e =>
    { slots := d.slots.setIfInBounds i none
      size := d.size - 1
      places := d.places.alter e.1.code fun is =>
        match (is.getD []).erase i with
        | [] => none
        | is => some is }

/-- The first entry in a slot from `i` on, with its slot. The number bounds the steps. -/
def entryFrom (d : Dictionary) : Nat → (i : Nat) → Option (Nat × Item)
  | 0, _ => none
  | n + 1, i =>
    match d.slots[i]? with
    | none => none
    | some none => entryFrom d n (i + 1)
    | some (some e) => some (i, e)

def next? (d : Dictionary) (i : Nat) : Option (Nat × Item) := d.entryFrom (d.slots.size + 1 - i) i

end Dictionary
end TemplateEngine.Script
