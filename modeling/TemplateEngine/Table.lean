set_option autoImplicit false

/-!
# Tables

A table maps keys to values and lists its entries in the order in which the keys were first entered.
The lemmas say what each operation does to the value of every key.
-/
namespace TemplateEngine

structure Table (α β : Type) where
  entries : List (α × β) := []
  deriving DecidableEq, Repr, Inhabited

namespace Table

variable {α β : Type} [DecidableEq α]

def lookup (k : α) : List (α × β) → Option β
  | [] => none
  | e :: es => if e.1 = k then some e.2 else lookup k es

/-- The entries with a new value for a key, which comes last if it is new. -/
def put (k : α) (v : β) : List (α × β) → List (α × β)
  | [] => [(k, v)]
  | e :: es => if e.1 = k then (k, v) :: es else e :: put k v es

def without (k : α) : List (α × β) → List (α × β)
  | [] => []
  | e :: es => if e.1 = k then without k es else e :: without k es

def keys (t : Table α β) : List α := t.entries.map Prod.fst

def find? (t : Table α β) (k : α) : Option β := lookup k t.entries

def contains (t : Table α β) (k : α) : Bool := (t.find? k).isSome

def insert (t : Table α β) (k : α) (v : β) : Table α β := ⟨put k v t.entries⟩

def erase (t : Table α β) (k : α) : Table α β := ⟨without k t.entries⟩

theorem lookup_put (k l : α) (v : β) (es : List (α × β)) :
    lookup l (put k v es) = if k = l then some v else lookup l es := by
  induction es with
  | nil => simp [put, lookup]
  | cons e es ih => grind [put, lookup]

theorem lookup_without (k l : α) (es : List (α × β)) :
    lookup l (without k es) = if k = l then none else lookup l es := by
  induction es with
  | nil => simp [without, lookup]
  | cons e es ih => grind [without, lookup]

theorem find?_insert (t : Table α β) (k l : α) (v : β) :
    (t.insert k v).find? l = if k = l then some v else t.find? l := lookup_put k l v t.entries

theorem find?_erase (t : Table α β) (k l : α) :
    (t.erase k).find? l = if k = l then none else t.find? l := lookup_without k l t.entries

end Table
end TemplateEngine
