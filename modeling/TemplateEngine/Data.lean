import TemplateEngine.Calendar
import TemplateEngine.Number.Binary64
import TemplateEngine.Text.Basic

set_option autoImplicit false

/-!
# Plain data

What a configuration, a context or a document holds before anything is made of it. A mapping keeps
its entries in the order in which their keys first came.
-/
namespace TemplateEngine

inductive Data where
  | null
  | bool (b : Bool)
  | int (i : Int)
  | float (f : Binary64)
  | text (t : Str)
  | date (d : Date)
  | moment (m : Moment)
  | list (items : List Data)
  | dict (entries : List (Data × Data))
  /-- A list or mapping that may stand in several places; it is the same one wherever its label is. -/
  | shared (label : Nat) (d : Data)
  /-- The list, or else the mapping, with a label, where it stands inside itself. -/
  | inside (label : Nat) (isList : Bool)
  deriving Repr, Inhabited

namespace Data

/-- The key that equals a number, if the data is a number or a truth value. -/
def number? : Data → Option Binary64
  | bool b => some (Binary64.ofInt (if b then 1 else 0))
  | int i => some (Binary64.ofInt i)
  | float f => some f
  | _ => none

def integer? : Data → Option Int
  | bool b => some (if b then 1 else 0)
  | int i => some i
  | _ => none

def sameKey (a b : Data) : Bool :=
  match a, b with
  | null, null => true
  | text s, text t => s = t
  | date d, date e => d = e
  | moment m, moment n => m.order? n = some .eq
  | _, _ =>
    match a.integer?, b.integer? with
    | some i, some j => i = j
    | _, _ =>
      match a.number?, b.number? with
      | some x, some y => x.compare? y = some .eq || (x = .nan && y = .nan)
      | _, _ => false

def find? (key : Data) (entries : List (Data × Data)) : Option Data :=
  (entries.find? fun e => sameKey e.1 key).map Prod.snd

def insert (key value : Data) : List (Data × Data) → List (Data × Data)
  | [] => [(key, value)]
  | e :: es => if sameKey e.1 key then (e.1, value) :: es else e :: insert key value es

def field? (name : String) : Data → Option Data
  | dict es => find? (.text name.toList) es
  | _ => none

def truthy : Data → Bool
  | null => false
  | bool b => b
  | int i => i ≠ 0
  | float f => !f.isZero
  | text t => t ≠ []
  | date _ | moment _ => true
  | list xs => !xs.isEmpty
  | dict es => !es.isEmpty
  | shared _ d => d.truthy
  | inside _ _ => true

mutual

/-- Data with `whole` in the places where the collection with a label stands inside itself. -/
def close (label : Nat) (whole : Data) : Data → Data
  | inside l b => if l = label then whole else inside l b
  | shared l d => if l = label then shared l d else shared l (close label whole d)
  | list xs => list (closeAll label whole xs)
  | dict es => dict (closeEntries label whole es)
  | d => d

def closeAll (label : Nat) (whole : Data) : List Data → List Data
  | [] => []
  | x :: xs => close label whole x :: closeAll label whole xs

def closeEntries (label : Nat) (whole : Data) : List (Data × Data) → List (Data × Data)
  | [] => []
  | (k, v) :: es => (k, close label whole v) :: closeEntries label whole es

end

/-- The list or mapping that shared data is; whole copies of it are in it where it stands inside
itself. -/
def unfold : Data → Data
  | shared l d => close l (shared l d) d
  | d => d

end Data
end TemplateEngine
