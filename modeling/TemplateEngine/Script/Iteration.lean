import TemplateEngine.Number.Arithmetic
import TemplateEngine.Script.Compare

set_option autoImplicit false

/-!
# Iteration

Going through the items of a value, one after another or all at once. An iterator remembers how far it
has come, and what is taken from it is gone; another value can be gone through again.
-/
namespace TemplateEngine.Script

namespace Cursor

/-- The next item, if there is one, and where the iteration stands then. An iterator is made after
those that it draws from, so the number bounds how many stand behind each other. -/
def nextWithin : Nat → Cursor → Run (Option Value × Cursor)
  | 0, _ => Run.exhausted
  | n + 1, c => do
    match c with
    | done | items [] | backwards _ 0 | range _ 0 _ => return (none, done)
    | items (v :: vs) => return (some v, items vs)
    | list a i =>
      match ← Run.look fun h => (h.itemArray a)[i]? with
      | some v => return (some v, list a (i + 1))
      | none => return (none, done)
    | backwards a (i + 1) =>
      match ← Run.look fun h => (h.itemArray a)[i]? with
      | some v => return (some v, backwards a i)
      | none => return (none, done)
    | dict k a size left i =>
      let (now, next?) ← Run.look fun h => ((h.dictionary a).size, (h.dictionary a).next? i)
      if now ≠ size then Run.raise .runtimeError
      else match next?, left with
        | none, _ => return (none, done)
        | some _, 0 => Run.raise .runtimeError
        | some (i, e), left + 1 => return (some (k.ofEntry e), dict k a size left (i + 1))
    | range i (left + 1) step => return (some (.ofInt i), range (i + step) left step)
    | iterator a => do
      let (v, c) ← nextWithin n (← Run.look (·.cursor a))
      Run.put a (.iterator c)
      return (v, iterator a)
    | numbered i a => do
      match ← nextWithin n (iterator a) with
      | (some v, _) => return (some (.ofItems [.ofInt i, v]), numbered (i + 1) a)
      | (none, _) => return (none, numbered i a)
    | zipped [] => return (none, done)
    | zipped sources => do
      let taken ← sources.foldlM (fun vs a =>
        match vs with
        | none => return none
        | some vs => do
          let (v, _) ← nextWithin n (iterator a)
          return v.map fun v => vs ++ [v]) (some [])
      return (taken.map .ofItems, zipped sources)

def next (c : Cursor) : Run (Option Value × Cursor) := do
  match ← (fun s => nextWithin (s.heap.objects.size + 2) c s : Run (Option Value × Cursor)) with
  | (some v, c) => do return (some (← Run.settle v), c)
  | (none, c) => return (none, c)

/-- Goes through the items with a state, until there are none left or a step says that it is done. The
number bounds the steps. -/
def fold {σ : Type} (f : σ → Value → Run (ForInStep σ)) : Nat → Cursor → σ → Run σ
  | 0, _, _ => Run.exhausted
  | n + 1, c, s => do
    match ← c.next with
    | (none, _) => return s
    | (some v, c) =>
      match ← f s v with
      | .done s => return s
      | .yield s => fold f n c s

end Cursor

namespace Value

def cursor (h : Heap) : Value → Result Cursor
  | text t _ => return .items (t.map ofChar)
  | tuple items _ | frozenset items _ => return .items items
  | range start stop step _ => return .range start (rangeLength start stop step) step
  | list a => return .list a 0
  | dict a =>
    let n := (h.dictionary a).size
    return .dict .keys a n n 0
  | view k a _ =>
    let n := (h.dictionary a).size
    return .dict k a n n 0
  | iterator _ a => return .iterator a
  | _ => Result.raise .typeError

def fold {σ : Type} (v : Value) (s : σ) (f : σ → Value → Run (ForInStep σ)) : Run σ := do
  let c ← Run.withHeap v.cursor
  c.fold f maxSteps s

def iteratorOf (v : Value) : Run Address := do
  match v with
  | iterator _ a => return a
  | v => do Run.make (.iterator (← Run.withHeap v.cursor))

def firstItems (n : Nat) (v : Value) : Run (List Value) := do
  match n with
  | 0 => do
    let _ ← Run.withHeap v.cursor
    return []
  | n => do
    let vs ← v.fold [] fun vs w =>
      return if vs.length + 1 = n then .done (w :: vs) else .yield (w :: vs)
    return vs.reverse

def countRange (start stop step : Int) : Result Nat :=
  let n := rangeLength start stop step
  if maxIndex < n then Result.raise .overflowError else return n

/-- All items of a value, settled; an iterator has none left afterwards. -/
def itemsOf (v : Value) : Run (List Value) := Run.allSettled do
  match v with
  | text t _ => return t.map ofChar
  | tuple items _ | frozenset items _ => return items
  | range start stop step _ => do
    let n ← Run.ofResult (countRange start stop step)
    if maxItems < n then Run.raise .memoryError
    else return (rangeIntegers start stop step).map ofInt
  | list a => Run.look (·.items a)
  | dict a => Run.look fun h => (h.dictionary a).keys
  | view k a _ => Run.look fun h => (h.entries a).map k.ofEntry
  | v => do return (← v.fold [] fun vs w => return .yield (w :: vs)).reverse

def length (h : Heap) : Value → Result Nat
  | text t _ => return t.length
  | tuple items _ | frozenset items _ => return items.length
  | range start stop step _ => countRange start stop step
  | list a => return (h.itemArray a).size
  | dict a | view _ a _ => return (h.dictionary a).size
  | _ => Result.raise .typeError

def wholeNumber? (v : Value) : Option Int :=
  match v.number? with
  | some (.int i) => some i
  | some (.float f) => f.whole?
  | _ => Option.none

def memberOf (v container : Value) : Run Bool := do
  match container, v with
  | text t _, text m _ => return m = [] || Text.occursIn m t
  | text _ _, _ => Run.raise .typeError
  | dict a, v | view .keys a _, v => Run.withHeap fun h => do
    checkKey v
    return (← (h.dictionary a).find? h v).isSome
  | view .items a _, tuple [k, w] _ => Run.withHeap fun h => do
    checkKey k
    match ← (h.dictionary a).value? h k with
    | some u => isItem h u w
    | Option.none => return false
  | view .items _ _, _ => return false
  | frozenset items _, v => Run.withHeap fun h => do
    checkKey v
    occurs h v (items.filter fun w => w.code = v.code)
  | range start stop step _, v => return v.wholeNumber?.any (inRange start stop step)
  | tuple items _, v => Run.withHeap fun h => occurs h v items
  | list a, v => Run.withHeap fun h => occurs h v (h.items a)
  | c, v =>
    c.fold false fun _ w => do
      if ← Run.withHeap fun h => isItem h w v then return .done true else return .yield false

end Value
end TemplateEngine.Script
