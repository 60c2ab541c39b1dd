import TemplateEngine.Script.Iteration

set_option autoImplicit false

/-!
# Items and slices

Getting at single items and slices of a value, changing them and taking them out. A negative index
counts from the end.
-/
namespace TemplateEngine.Script

namespace Value

def place (size : Nat) (i : Int) : Result Nat :=
  let j := if i < 0 then i + size else i
  if 0 ≤ j && j < size then return j.toNat else Result.raise .indexError

def sliceEnd : Value → Result (Option Int)
  | none => return Option.none
  | v =>
    match v.integer? with
    | some i => return some i
    | Option.none => Result.raise .typeError

def clampEnd (size : Nat) (low high : Int) (i : Int) : Int :=
  let j := if i < 0 then i + size else i
  if j < low then low else if high < j then high else j

def sliceRange (size : Nat) (start stop step : Value) : Result (Int × Int × Int) := do
  let c := (← sliceEnd step).getD 1
  if c = 0 then Result.raise .valueError
  let a ← sliceEnd start
  let b ← sliceEnd stop
  let n : Int := size
  if 0 < c then
    return ((a.map (clampEnd size 0 n)).getD 0, (b.map (clampEnd size 0 n)).getD n, c)
  else
    return ((a.map (clampEnd size (-1) (n - 1))).getD (n - 1),
      (b.map (clampEnd size (-1) (n - 1))).getD (-1), c)

def sliced {α : Type} (items : List α) (start stop step : Value) : Result (List α) := do
  let (a, b, c) ← sliceRange items.length start stop step
  let all := items.toArray
  return (rangeIntegers a b c).filterMap fun i => all[i.toNat]?

def takesAll (size : Nat) (start stop step : Value) : Result Bool := do
  return (← sliceRange size start stop step) = (0, (size : Int), 1)

/-- A slice of a text. One that takes all of it is the text itself. -/
def slicedText (v : Value) (t : Str) (start stop step : Value) : Result Value := do
  if ← takesAll t.length start stop step then return v
  else
    let u ← sliced t start stop step
    let (_, _, c) ← sliceRange t.length start stop step
    return if c = 1 then ofText u else ofNewText u

def slicedItems (v : Value) (items : List Value) (start stop step : Value) : Result Value := do
  if ← takesAll items.length start stop step then return v
  else return ofItems (← sliced items start stop step)

def itemAt (size : Nat) (item? : Nat → Option Value) (index : Value) : Result Value := do
  match index.integer? with
  | some i =>
    match item? (← place size i) with
    | some v => return v
    | Option.none => Result.raise .indexError
  | Option.none => Result.raise .typeError

def getItem (v index : Value) : Run Value := do
  match v, index with
  | list a, slice x y z _ => do Run.makeList (← Run.withHeap fun h => sliced (h.items a) x y z)
  | tuple items _, slice x y z _ => Run.ofResult (slicedItems v items x y z)
  | text t _, slice x y z _ => Run.ofResult (slicedText v t x y z)
  | range a b c _, slice x y z _ => do
    let (i, j, k) ← Run.ofResult (sliceRange (rangeLength a b c) x y z)
    return range (a + c * i) (a + c * j) (c * k) .fresh
  | list a, i => do
    let items ← Run.look (·.itemArray a)
    Run.ofResult (itemAt items.size (items[·]?) i)
  | tuple items _, i => Run.ofResult (itemAt items.length (items[·]?) i)
  | text t _, i => Run.ofResult (itemAt t.length (fun n => t[n]?.map ofChar) i)
  | range a b c _, i =>
    Run.ofResult (itemAt (rangeLength a b c) (fun n => some (ofInt (a + c * n))) i)
  | dict a, key => Run.withHeap fun h => do
    checkKey key
    match ← (h.dictionary a).value? h key with
    | some v => return v
    | Option.none => Result.raise .keyError [key]
  | _, _ => Run.raise .typeError

def slicePlaces (size : Nat) (start stop step : Value) : Result (List Nat) := do
  let (a, b, c) ← sliceRange size start stop step
  return (rangeIntegers a b c).map Int.toNat

/-- Items with others in the place of those that a slice takes. One with steps takes the place of as
many. -/
def withSlice (items more : List Value) (start stop step : Value) : Result (List Value) := do
  let (a, b, c) ← sliceRange items.length start stop step
  if c = 1 then
    let i := a.toNat
    return items.take i ++ more ++ items.drop (max i b.toNat)
  else
    let places ← slicePlaces items.length start stop step
    if places.length ≠ more.length then Result.raise .valueError
    else return (places.zip more).foldl (fun vs e => vs.set e.1 e.2) items

/-- Why an item of a value that cannot change may not be changed or taken away. -/
def fixedFault (v index : Value) : ExceptionClass :=
  match v, index.integer? with
  | text _ _, some i | tuple _ _, some i | range _ _ _ _, some i | view _ _ _, some i =>
    if (maxIndex : Int) < i || i < -(maxIndex : Int) - 1 then .indexError else .typeError
  | _, _ => .typeError

def setItem (v index new : Value) : Run Unit := do
  match v, index with
  | list a, slice x y z _ => do
    let _ ← Run.withHeap fun h => sliceRange (h.itemArray a).size x y z
    let more ← new.itemsOf
    Run.putItems a (← Run.withHeap fun h => withSlice (h.items a) more x y z)
  | list a, i =>
    match i.integer? with
    | some i => do
      let n ← Run.withHeap fun h => place (h.itemArray a).size i
      Run.changeItems a (·.setIfInBounds n new)
    | Option.none => Run.raise .typeError
  | dict a, key => do
    let found ← Run.withHeap fun h => do
      checkKey key
      (h.dictionary a).find? h key
    Run.changeDict a fun d =>
      match found with
      | some (i, _) => d.setValue i new
      | Option.none => d.compact.push (key, new)
  | v, i => Run.raise (v.fixedFault i)

def without (items : List Value) (places : List Nat) : List Value :=
  (items.zipIdx.filter fun e => !places.contains e.2).map Prod.fst

def deleteItem (v index : Value) : Run Unit := do
  match v, index with
  | list a, slice x y z _ => do
    Run.putItems a (← Run.withHeap fun h => do
      let items := h.items a
      return without items (← slicePlaces items.length x y z))
  | list a, i =>
    match i.integer? with
    | some i => do
      let n ← Run.withHeap fun h => place (h.itemArray a).size i
      Run.changeItems a (·.eraseIdxIfInBounds n)
    | Option.none => Run.raise .typeError
  | dict a, key => do
    let found ← Run.withHeap fun h => do
      checkKey key
      (h.dictionary a).find? h key
    match found with
    | some (i, _) => Run.changeDict a (·.erase i)
    | Option.none => Run.raise .keyError [key]
  | v, i => Run.raise (v.fixedFault i)

end Value
end TemplateEngine.Script
