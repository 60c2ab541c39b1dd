import TemplateEngine.Script.TextMethod

set_option autoImplicit false

namespace TemplateEngine.Script

namespace ListMethod

open Value hiding none

def position (h : Heap) (v : Value) : List Value → Result (Option Nat)
  | [] => return none
  | w :: ws => do
    if ← isItem h w v then return some 0 else return (← position h v ws).map (· + 1)

def countOf (h : Heap) (v : Value) (vs : List Value) : Result Nat :=
  vs.foldlM (fun n w => do if ← isItem h w v then return n + 1 else return n) 0

def indexOf (h : Heap) (items : List Value) (v : Value) (start stop : Option Value) :
    Result Value := do
  let place (v : Value) : Result Nat := do
    return (clampEnd items.length 0 items.length (← needInt v)).toNat
  let i ← place (start.getD (ofInt 0))
  let j ← place (stop.getD (ofNat items.length))
  match ← position h v ((items.take j).drop i) with
  | some n => return ofNat (i + n)
  | none => Result.raise .valueError

def callReading (items : List Value) (m : Method) (a : Arguments) : Run Value := do
  match m with
  | .index => do
    match ← Run.ofResult (a.take 1 ["", "", ""]) with
    | [some v, start, stop] => Run.withHeap fun h => indexOf h items v start stop
    | _ => Run.raise .typeError
  | .count => do
    let v ← Run.ofResult a.one
    return ofNat (← Run.withHeap fun h => countOf h v items)
  | _ => Run.raise .attributeError

/-- Calls a method of a list that does not only add items at its end. -/
def callOn (l : Address) (m : Method) (a : Arguments) : Run Value := do
  let items ← Run.look (·.items l)
  match m with
  | .insert => do
    match ← Run.ofResult a.plain with
    | [i, v] => do
      let n := (clampEnd items.length 0 items.length (← Run.ofResult (needIndex i))).toNat
      Run.putItems l (items.take n ++ v :: items.drop n)
      return .none
    | _ => Run.raise .typeError
  | .remove => do
    let v ← Run.ofResult a.one
    match ← Run.withHeap fun h => position h v items with
    | some i => do
      Run.putItems l (items.eraseIdx i)
      return .none
    | none => Run.raise .valueError
  | .reverse => do
    Run.ofResult a.nothing
    Run.putItems l items.reverse
    return .none
  | .clear => do
    Run.ofResult a.nothing
    Run.putItems l []
    return .none
  | .copy => do
    Run.ofResult a.nothing
    Run.makeList items
  | m => callReading items m a

def takeOut (l : Address) (i : Int) : Run Value := do
  let v ← Run.withHeap fun h => do
    let items := h.itemArray l
    return (items[← place items.size i]?).getD .none
  Run.changeItems l fun items => items.eraseIdxIfInBounds (if i < 0 then i + items.size else i).toNat
  return v

def call (l : Address) (m : Method) (a : Arguments) : Run Value := do
  match m with
  | .append => do
    let v ← Run.ofResult a.one
    Run.changeItems l (·.push v)
    return .none
  | .extend => do
    let more ← (← Run.ofResult a.one).itemsOf
    Run.changeItems l (· ++ more.toArray)
    return .none
  | .pop => do
    match ← Run.ofResult a.plain with
    | [] => takeOut l (-1)
    | [i] => do takeOut l (← Run.ofResult (needIndex i))
    | _ => Run.raise .typeError
  | m => callOn l m a

end ListMethod

namespace DictMethod

open Value hiding none

def call (d : Address) (m : Method) (a : Arguments) : Run Value := do
  match m with
  | .get => do
    match ← Run.ofResult (a.take 1 ["", ""]) with
    | [some k, default?] => Run.withHeap fun h => do
      checkKey k
      return ((← (h.dictionary d).value? h k).or default?).getD .none
    | _ => Run.raise .typeError
  | .keys => do
    Run.ofResult a.nothing
    return view .keys d .fresh
  | .values => do
    Run.ofResult a.nothing
    return view .values d .fresh
  | .items => do
    Run.ofResult a.nothing
    return view .items d .fresh
  | .setDefault => do
    match ← Run.ofResult (a.take 1 ["", ""]) with
    | [some k, default?] => do
      Run.ofResult (checkKey k)
      match ← Run.withHeap fun h => (h.dictionary d).value? h k with
      | some v => return v
      | none => do
        let v := default?.getD .none
        Run.changeDict d (·.compact.push (k, v))
        return v
    | _ => Run.raise .typeError
  | .update => do
    let more ← match a.positional with
      | [] => pure []
      | [v] => v.entriesOf
      | _ => Run.raise .typeError
    Run.putDict d
      (← Run.withHeap fun h => (h.dictionary d).insertAll h (more ++ a.namedItems))
    return .none
  | .pop => do
    match ← Run.ofResult (a.take 1 ["", ""]) with
    | [some k, default?] => do
      let found ← Run.withHeap fun h => do
        if (h.dictionary d).size = 0 then return none
        checkKey k
        (h.dictionary d).find? h k
      match found, default? with
      | some (i, e), _ => do
        Run.changeDict d (·.erase i)
        return e.2
      | Option.none, some v => return v
      | Option.none, Option.none => Run.raise .keyError [k]
    | _ => Run.raise .typeError
  | .clear => do
    Run.ofResult a.nothing
    Run.putDict d {}
    return .none
  | .copy => do
    Run.ofResult a.nothing
    Run.makeDict (← Run.look (·.dictionary d))
  | _ => Run.raise .attributeError

end DictMethod

namespace Value

def commonItems (h : Heap) (xs ys : List Value) : Result (List Value) := do
  ys.forM checkKey
  let known := Dictionary.ofEntries (xs.map fun x => (x, none))
  Dictionary.distinctKeys h (← ys.filterM fun y => do return (← known.find? h y).isSome)

/-- Calls a method of a frozen set, which is its own copy. -/
def callFrozenset (items : List Value) (id : Identity) (m : Method) (a : Arguments) :
    Run Value := do
  match m with
  | .intersection => do
    let others ← (← Run.ofResult a.plain).mapM itemsOf
    return frozenset (← Run.withHeap fun h => others.foldlM (commonItems h) items) .fresh
  | .copy => do
    Run.ofResult a.nothing
    return frozenset items id
  | _ => Run.raise .attributeError

def callRange (start stop step : Int) (m : Method) (a : Arguments) : Result Value := do
  let v ← a.one
  match m, v.wholeNumber?.filter (inRange start stop step) with
  | .index, some i => return ofInt ((i - start).fdiv step)
  | .index, Option.none => Result.raise .valueError
  | .count, i => return ofNat (if i.isSome then 1 else 0)
  | _, _ => Result.raise .attributeError

def callPlain (v : Value) (m : Method) : Result Value :=
  match m, v with
  | .bitLength, v =>
    match v.integer? with
    | some 0 => return ofNat 0
    | some i => return ofNat (i.natAbs.log2 + 1)
    | Option.none => Result.raise .attributeError
  | .isWhole, float f _ => return bool f.whole?.isSome
  | .standardText, date d _ => return ofNewText d.text
  | .standardText, moment m _ => return ofNewText m.standardText
  | _, _ => Result.raise .attributeError

def callMethod (v : Value) (m : Method) (a : Arguments) : Run Value :=
  match v with
  | text t id => TextMethod.call t id m a
  | list l => ListMethod.call l m a
  | dict d => DictMethod.call d m a
  | tuple items _ => ListMethod.callReading items m a
  | range x y z _ => Run.ofResult (callRange x y z m a)
  | frozenset items id => callFrozenset items id m a
  | v => Run.ofResult do
    a.nothing
    callPlain v m

end Value
end TemplateEngine.Script
