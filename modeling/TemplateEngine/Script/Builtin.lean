import TemplateEngine.Script.Format
import TemplateEngine.Script.Method

set_option autoImplicit false

/-!
# Built-in functions

What the functions that every program has make of their arguments. They are those of `Builtin.table`, the
types of `TypeName.known` and the classes of exceptions. The language has more of them; a program that uses
one of these is told that the name is unknown. So no program opens a file, reads input, loads a module or
runs a text as code. What is printed has to be a text.
-/
namespace TemplateEngine.Script

namespace Value

/-- A binary operator. A remainder of a text fills in its directives, and two dictionaries can be put
together. -/
def operate (op : BinaryOp) (v w : Value) : Run Value :=
  match op, v, w with
  | .modulo, text t a, w => formatText t a w
  | .bitOr, dict a, dict b => do
    Run.makeDict (← Run.withHeap fun h => (h.dictionary a).insertAll h (h.entries b))
  | op, v, w => binary op v w

def operateInPlace (op : BinaryOp) (v w : Value) : Run Value := do
  match op, v, w.integer? with
  | .add, list a, _ => do
    let more ← w.itemsOf
    Run.changeItems a (· ++ more.toArray)
    return v
  | .multiply, list a, some i => do
    Run.putItems a (← Run.withHeap fun h => repeated .memoryError (h.items a) i)
    return v
  | .bitOr, dict a, _ => do
    let more ← w.entriesOf
    Run.putDict a (← Run.withHeap fun h => (h.dictionary a).insertAll h more)
    return v
  | op, v, _ => operate op v w

def charTableKey : Value → Result Value
  | text [c] _ => return ofNat c.toNat
  | text _ _ => Result.raise .valueError
  | int i a => return int i a
  | bool b => return bool b
  | _ => Result.raise .typeError

/-- The entries that pair the characters of two texts, and those that drop the characters of a third. -/
def pairCharacters (s t dropped : Str) : List Item :=
  (s.zip t).map (fun p => (ofNat p.1.toNat, ofNat p.2.toNat))
    ++ dropped.map fun c => (ofNat c.toNat, none)

def makeTable (es : List Item) : Run Value := do
  let keys ← Run.settleAll (es.map Prod.fst)
  let values ← Run.settleAll (es.map Prod.snd)
  Run.makeDict (← Run.withHeap fun h => Dictionary.insertAll h {} (keys.zip values))

def makeCharTable (vs : List Value) : Run Value := do
  match vs with
  | [dict a] => do
    makeTable (← Run.withHeap fun h => (h.entries a).mapM fun e => do
      return (← charTableKey e.1, e.2))
  | [text s _, text t _] =>
    if s.length = t.length then makeTable (pairCharacters s t [])
    else Run.raise .valueError
  | [text s _, text t _, text u _] =>
    if s.length = t.length then makeTable (pairCharacters s t u)
    else Run.raise .valueError
  | _ => Run.raise .typeError

end Value

namespace Builtin

open Value hiding none

def extreme (h : Heap) (op : Order) : List (Value × Value) → Result (Option Value)
  | [] => return none
  | e :: es => do
    let best ← es.foldlM (fun best e => do
      if ← ordered h op e.1 best.1 then return e else return best) e
    return some best.2

def sumOf (v start : Value) : Run Value :=
  v.fold start fun total w => do return .yield (← total.operate .add w)

/-- Whether an item of a value is taken for what is looked for, which ends the search. -/
def anyIs (wanted : Bool) (v : Value) : Run Bool :=
  v.fold false fun _ w => do
    return if (← Run.look w.truthy) = wanted then .done true else .yield false

def textOption (v : Option Value) (standard : String) : Result Str :=
  match v with
  | none | some Value.none => return standard.toList
  | some v => v.needText

def printEach (sep : Str) : List Value → Run Unit
  | [] => return ()
  | [v] => do Run.print (← Run.withHeap v.toText)
  | v :: vs => do
    Run.print (← Run.withHeap v.toText)
    Run.print sep
    printEach sep vs

def printAll (a : Arguments) : Run Unit := do
  let (sep, a) := a.splitNamed "sep"
  let (stop, a) := a.splitNamed "end"
  let (file, a) := a.splitNamed "file"
  let (_, a) := a.splitNamed "flush"
  let vs ← Run.ofResult a.plain
  match file.getD Value.none with
  | Value.none => do
    let sep ← Run.ofResult (textOption sep " ")
    let stop ← Run.ofResult (textOption stop "\n")
    printEach sep vs
    Run.print stop
  | _ => Run.raise .attributeError

/-- Calls a function. Those that may call others are elsewhere. -/
def call (b : Builtin) (a : Arguments) : Run Value := do
  let one := Run.ofResult a.one
  match b with
  | .len => do
    let v ← one
    return .ofNat (← Run.withHeap v.length)
  | .sum => do
    match ← Run.ofResult (a.take 1 ["", "start"]) with
    | [some _, some (text _ _)] => Run.raise .typeError
    | [some v, start] => sumOf v (start.getD (ofInt 0))
    | _ => Run.raise .typeError
  | .isinstance => do
    match ← Run.ofResult a.plain with
    | [v, c] => do return bool (← Run.withHeap fun h => v.isInstanceIn h.room c)
    | _ => Run.raise .typeError
  | .repr => do
    match ← one with
    | .bool b => Run.withHeap (Value.bool b).toTextValue
    | v => do return ofNewText (← Run.withHeap v.shown)
  | .abs => do
    match ← one with
    | int i a => return if i < 0 then ofInt (-i) else int i a
    | v =>
      match v.number? with
      | some (.int i) => return ofInt i
      | some (.float f) => return ofFloat f.size
      | some (.complex c) => return ofFloat c.size
      | none => Run.raise .typeError
  | .any => do return bool (← anyIs true (← one))
  | .all => do return bool (!(← anyIs false (← one)))
  | .ord => do
    match ← one with
    | text [c] _ => return .ofNat c.toNat
    | _ => Run.raise .typeError
  | .chr => do
    let i ← Run.ofResult (needSmall (← one))
    match if 0 ≤ i then CodePoint.ofNat? i.toNat else none with
    | some c => return ofChar c
    | none => Run.raise .valueError
  | .print => do
    printAll a
    return Value.none
  | .makeCharTable => do Value.makeCharTable (← Run.ofResult a.plain)
  | .sorted | .min | .max => Run.raise .typeError

end Builtin
end TemplateEngine.Script
