import TemplateEngine.Number.Numeral
import TemplateEngine.Script.Arithmetic
import TemplateEngine.Script.Arguments
import TemplateEngine.Script.Sequence

set_option autoImplicit false

namespace TemplateEngine.Script

namespace Value

def belongs (v : Value) (t : TypeName) : Bool :=
  match t, v with
  | .object, _ => true
  | .int, bool _ => true
  | .type, exceptionClass _ => true
  | t, v => v.typeName = t.name

/-- Whether a value belongs to a class, or to one of several; none if there is no such class. -/
def isInstanceIn (v : Value) : Nat → Value → Result Bool
  | 0, _ => Result.raise .recursionError
  | n + 1, c =>
    match c with
    | type t => return v.belongs t
    | exceptionClass c =>
      match v with
      | exception d _ _ => return d.isA c
      | _ => return false
    | tuple cs _ => cs.foldlM (fun b c => if b then return true else isInstanceIn v n c) false
    | _ => Result.raise .typeError

def spelledInt (base : Nat) (t : Str) : Result Value :=
  match Numeral.integer base (Numeral.spelling t) with
  | .ok i => return ofInt i
  | .error f => Result.raise .valueError [ofText (f.integerMessage base t)]

def toInt (v : Value) (base : Option Value) : Result Value :=
  match v, base with
  | int _ _, Option.none => return v
  | text t _, Option.none => spelledInt 10 t
  | v, some b =>
    match b.integer?, v with
    | some i, v =>
      if i ≠ 0 && (i < 2 || 36 < i) then Result.raise .valueError
      else match v with
        | text t _ => spelledInt i.toNat t
        | _ => Result.raise .typeError
    | Option.none, _ => Result.raise .typeError
  | v, Option.none =>
    match v.number? with
    | some (.int i) => return ofInt i
    | some (.float f) =>
      match f with
      | .nan => Result.raise .valueError
      | .infinite _ => Result.raise .overflowError
      | f => return ofInt (f.truncate?.getD 0)
    | _ => Result.raise .typeError

def numberToFloat (v : Value) : Result Binary64 :=
  match v.number? with
  | some n => n.toFloat
  | Option.none => Result.raise .typeError

def toFloat (v : Value) : Result Value :=
  match v with
  | float _ _ => return v
  | text t _ =>
    match Numeral.decimal? (Numeral.spelling t) with
    | some f => return ofFloat f
    | Option.none => Result.raise .valueError [ofText (Numeral.floatMessage t)]
  | v => do return ofFloat (← v.numberToFloat)

/-- The text of a value as a value. That of a text is the text itself. -/
def toTextValue (h : Heap) : Value → Result Value
  | text t a => return text t a
  | bool b => return ofLiteral (if b then "True" else "False").toList
  | exception c [v] a =>
    if c = .keyError then do return ofNewText (← (exception c [v] a).toText h)
    else v.toTextValue h
  | v => do return ofNewText (← v.toText h)

def needInt (v : Value) : Result Int :=
  match v.integer? with
  | some i => return i
  | Option.none => Result.raise .typeError

def needIntWithin (bound : Nat) (v : Value) : Result Int := do
  let i ← needInt v
  if (bound : Int) < i || i < -(bound : Int) - 1 then Result.raise .overflowError else return i

/-- The number of an item, or how often something is done, that a parameter needs. -/
def needIndex (v : Value) : Result Int := needIntWithin maxIndex v

def needSmall (v : Value) : Result Int := needIntWithin (twoTo 31 - 1) v

def toRange (vs : List Value) : Result Value := do
  match ← vs.mapM needInt with
  | [b] => return range 0 b 1 .fresh
  | [a, b] => return range a b 1 .fresh
  | [a, b, c] => if c = 0 then Result.raise .valueError else return range a b c .fresh
  | _ => Result.raise .typeError

def toEntry (v : Value) : Run (Value × Value) := do
  match ← v.itemsOf with
  | [a, b] => do
    Run.ofResult (checkKey a)
    return (a, b)
  | _ => Run.raise .valueError

def entriesOf (v : Value) : Run (List (Value × Value)) := do
  match v with
  | dict a => Run.look (·.entries a)
  | v => do (← v.itemsOf).mapM toEntry

def backwards (h : Heap) : Value → Result Cursor
  | list a => return .backwards a (h.itemArray a).size
  | text t _ => return .items (t.reverse.map ofChar)
  | tuple items _ => return .items items.reverse
  | range start stop step _ => do
    let n := rangeLength start stop step
    return .range (start + step * ((n : Int) - 1)) n (-step)
  | dict a => return .items (h.dictionary a).keys.reverse
  | view k a _ => return .items ((h.entries a).reverse.map k.ofEntry)
  | _ => Result.raise .typeError

def checkCoding : Option Value → Result Unit
  | some (text s _) =>
    match s.text? with
    | Option.none => .error (.unwritable s)
    | some t => if t.contains '\x00' then Result.raise .valueError else return ()
  | some _ => Result.raise .typeError
  | Option.none => return ()

/-- A text made of a value. No value is one that an encoding could be for, so one can be given only if
there is nothing to make a text of. -/
def textOf (h : Heap) (v encoding errors : Option Value) : Result Value := do
  checkCoding encoding
  checkCoding errors
  match v, encoding.or errors with
  | Option.none, _ => return ofText []
  | some v, Option.none => v.toTextValue h
  | some _, some _ => Result.raise .typeError

def ofType (t : TypeName) (a : Arguments) : Run Value := do
  let items (vs : List (Option Value)) : Run (List Value) :=
    match vs with
    | [some v] => v.itemsOf
    | _ => return []
  match t with
  | .object => do
    Run.ofResult a.nothing
    return none
  | .bool => do
    match ← Run.ofResult (a.take 0 [""]) with
    | [some v] => return bool (← Run.look v.truthy)
    | _ => return bool false
  | .int => do
    match ← Run.ofResult (a.take 0 ["", "base"]) with
    | some v :: b => Run.ofResult (v.toInt (b.head?.join))
    | [Option.none, some _] => Run.raise .typeError
    | _ => return ofInt 0
  | .float => do
    match ← Run.ofResult (a.take 0 [""]) with
    | [some v] => Run.ofResult v.toFloat
    | _ => return ofFloat .zero
  | .str => do
    match ← Run.ofResult (a.take 0 ["object", "encoding", "errors"]) with
    | [v, encoding, errors] => Run.withHeap fun h => textOf h v encoding errors
    | _ => Run.raise .typeError
  | .list => do Run.makeList (← items (← Run.ofResult (a.take 0 [""])))
  | .tuple => do
    match ← Run.ofResult (a.take 0 [""]) with
    | [some (tuple vs i)] => return tuple vs i
    | vs => do return ofItems (← items vs)
  | .frozenset => do
    match ← Run.ofResult (a.take 0 [""]) with
    | [some (frozenset vs i)] => return frozenset vs i
    | vs => do
      let vs ← items vs
      Run.withHeap fun h => do
        vs.forM checkKey
        return frozenset (← Dictionary.distinctKeys h vs) .fresh
  | .dict => do
    let given ← match a.positional with
      | [] => pure []
      | [v] => v.entriesOf
      | _ => Run.raise .typeError
    Run.makeDict (← Run.withHeap fun h => Dictionary.insertAll h {} (given ++ a.namedItems))
  | .range => do Run.ofResult (toRange (← Run.ofResult a.plain))
  | .enumerate => do
    match ← Run.ofResult (a.take 1 ["iterable", "start"]) with
    | [some v, start] => do
      let i ← Run.ofResult (needInt (start.getD (ofInt 0)))
      Run.makeIterator .enumerate (.numbered i (← v.iteratorOf))
    | _ => Run.raise .typeError
  | .zip => do
    let sources ← (← Run.ofResult a.plain).mapM iteratorOf
    Run.makeIterator .zip (.zipped sources)
  | .reversed => do
    let v ← Run.ofResult a.one
    Run.makeIterator .reversed (← Run.withHeap v.backwards)
  | .slice => do
    match ← Run.ofResult a.plain with
    | [b] => return slice none b none .fresh
    | [a, b] => return slice a b none .fresh
    | [a, b, c] => return slice a b c .fresh
    | _ => Run.raise .typeError
  | .type => do return (← Run.ofResult a.one).typeOf
  | _ => Run.raise .typeError

def errorClass (n : Value) : ExceptionClass :=
  let i? := match n.number? with
    | some (.int i) => some i
    | some (.float f) => f.whole?
    | _ => Option.none
  (i?.bind ExceptionClass.ofErrorNumber?).getD .osError

/-- Checks that an exception that must be about something is about what it should be. No value is one
that an encoding could fail to read. -/
def checkSubject : ExceptionClass → List Value → Result Unit
  | .unicodeEncodeError, [text _ _, text _ _, i, j, text _ _]
  | .unicodeTranslateError, [text _ _, i, j, text _ _] => do
    let _ ← needIndex i
    let _ ← needIndex j
  | c, _ => if c.needsArguments then Result.raise .typeError else return ()

def ofExceptionClass (c : ExceptionClass) (a : Arguments) : Run Value := do
  if a.named.any fun e => !c.parameterNames.any fun n => e.1 = n.toList then Run.raise .typeError
  else do
    Run.ofResult (checkSubject c a.positional)
    match c.isA .syntaxError, a.positional with
    | true, [_, w] => do
      let n := (← w.itemsOf).length
      if n = 4 || n = 6 then return exception c a.positional .fresh else Run.raise .typeError
    | _, vs =>
      let isNumbered := c = .osError && 2 ≤ vs.length && vs.length ≤ 5
      return exception (if isNumbered then errorClass (vs.headD none) else c) vs .fresh

end Value
end TemplateEngine.Script
