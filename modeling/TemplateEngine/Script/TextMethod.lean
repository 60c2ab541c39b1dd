import TemplateEngine.Script.Conversion
import TemplateEngine.Text.Case
import TemplateEngine.Text.Digit
import TemplateEngine.Text.Identifier
import TemplateEngine.Text.Lines
import TemplateEngine.Text.WordChar

set_option autoImplicit false

namespace TemplateEngine.Script

def Value.needText : Value → Result Str
  | text t _ => return t
  | _ => Result.raise .typeError

namespace TextMethod

open Value hiding none

/-- A part of a text, which is the same one if it is all of it. -/
def part (t : Str) (id : Identity) (u : Str) : Value := if u = t then text t id else ofText u

def kept (t : Str) (id : Identity) (u : Str) : Value := if u = t then text t id else ofNewText u

def strip (start stop : Bool) (t : Str) (chars : Option Value) : Result Str := do
  let p : CodePoint → Bool ← match chars with
    | none | some Value.none => pure (CodePoint.satisfies Text.isBlank)
    | some v => do
      let cs ← needText v
      pure fun c => cs.contains c
  let t := if start then Text.trimStartBy p t else t
  return if stop then Text.trimEndBy p t else t

/-- The pieces of a text at white space, of which `left` more are cut off. The last one keeps the white
space at its end if no more may be cut off. -/
def splitBlank : Nat → (left : Option Nat) → Str → List Str
  | 0, _, _ => []
  | n + 1, left, t =>
    match Text.trimStartBy (CodePoint.satisfies Text.isBlank) t with
    | [] => []
    | u =>
      match left with
      | some 0 => [u]
      | left =>
        u.takeWhile (!CodePoint.satisfies Text.isBlank ·)
          :: splitBlank n (left.map (· - 1)) (u.dropWhile (!CodePoint.satisfies Text.isBlank ·))

def splitAt (m : Str) : Nat → (left : Option Nat) → Str → List Str
  | 0, _, t => [t]
  | _ + 1, some 0, t => [t]
  | n + 1, left, t =>
    match Text.cut? m t with
    | none => [t]
    | some (a, b) => a :: splitAt m n (left.map (· - 1)) b

def limit : Option Value → Result (Option Nat)
  | none => return none
  | some v => do
    let i ← needIndex v
    return if i < 0 then none else some i.toNat

def pieces (t : Str) (sep max : Option Value) : Result (List Str) := do
  let left ← limit max
  match sep with
  | none | some Value.none => return splitBlank (t.length + 1) left t
  | some v => do
    let m ← needText v
    if m = [] then Result.raise .valueError else return splitAt m (t.length + 1) left t

def reversedText : Value → Value
  | text t a => text t.reverse a
  | v => v

def piecesFromEnd (t : Str) (sep max : Option Value) : Result (List Str) := do
  return (← pieces t.reverse (sep.map reversedText) max).reverse.map List.reverse

/-- The pieces of a text as values. A text that is not cut is its own piece, but for one that might not
be cut at white space at all. -/
def pieceValues (t : Str) (id : Identity) (sep max : Option Value) (ps : List Str) :
    Result (List Value) := do
  match ps, ← limit max, sep with
  | [p], some 0, none | [p], some 0, some Value.none => return [ofText p]
  | [p], _, _ => return [part t id p]
  | ps, _, _ => return ps.map ofText

def partition (t : Str) (id : Identity) (m : Str) (mid : Identity) : Value :=
  match Text.cut? m t with
  | some (a, b) => ofItems [ofText a, text m mid, ofText b]
  | none => ofItems [text t id, ofText [], ofText []]

def partitionEnd (t : Str) (id : Identity) (m : Str) (mid : Identity) : Value :=
  match Text.cut? m.reverse t.reverse with
  | some (b, a) => ofItems [ofText a.reverse, text m mid, ofText b.reverse]
  | none => ofItems [ofText [], ofText [], text t id]

def lines (keep : Bool) : Str → List Str
  | [] => []
  | .char '\r' :: .char '\n' :: t => (if keep then [.char '\r', .char '\n'] else []) :: lines keep t
  | c :: t =>
    if c.satisfies Text.isLineBreak then (if keep then [c] else []) :: lines keep t
    else match lines keep t with
      | [] => [[c]]
      | l :: ls => (c :: l) :: ls

def spread (new : Str) : (left : Option Nat) → Str → Str
  | some 0, t => t
  | _, [] => new
  | left, c :: t => new ++ c :: spread new (left.map (· - 1)) t

def replace (t old new : Str) (left : Option Nat) : Str :=
  if old = [] then spread new left t
  else Text.join new (splitAt old (t.length + 1) left t)

/-- A text with another one in the places of a third. It stays the same one if there are no such places,
or if the two others are one. -/
def replaceValue (t : Str) (id : Identity) (old new : Value) (left : Option Nat) :
    Result Value := do
  let s ← needText old
  let u := replace t s (← needText new) left
  if left = some 0 || old.same new || s ≠ [] && !Text.occursIn s t then return text t id
  else return ofNewText u

def replacement : Value → Result Str
  | text t _ => return t
  | Value.none => return []
  | v =>
    match v.integer? with
    | some i =>
      match if 0 ≤ i then CodePoint.ofNat? i.toNat else none with
      | some c => return [c]
      | none => Result.raise .valueError
    | none => Result.raise .typeError

/-- What a character is replaced by, which a table has as the item of the character's number; one that
the table lacks stays. -/
def replaceCharacter (table : Value) (c : CodePoint) : Run Str := fun s =>
  match table.getItem (ofNat c.toNat) s with
  | .done v s => Run.ofResult (replacement v) s
  | .raised e s => if e.cls.isA .lookupError then .done [c] s else .raised e s
  | .exhausted => .exhausted

def countIn (m t : Str) : Nat := (splitAt m (t.length + 1) none t).length - 1

/-- The part of a text that a search looks at, and where it starts; none if it would end in front of
its start. -/
def window (t : Str) (start stop : Option Value) : Result (Option (Str × Int)) := do
  let n : Int := t.length
  let place (i : Int) : Int := if i < 0 then max 0 (i + n) else i
  let a := place ((← sliceEnd (start.getD Value.none)).getD 0)
  let b := place (min n ((← sliceEnd (stop.getD Value.none)).getD n))
  return if b < a then none else some ((t.take b.toNat).drop a.toNat, a)

def lastPlace? (m t : Str) : Option Nat :=
  (Text.cut? m.reverse t.reverse).map fun (_, b) => b.length

def search (last : Bool) (t : Str) (v : Value) (start stop : Option Value) :
    Result (Option Int) := do
  let m ← needText v
  match ← window t start stop with
  | none => return none
  | some (u, i) =>
    let place := if last then lastPlace? m u else (Text.cut? m u).map fun (a, _) => a.length
    return place.map fun n => i + n

/-- Whether a text passes a test, or one of several does, of which those behind it do not matter. -/
def borders (test : Str → Bool) : Value → Result Bool
  | text m _ => return test m
  | tuple ms _ => ms.foldlM (fun b v => do if b then return true else return test (← needText v)) false
  | _ => Result.raise .typeError

def fillChar : Option Value → Result CodePoint
  | none => return .char ' '
  | some (text [c] _) => return c
  | some _ => Result.raise .typeError

/-- A text with `left` and `right` more characters at its ends, as far as there is memory for them. -/
def filled (t : Str) (left right : Nat) (c : CodePoint) : Result Str :=
  if maxItems < left + right then Result.raise .memoryError
  else return List.replicate left c ++ t ++ List.replicate right c

def pad (m : Method) (t : Str) (width : Value) (c : Option Value) : Result Str := do
  let w := (← needIndex width).toNat
  let n := w - t.length
  let c ← fillChar c
  match m with
  | .padStart => filled t n 0 c
  | .padEnd => filled t 0 n c
  | _ =>
    let left := n / 2 + n % 2 * (w % 2)
    filled t left (n - left) c

def padZeros (t : Str) (width : Value) : Result Str := do
  let zeros := (← needIndex width).toNat - t.length
  if maxItems < zeros then Result.raise .memoryError
  else
    let front := t.take 1
    if front = [.char '+'] || front = [.char '-'] then
      return front ++ List.replicate zeros (.char '0') ++ t.drop 1
    else return List.replicate zeros (.char '0') ++ t

def consists (p : Char → Bool) (t : Str) : Value :=
  bool (t ≠ [] && t.all (CodePoint.satisfies p))

def callPlain (t : Str) : Method → Result Value
  | .upper => return ofNewText t.upper
  | .lower => return ofNewText t.lower
  | .isDigit => return consists Text.isDigitSign t
  | .isSpace => return consists Text.isBlank t
  | .isAlphanumeric => return consists Text.isAlphanumeric t
  | .isIdentifier => return bool (t.text?.any Text.isIdentifier)
  | _ => Result.raise .attributeError

/-- The texts of some items between which another one stands; that of a single one is the item. -/
def join (t : Str) : List Value → Result Value
  | [text s a] => return text s a
  | items => do return ofNewText (Text.join t (← items.mapM needText))

def call (t : Str) (id : Identity) (m : Method) (a : Arguments) : Run Value := do
  let take (least : Nat) (names : List String) := Run.ofResult (a.take least names)
  let stripped (start stop : Bool) : Run Value := do
    let chars := (← take 0 [""]).head?.join
    return part t id (← Run.ofResult (strip start stop t chars))
  match m with
  | .strip => stripped true true
  | .stripStart => stripped true false
  | .stripEnd => stripped false true
  | .split | .splitEnd => do
    match ← take 0 ["sep", "maxsplit"] with
    | [sep, max] => do
      let cut := if m = .split then pieces else piecesFromEnd
      let ps ← Run.ofResult (cut t sep max)
      Run.makeList (← Run.ofResult (pieceValues t id sep max ps))
    | _ => Run.raise .typeError
  | .splitLines => do
    match ← take 0 ["keepends"] with
    | [some k] => do
      let keep ← Run.ofResult (needSmall k)
      Run.makeList ((lines (keep ≠ 0) t).map (part t id))
    | _ => Run.makeList ((lines false t).map (part t id))
  | .partition | .partitionEnd => do
    let cut := if m = .partition then partition else partitionEnd
    match ← Run.ofResult a.one with
    | text [] _ => Run.raise .valueError
    | text s b => return cut t id s b
    | _ => Run.raise .typeError
  | .replace => do
    match ← take 2 ["", "", ""] with
    | [some old, some new, count] => Run.ofResult do
      let _ ← needText old
      let _ ← needText new
      replaceValue t id old new (← limit count)
    | _ => Run.raise .typeError
  | .join => do
    Run.ofResult (join t (← (← Run.ofResult a.one).itemsOf))
  | .startsWith | .endsWith => do
    match ← take 1 ["", "", ""] with
    | [some v, start, stop] => Run.ofResult do
      let part ← window t start stop
      let test (p : Str) : Bool := part.any fun (u, _) =>
        if m = .startsWith then p.isPrefixOf u else p.isSuffixOf u
      return bool (← borders test v)
    | _ => Run.raise .typeError
  | .removeStart => Run.ofResult do
    let s ← needText (← a.one)
    return part t id (if s.isPrefixOf t then t.drop s.length else t)
  | .removeEnd => Run.ofResult do
    let s ← needText (← a.one)
    return part t id (if s.isSuffixOf t then t.take (t.length - s.length) else t)
  | .find | .findLast | .index | .indexLast => do
    match ← take 1 ["", "", ""] with
    | [some v, start, stop] => Run.ofResult do
      match ← search (m = .findLast || m = .indexLast) t v start stop with
      | some i => return ofInt i
      | none => if m = .find || m = .findLast then return ofInt (-1) else Result.raise .valueError
    | _ => Run.raise .typeError
  | .count => do
    match ← take 1 ["", "", ""] with
    | [some v, start, stop] => Run.ofResult do
      let p ← needText v
      match ← window t start stop with
      | none => return ofInt 0
      | some (u, _) => return ofNat (if p = [] then u.length + 1 else countIn p u)
    | _ => Run.raise .typeError
  | .padStart | .padEnd | .padBoth => do
    match ← take 1 ["", ""] with
    | [some w, c] => do return kept t id (← Run.ofResult (pad m t w c))
    | _ => Run.raise .typeError
  | .padZeros => do return kept t id (← Run.ofResult do padZeros t (← a.one))
  | .replaceCharacters => do
    let table ← Run.ofResult a.one
    return ofText (← t.mapM (replaceCharacter table)).flatten
  | m => Run.ofResult do
    a.nothing
    callPlain t m

end TextMethod
end TemplateEngine.Script
