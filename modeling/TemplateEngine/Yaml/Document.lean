import TemplateEngine.Yaml.Node
import TemplateEngine.Yaml.Resolve

set_option autoImplicit false

/-!
# Documents as data

The data that a document stands for. The last value of a key in a mapping counts, and a key is a
scalar. An alias stands for what its anchor has named before, also inside that. Of several scalars that
stand for nothing the outermost is at fault, and of those the first.

The tags for bytes, for sets and for lists of pairs are left out: they count as tags that are not known, and a
document with one of them as malformed.
-/
namespace TemplateEngine.Yaml

def languageTag (name : String) : Text := Node.languageTag ++ name.toList

structure PlacedFault where
  depth : Nat
  fault : Fault

abbrev Found (α : Type) := Except PlacedFault α

namespace Found

/-- Two finds. The outer one of two faults is met first, and the left one of equally deep ones. -/
def both {α β : Type} (a : Found α) (b : Found β) : Found (α × β) :=
  match a, b with
  | .ok x, .ok y => .ok (x, y)
  | .error e, .ok _ => .error e
  | .ok _, .error f => .error f
  | .error e, .error f => .error (if f.depth < e.depth then f else e)

def ofExcept {α : Type} (depth : Nat) : Except Fault α → Found α
  | .ok a => .ok a
  | .error f => .error ⟨depth, f⟩

def ofOption {α : Type} (depth : Nat) (x : Option α) : Found α := ofExcept depth (Fault.ofOption x)

end Found

inductive Anchored where
  | found (d : Found Data)
  /-- A list, or else a mapping, that is not complete, its label, and whether it has been met inside
  itself. -/
  | pending (label : Nat) (isList met : Bool)

/-- What an anchor names, with a collection put into it that is complete now. -/
def Anchored.close (label : Nat) (whole : Data) : Anchored → Anchored
  | found (.ok d) => found (.ok (Data.close label whole d))
  | x => x

structure Anchors where
  names : Table Text Anchored := {}
  label : Nat := 0

namespace Anchors

/-- The data under an anchor at a depth; a collection that is not complete stands inside itself. -/
def meet (as : Anchors) (depth : Nat) (a : Text) : Found Data × Anchors :=
  match as.names.find? a with
  | none => (.error ⟨depth, .malformed⟩, as)
  | some (.found d) => (d, as)
  | some (.pending l isList _) =>
    (.ok (.inside l isList), { as with names := as.names.insert a (.pending l isList true) })

def note (as : Anchors) (a : Option Text) (x : Anchored) : Anchors :=
  match a with
  | none => as
  | some a => { as with names := as.names.insert a x }

def start (as : Anchors) (a : Option Text) (isList : Bool) : Anchors :=
  { as.note a (.pending as.label isList false) with label := as.label + 1 }

def isLoop (as : Anchors) (a : Option Text) : Bool :=
  match a.bind as.names.find? with
  | some (.pending _ _ met) => met
  | _ => false

def finish (as : Anchors) (a : Option Text) (label : Nat) (d : Found Data) :
    Found Data × Anchors :=
  let d := d.map (Data.shared label)
  let names := match as.isLoop a, d with
    | true, .ok whole => as.names.entries.map fun e => (e.1, e.2.close label whole)
    | _, _ => as.names.entries
  (d, { as with names := ⟨names⟩ }.note a (.found d))

end Anchors

def Properties.isOpenOr (p : Properties) (name : String) : Bool :=
  p.tag = none || p.tag = some Node.openTag || p.tag = some (languageTag name)

def scalarData (p : Properties) (isPlain : Bool) (t : Str) : Except Fault Data :=
  match p.tag with
  | none => if isPlain then plainData t else .ok (.text t)
  | some tag =>
    if tag = Node.openTag then plainData t
    else if tag = languageTag "str" then .ok (.text t)
    else if tag = languageTag "null" then .ok .null
    else if tag = languageTag "int" then Data.int <$> integer t
    else if tag = languageTag "float" then Data.float <$> decimal t
    else if tag = languageTag "bool" then
      match t.text?.bind fun u => truth? (u.map Char.toLower) with
      | some b => .ok (.bool b)
      | none => .error .notTruth
    else if tag = languageTag "timestamp" then
      match t.text?.bind TimeText.ofText? with
      | some p => timeData p
      | none => .error .notTime
    else .error .malformed

def isKey : Data → Bool
  | .list _ | .dict _ | .shared _ _ | .inside _ _ => false
  | _ => true

def entries? (d : Data) : Option (List (Data × Data)) :=
  match d.unfold with
  | .dict es => some es
  | _ => none

/-- The entries that are merged into a mapping. One that is merged into itself adds none. -/
def merged? (d : Data) : Option (List (Data × Data)) :=
  match d.unfold with
  | .dict es => some es
  | .list ds => ds.reverse.foldlM (fun es d => (entries? d).map (es ++ ·)) []
  | .inside _ false => some []
  | _ => none

def Node.isPlainly (t : Text) : Node → Bool
  | .scalar p true u => p.tag = none && u = t
  | _ => false

/-- The entries of a mapping in the order in which they count: first those that are merged. -/
def gather (ms es : List (Data × Data)) : List (Data × Data) :=
  (ms ++ es).foldl (fun fs e => Data.insert e.1 e.2 fs) []

abbrev Gathered := List (Data × Data) × List (Data × Data)

mutual

def Node.data (depth : Nat) (as : Anchors) : Node → Found Data × Anchors
  | .alias a => as.meet depth a
  | .scalar p isPlain t =>
    let d := Found.ofExcept depth (scalarData p isPlain t)
    (d, as.note p.anchor (.found d))
  | .sequence p items =>
    let label := as.label
    let (ds, as) := Node.allData (depth + 1) (as.start p.anchor true) items
    as.finish p.anchor label
      (if p.isOpenOr "seq" then ds.map Data.list else .error ⟨depth, .malformed⟩)
  | .mapping p entries =>
    let label := as.label
    let (es, as) := Node.entryData (depth + 1) (as.start p.anchor false) entries
    as.finish p.anchor label
      (if p.isOpenOr "map" then es.map fun e => .dict (gather e.1 e.2)
      else .error ⟨depth, .malformed⟩)

def Node.allData (depth : Nat) (as : Anchors) : List Node → Found (List Data) × Anchors
  | [] => (.ok [], as)
  | x :: xs =>
    let (d, as) := Node.data depth as x
    let (ds, as) := Node.allData depth as xs
    ((Found.both d ds).map fun p => p.1 :: p.2, as)

def Node.entryData (depth : Nat) (as : Anchors) : List (Node × Node) → Found Gathered × Anchors
  | [] => (.ok ([], []), as)
  | (k, v) :: es =>
    if k.isPlainly mergeKey then
      let (d, as) := Node.data depth as v
      let (rest, as) := Node.entryData depth as es
      let ms := d.bind fun d => Found.ofOption depth (merged? d)
      ((Found.both ms rest).map fun p => (p.1 ++ p.2.1, p.2.2), as)
    else
      let (key, as) :=
        if k.isPlainly valueKey then (.ok (.text valueKey), as) else Node.data depth as k
      let key := key.bind fun d => if isKey d then .ok d else .error ⟨depth, .malformed⟩
      let (d, as) := Node.data depth as v
      let (rest, as) := Node.entryData depth as es
      ((Found.both (Found.both key d) rest).map fun p => (p.2.1, p.1 :: p.2.2), as)

end

def document (s : Source) : Except Fault Data := do
  match ← Node.ofTokens (Outline.ofSource s).named with
  | none => return .null
  | some x => (x.data 0 {}).1.mapError PlacedFault.fault

end TemplateEngine.Yaml
