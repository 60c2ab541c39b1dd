import TemplateEngine.Yaml.Outline

set_option autoImplicit false

/-!
# The nodes of a document

Tokens are put together to nodes: scalars, sequences, mappings, and aliases for nodes with an anchor.
Where a node may stand but does not, there is an empty one. Collections stand in each other only so
deep.
-/
namespace TemplateEngine.Yaml

structure Properties where
  tag : Option Text := none
  anchor : Option Text := none
  deriving DecidableEq, Repr, Inhabited

inductive Node where
  | scalar (p : Properties) (isPlain : Bool) (text : Str)
  | sequence (p : Properties) (items : List Node)
  | mapping (p : Properties) (entries : List (Node × Node))
  | alias (name : Text)
  deriving Repr, Inhabited

namespace Node

def empty : Node := .scalar {} true []

def openTag : Text := ['!']

def languageTag : Text := "tag:yaml.org,2002:".toList

abbrev Handles := List (Text × Text)

def standardHandles : Handles := [(['!'], ['!']), ("!!".toList, languageTag)]

def tag? (hs : Handles) : Option Text → Text → Option Text
  | none, t => some t
  | some h, t => (hs.find? fun e => e.1 = h).map fun e => e.2 ++ t

def maxLevels : Nat := 489

structure Setting where
  handles : Handles
  /-- What is at fault where the tokens end. -/
  ending : Fault
  /-- How many collections more may stand in each other. -/
  room : Nat := maxLevels

def Setting.within (s : Setting) : Except Fault Setting :=
  match s.room with
  | 0 => .error .tooDeep
  | n + 1 => .ok { s with room := n }

def refuse {α : Type} (s : Setting) : List Token → Except Fault α
  | [] => .error s.ending
  | _ :: _ => .error .malformed

/-- Reads the anchor and the tag in front of a node, which may come in any order. -/
def properties (s : Setting) : List Token → Except Fault (Properties × List Token)
  | .anchor a :: .tag h t :: ts => withTag h t (some a) ts
  | .tag h t :: .anchor a :: ts => withTag h t (some a) ts
  | .anchor a :: ts => .ok (⟨none, some a⟩, ts)
  | .tag h t :: ts => withTag h t none ts
  | ts => .ok ({}, ts)
where
  withTag (h : Option Text) (t : Text) (a : Option Text) (ts : List Token) :
      Except Fault (Properties × List Token) :=
    match tag? s.handles h t with
    | some tag => .ok (⟨some tag, a⟩, ts)
    | none => refuse s ts

inductive Context where
  | flow
  | block
  /-- In a mapping, whose items may also be indented as much as the mapping. -/
  | entry
  deriving DecidableEq, Repr

def endsEntry : List Token → Bool
  | .key :: _ | .value :: _ | .blockEnd :: _ => true
  | _ => false

def endsItem : List Token → Bool
  | .blockEntry :: _ | .blockEnd :: _ => true
  | _ => false

def endsEntryItem (ts : List Token) : Bool := endsItem ts || endsEntry ts

def endsFlow (close : Token) : List Token → Bool
  | .flowEntry :: _ => true
  | t :: _ => t = close
  | [] => false

def endsFlowKey (close : Token) : List Token → Bool
  | .value :: _ => true
  | ts => endsFlow close ts

mutual

def node (s : Setting) : Nat → Context → List Token → Except Fault (Node × List Token)
  | 0, _, _ => .error .malformed
  | _, _, .alias a :: ts => .ok (.alias a, ts)
  | n + 1, c, ts => do
    let (p, ts) ← properties s ts
    match ts with
    | .scalar isPlain t :: ts => .ok (.scalar p isPlain t, ts)
    | .flowSequenceStart :: ts => do
      let (items, ts) ← flowItems (← s.within) n true ts
      .ok (.sequence p items, ts)
    | .flowMappingStart :: ts => do
      let (entries, ts) ← flowEntries (← s.within) n true ts
      .ok (.mapping p entries, ts)
    | .blockSequenceStart :: rest => do
      if c = .flow then refuse s ts
      else
        let (items, ts) ← items (← s.within) n rest
        .ok (.sequence p items, ts)
    | .blockMappingStart :: rest => do
      if c = .flow then refuse s ts
      else
        let (entries, ts) ← entries (← s.within) n rest
        .ok (.mapping p entries, ts)
    | .blockEntry :: _ =>
      if c = .entry then do
        let (items, ts) ← entryItems (← s.within) n ts
        .ok (.sequence p items, ts)
      else if p ≠ {} then .ok (.scalar p true [], ts)
      else refuse s ts
    | _ => if p ≠ {} then .ok (.scalar p true [], ts) else refuse s ts

def nodeOr (s : Setting) :
    Nat → (ends : Bool) → Context → List Token → Except Fault (Node × List Token)
  | 0, _, _, _ => .error .malformed
  | n + 1, ends, c, ts => if ends then .ok (empty, ts) else node s n c ts

def items (s : Setting) : Nat → List Token → Except Fault (List Node × List Token)
  | 0, _ => .error .malformed
  | n + 1, .blockEntry :: ts => do
    let (x, ts) ← nodeOr s n (endsItem ts) .block ts
    let (xs, ts) ← items s n ts
    .ok (x :: xs, ts)
  | _ + 1, .blockEnd :: ts => .ok ([], ts)
  | _ + 1, ts => refuse s ts

/-- Reads the items of a sequence that is indented as much as the mapping that it stands in. -/
def entryItems (s : Setting) : Nat → List Token → Except Fault (List Node × List Token)
  | 0, _ => .error .malformed
  | n + 1, .blockEntry :: ts => do
    let (x, ts) ← nodeOr s n (endsEntryItem ts) .block ts
    let (xs, ts) ← entryItems s n ts
    .ok (x :: xs, ts)
  | _ + 1, ts => .ok ([], ts)

def entries (s : Setting) : Nat → List Token → Except Fault (List (Node × Node) × List Token)
  | 0, _ => .error .malformed
  | n + 1, .key :: ts => do
    let (k, ts) ← nodeOr s n (endsEntry ts) .entry ts
    let (v, ts) ← entryValue s n ts
    let (es, ts) ← entries s n ts
    .ok ((k, v) :: es, ts)
  | _ + 1, .blockEnd :: ts => .ok ([], ts)
  | _ + 1, ts => refuse s ts

def entryValue (s : Setting) : Nat → List Token → Except Fault (Node × List Token)
  | 0, _ => .error .malformed
  | n + 1, .value :: ts => nodeOr s n (endsEntry ts) .entry ts
  | _ + 1, ts => .ok (empty, ts)

def flowItems (s : Setting) :
    Nat → (isFirst : Bool) → List Token → Except Fault (List Node × List Token)
  | 0, _, _ => .error .malformed
  | _ + 1, _, .flowSequenceEnd :: ts => .ok ([], ts)
  | n + 1, true, ts => do
    let (x, ts) ← flowItem s n ts
    let (xs, ts) ← flowItems s n false ts
    .ok (x :: xs, ts)
  | _ + 1, false, .flowEntry :: .flowSequenceEnd :: ts => .ok ([], ts)
  | n + 1, false, .flowEntry :: ts => do
    let (x, ts) ← flowItem s n ts
    let (xs, ts) ← flowItems s n false ts
    .ok (x :: xs, ts)
  | _ + 1, false, ts => refuse s ts

/-- Reads an item between brackets; a single entry is a mapping. -/
def flowItem (s : Setting) : Nat → List Token → Except Fault (Node × List Token)
  | 0, _ => .error .malformed
  | n + 1, .key :: ts => do
    let s ← s.within
    let (k, ts) ← nodeOr s n (endsFlowKey .flowSequenceEnd ts) .flow ts
    let (v, ts) ← flowValue s n .flowSequenceEnd ts
    .ok (.mapping {} [(k, v)], ts)
  | n + 1, ts => node s n .flow ts

def flowValue (s : Setting) : Nat → (close : Token) → List Token → Except Fault (Node × List Token)
  | 0, _, _ => .error .malformed
  | n + 1, close, .value :: ts => nodeOr s n (endsFlow close ts) .flow ts
  | _ + 1, _, ts => .ok (empty, ts)

def flowEntries (s : Setting) :
    Nat → (isFirst : Bool) → List Token →
    Except Fault (List (Node × Node) × List Token)
  | 0, _, _ => .error .malformed
  | _ + 1, _, .flowMappingEnd :: ts => .ok ([], ts)
  | n + 1, true, ts => do
    let (e, ts) ← flowEntryPair s n ts
    let (es, ts) ← flowEntries s n false ts
    .ok (e :: es, ts)
  | _ + 1, false, .flowEntry :: .flowMappingEnd :: ts => .ok ([], ts)
  | n + 1, false, .flowEntry :: ts => do
    let (e, ts) ← flowEntryPair s n ts
    let (es, ts) ← flowEntries s n false ts
    .ok (e :: es, ts)
  | _ + 1, false, ts => refuse s ts

/-- Reads an entry between brackets; a node alone is a key. -/
def flowEntryPair (s : Setting) : Nat → List Token → Except Fault ((Node × Node) × List Token)
  | 0, _ => .error .malformed
  | n + 1, .key :: ts => do
    let (k, ts) ← nodeOr s n (endsFlowKey .flowMappingEnd ts) .flow ts
    let (v, ts) ← flowValue s n .flowMappingEnd ts
    .ok ((k, v), ts)
  | n + 1, ts => do
    let (k, ts) ← node s n .flow ts
    .ok ((k, empty), ts)

end

/-- Reads the directives in front of a document. At most one is for the version, which must be one
that is known, and each handle is declared once. -/
def directives? : List Token → Option (Bool × Handles × List Token)
  | .version major _ :: ts => do
    let (seen, hs, ts) ← directives? ts
    guard (!seen && major = 1)
    some (true, hs, ts)
  | .handle name t :: ts => do
    let (seen, hs, ts) ← directives? ts
    guard (!hs.any fun e => e.1 = name)
    some (seen, (name, t) :: hs, ts)
  | .directive :: ts => directives? ts
  | ts => some (false, [], ts)

def endsDocument : List Token → Bool
  | [] | .documentStart :: _ | .documentEnd :: _ | .directive :: _ | .version _ _ :: _
  | .handle _ _ :: _ => true
  | _ => false

def whole (s : Setting) (ts : List Token) : Except Fault (Node × List Token) :=
  node s (4 * ts.length + 4) .block ts

def alone (f? : Option Fault) (x : Node) (ts : List Token) : Except Fault Node :=
  if ts.all (· = .documentEnd) then
    match f? with
    | none => .ok x
    | some f => .error f
  else .error .malformed

def ofTokens (t : Tokens) : Except Fault (Option Node) := do
  let ending := t.fault?.getD .malformed
  match t.list, t.fault? with
  | [], none => .ok none
  | [], some f => .error f
  | first :: _, f? =>
    match first with
    | .directive | .version _ _ | .handle _ _ | .documentStart => do
      let (_, hs, ts) ← Fault.ofOption (directives? t.list)
      let s : Setting := { handles := hs ++ standardHandles, ending }
      match ts with
      | .documentStart :: ts =>
        let (x, ts) ← if endsDocument ts then .ok (empty, ts) else whole s ts
        some <$> alone f? x ts
      | ts => refuse s ts
    | _ =>
      let (x, ts) ← whole { handles := standardHandles, ending } t.list
      some <$> alone f? x ts

end Node
end TemplateEngine.Yaml
