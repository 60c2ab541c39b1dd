import TemplateEngine.Text.Digit
import TemplateEngine.Text.Quoted

set_option autoImplicit false

/-!
# Arguments of the command line

Arguments are options and the one template. An option has a short and a long name; a long name may be
cut off as long as no other one starts like it, and a value may be attached to a name. Behind two
dashes there are no options.
-/
namespace TemplateEngine.CommandLine

inductive Switch where
  | help
  | context
  | config
  | output
  | workArea
  | verbose
  deriving DecidableEq, Repr

inductive Setting where
  | unset
  /-- Two dashes were attached to the option's name: it is set, but to nothing. -/
  | blank
  | text (t : Text)
  deriving DecidableEq, Repr

namespace Setting

def ofText (t : Text) : Setting := if t = "--".toList then blank else text t

def nonempty? : Setting → Option Text
  | text (c :: t) => some (c :: t)
  | _ => none

end Setting

structure Arguments where
  template : Text
  context : Setting := .unset
  config : Setting := .unset
  output : Setting := .text ['-']
  workArea : Setting := .unset
  verbose : Bool := false
  deriving DecidableEq, Repr

inductive Refusal where
  | ambiguous (argument : Text) (names : List Text)
  | noValue (s : Switch)
  /-- A value is attached to the name of an option that takes none. -/
  | extraValue (s : Switch) (value : Text)
  | noTemplate
  | unrecognized (arguments : List Text)
  deriving DecidableEq, Repr

inductive Stop where
  /-- The options were asked for. -/
  | help
  | refused (r : Refusal)
  deriving DecidableEq, Repr

namespace Switch

def table : List (Text × Switch) :=
  [("-h", help), ("--help", help), ("-c", context), ("--context", context), ("--config", config),
    ("-o", output), ("--output", output), ("--work-area", workArea), ("-v", verbose),
    ("--verbose", verbose)].map fun e => (e.1.toList, e.2)

def ofName? (t : Text) : Option Switch := (table.find? fun e => e.1 = t).map Prod.snd

def names (s : Switch) : List Text := (table.filter fun e => e.2 = s).map Prod.fst

def hasValue : Switch → Bool
  | help | verbose => false
  | _ => true

end Switch

namespace Refusal

def about (s : Switch) (t : Text) : Text :=
  "argument ".toList ++ Text.join ['/'] s.names ++ ": ".toList ++ t

def message : Refusal → Text
  | ambiguous t names =>
    "ambiguous option: ".toList ++ t ++ " could match ".toList ++ Text.join ", ".toList names
  | noValue s => about s "expected one argument".toList
  | extraValue s t => about s ("ignored explicit argument ".toList ++ Str.quoted t)
  | noTemplate => "the following arguments are required: template".toList
  | unrecognized ts => "unrecognized arguments: ".toList ++ Text.join [' '] ts

end Refusal

inductive Item where
  | plain (t : Text)
  /-- The two dashes behind which there are no options. -/
  | separator
  /-- An option by one of its names, and what is attached to the name. -/
  | option (s : Switch) (isShort : Bool) (attached : Option Text)
  | unknown (t : Text)
  deriving DecidableEq, Repr

namespace Item

def text : Item → Text
  | plain t | unknown t => t
  | separator => "--".toList
  | option _ _ _ => []

def isOption : Item → Bool
  | option _ _ _ | unknown _ => true
  | _ => false

def splitAssigned (t : Text) : Text × Option Text :=
  match Text.cut? ['='] t with
  | none => (t, none)
  | some (a, b) => (a, some b)

/-- The options whose long names start like an argument. -/
def longMatches (t : Text) : List (Text × Item) :=
  let (start, attached) := splitAssigned t
  (Switch.table.filter fun e => start.isPrefixOf e.1).map fun e =>
    (e.1, .option e.2 false attached)

/-- The options whose short names start an argument, what follows being their value. -/
def shortMatches (t : Text) : List (Text × Item) :=
  (Switch.table.filter fun e => e.1 = t.take 2).map fun e =>
    (e.1, .option e.2 true (some (t.drop 2)))

def candidates (t : Text) : List (Text × Item) :=
  if "--".toList.isPrefixOf t then longMatches t else shortMatches t

def isNumber (t : Text) : Bool :=
  let t := if t.getLast? = some '\n' then t.dropLast else t
  let whole := t.takeWhile Text.isDecimal
  match t.drop whole.length with
  | [] => whole ≠ []
  | c :: fraction => c = '.' && fraction ≠ [] && fraction.all Text.isDecimal

/-- The option that an argument names exactly, perhaps with a value behind an equals sign. -/
def named? (t : Text) : Option Item :=
  let isShort (n : Text) : Bool := n.length = 2
  match Switch.ofName? t with
  | some s => some (.option s (isShort t) none)
  | none =>
    match splitAssigned t with
    | (_, none) => none
    | (n, some a) => (Switch.ofName? n).map fun s => .option s (isShort n) (some a)

def ofText (t : Text) : Except Refusal Item :=
  match t with
  | '-' :: c :: u =>
    match named? t with
    | some i => .ok i
    | none =>
      match candidates t with
      | [] =>
        if (c ≠ '-' && isNumber (c :: u)) || t.contains ' ' then .ok (.plain t)
        else .ok (.unknown t)
      | [e] => .ok e.2
      | es => .error (.ambiguous t (es.map Prod.fst))
  | _ => .ok (.plain t)

def ofTexts : List Text → Except Refusal (List Item)
  | [] => .ok []
  | t :: ts =>
    if t = "--".toList then .ok (.separator :: ts.map .plain)
    else do
      let i ← ofText t
      return i :: (← ofTexts ts)

end Item

structure Progress where
  arguments : Arguments := { template := [] }
  hasTemplate : Bool := false
  /-- Arguments with no meaning, the last one first. -/
  extras : List Text := []

namespace Progress

def setValue (s : Switch) (v : Setting) (p : Progress) : Progress :=
  let a := p.arguments
  { p with arguments := match s with
      | .context => { a with context := v }
      | .config => { a with config := v }
      | .output => { a with output := v }
      | .workArea => { a with workArea := v }
      | .help | .verbose => a }

def setFlag (s : Switch) (p : Progress) : Except Stop Progress :=
  match s with
  | .help => .error .help
  | _ => .ok { p with arguments := { p.arguments with verbose := true } }

def extra (t : Text) (p : Progress) : Progress := { p with extras := t :: p.extras }

def takePlain (t : Text) (p : Progress) : Progress :=
  if p.hasTemplate then p.extra t
  else { p with arguments := { p.arguments with template := t }, hasTemplate := true }

end Progress

structure Cluster where
  /-- The options without a value, in order. -/
  flags : List Switch := []
  /-- The last option, with its value if that is attached; its value is still to come otherwise. -/
  last : Option (Switch × Option Text) := none

/-- Takes the options in one argument apart: what is attached to the short name of an option without
a value is the short name of another one and what is attached to that. -/
def cluster (s : Switch) (isShort : Bool) : Option Text → Except Refusal Cluster
  | none => .ok (if s.hasValue then { last := some (s, none) } else { flags := [s] })
  | some [] => if s.hasValue then .ok { last := some (s, some []) } else .error (.extraValue s [])
  | some (c :: t) =>
    if s.hasValue then .ok { last := some (s, some (c :: t)) }
    else match isShort, Switch.ofName? ['-', c] with
      | true, some s' => do
        let k ← match t with
          | [] => cluster s' true none
          | d :: u => cluster s' true (some (d :: u))
        return { k with flags := s :: k.flags }
      | _, _ => .error (.extraValue s (c :: t))

def takeOption (k : Cluster) (items : List Item) (p : Progress) :
    Except Stop (Progress × List Item) := do
  let setFlags (p : Progress) : Except Stop Progress :=
    k.flags.foldlM (fun p s => p.setFlag s) p
  match k.last with
  | none => return (← setFlags p, items)
  | some (s, some t) => return ((← setFlags p).setValue s (.ofText t), items)
  | some (s, none) =>
    match items with
    | .plain t :: items => return ((← setFlags p).setValue s (.ofText t), items)
    | _ => throw (.refused (.noValue s))

def takeLast (items : List Item) (p : Progress) : Progress :=
  if p.hasTemplate then items.foldl (fun p i => p.extra i.text) p
  else match items with
    | .plain t :: .separator :: items => items.foldl (fun p i => p.extra i.text) (p.takePlain t)
    | .separator :: .plain t :: items | .plain t :: items =>
      items.foldl (fun p i => p.extra i.text) (p.takePlain t)
    | _ => items.foldl (fun p i => p.extra i.text) p

def takeAll : Nat → List Item → Progress → Except Stop Progress
  | 0, _, p => .ok p
  | n + 1, items, p =>
    if !items.any Item.isOption then .ok (takeLast items p)
    else match items with
      | .option s isShort attached :: items => do
        let k ← (cluster s isShort attached).mapError .refused
        let (p, items) ← takeOption k items p
        takeAll n items p
      | i :: items =>
        takeAll n items (if i.isOption then p.extra i.text else p.takePlain i.text)
      | [] => .ok p

namespace Arguments

def ofTexts (ts : List Text) : Except Stop Arguments := do
  let items ← (Item.ofTexts ts).mapError .refused
  let p ← takeAll (items.length + 1) items {}
  if !p.hasTemplate then throw (.refused .noTemplate)
  if p.extras ≠ [] then throw (.refused (.unrecognized p.extras.reverse))
  return p.arguments

end Arguments
end TemplateEngine.CommandLine
