import TemplateEngine.Number.Arithmetic
import TemplateEngine.Path
import TemplateEngine.Settings.Delimiters

set_option autoImplicit false

/-!
# Settings

The settings of a page: delimiters, the directory for generated modules, the template to load, and
whether rendering a dropped template is an error. Options of the delimiters may stand beside the
other settings; they are first moved among the delimiters, where they win.
-/
namespace TemplateEngine

structure Settings where
  delimiters : Delimiters
  /-- Where generated modules are written; they stay in memory without it. -/
  workArea : Option Path
  /-- The template to load at the start. -/
  sourceLocation : Option Path
  /-- Whether rendering a template that was dropped is an error. -/
  strict : Bool

inductive SettingsError where
  | issues (found : List Issue)
  /-- Options of the delimiters stand beside delimiters that are no mapping. -/
  | notAMapping
  /-- Something else stands in the place of the settings. -/
  | notSettings

namespace Settings

def standard : Settings := ⟨.standard, none, none, false⟩

def recordName : Text := "PagesConfig".toList

def delimitersKey : Data := .text "delimiters".toList

/-- What stands under `delimiters`: data still to be checked, or delimiters already made. -/
inductive Given where
  | data (d : Data)
  | made (d : Delimiters)

/-- A mapping with what it says of the delimiters set apart. -/
structure Raw where
  delimiters : Option Given
  others : List (Data × Data)

def isDelimiterOption : Data → Bool
  | .text s => s.text?.any Delimiters.fieldNames.contains
  | _ => false

namespace Raw

def ofEntries (entries : List (Data × Data)) : Raw where
  delimiters := (Data.find? delimitersKey entries).map .data
  others := entries.filter fun e => !e.1.sameKey delimitersKey

def options (r : Raw) : List (Data × Data) :=
  Delimiters.fieldNames.filterMap fun n : Text =>
    (Data.find? (.text n) r.others).map fun v => (.text n, v)

/-- The entries that the delimiters are given by, if they can be added to. -/
def nested? (r : Raw) : Option (List (Data × Data)) :=
  match r.delimiters with
  | none => some []
  | some (.made d) => some d.toEntries
  | some (.data d) =>
    match d.unfold with
    | .dict es => some es
    | _ => if d.truthy then none else some []

def fold (r : Raw) : Except SettingsError Raw :=
  if r.options = [] then .ok r
  else match r.nested? with
    | none => .error .notAMapping
    | some es =>
      .ok {
        delimiters := some (.data (.dict (r.options.foldl (fun es o => Data.insert o.1 o.2 es) es)))
        others := r.others.filter fun e => !isDelimiterOption e.1 }

end Raw

def trueTexts : List Text := ["1", "on", "t", "true", "y", "yes"].map String.toList

def falseTexts : List Text := ["0", "off", "f", "false", "n", "no"].map String.toList

/-- The integer of at most 64 bits that a number is, as far as its kind allows. -/
def smallInteger? : Data → Option Int
  | .int i => if -(twoTo 63 : Int) ≤ i && i < twoTo 63 then some i else none
  | .float f => f.whole?.filter fun i => i.natAbs < twoTo 63
  | _ => none

def boolOfInteger (location : List Text) (d : Data) (i : Int) : Checked Bool :=
  if i = 0 then .ok false else if i = 1 then .ok true else .refuse location .unclearBool d

def checkBool (location : List Text) (d : Data) : Checked Bool :=
  match d with
  | .bool b => .ok b
  | .text s =>
    match s.text?.map (List.map Char.toLower) with
    | some t =>
      if trueTexts.contains t then .ok true
      else if falseTexts.contains t then .ok false
      else .refuse location .unclearBool d
    | none => .refuse location .notUnicode d
  | d =>
    match smallInteger? d with
    | some i => boolOfInteger location d i
    | none => .refuse location .notBool d

def checkPath (location : List Text) : Data → Checked (Option Path)
  | .null => .ok none
  | .text s =>
    match s.text? with
    | some t => .ok (some (.ofText t))
    | none => .refuse location .notPath (.text s)
  | d => .refuse location .notPath d

def checkDelimiters : Option Given → Checked Delimiters
  | none => .ok .standard
  | some (.made d) => .ok d
  | some (.data d) => Delimiters.ofData ["delimiters".toList] d

def check (r : Raw) : Checked Settings := do
  let field {α : Type} := Delimiters.checkField (α := α)
  let (d, w, s, b) ← Checked.both (checkDelimiters r.delimiters)
    (Checked.both (field checkPath [] "work_area" none r.others)
      (Checked.both (field checkPath [] "source_location" none r.others)
        (field checkBool [] "strict_render" false r.others)))
  .ok ⟨d, w, s, b⟩

def ofRaw (r : Raw) : Except SettingsError Settings := do
  (check (← r.fold)).mapError .issues

def ofData (d : Data) : Except SettingsError Settings :=
  match d.unfold with
  | .dict entries => ofRaw (.ofEntries entries)
  | _ => .error (.issues [⟨[], .notRecord recordName, d⟩])

/-- The settings that some data asks for: data that says nothing leaves the standard ones. -/
def ofRequest (d : Data) : Except SettingsError Settings :=
  match d with
  | .dict entries => ofRaw (.ofEntries entries)
  | d => if d.truthy then .error .notSettings else .ok standard

def pathData : Option Path → Data
  | none => .null
  | some p => .text p.toText

def toEntries (s : Settings) : List (Data × Data) :=
  [(delimitersKey, .dict s.delimiters.toEntries),
    (.text "work_area".toList, pathData s.workArea),
    (.text "source_location".toList, pathData s.sourceLocation),
    (.text "strict_render".toList, .bool s.strict)]

end Settings
end TemplateEngine
