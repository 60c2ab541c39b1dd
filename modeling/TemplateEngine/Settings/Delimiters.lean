import TemplateEngine.Delimiters
import TemplateEngine.Settings.Issue

set_option autoImplicit false

/-!
# Delimiters from data

The two markers must be texts that are not empty and not the same, and the context name a free name.
That the markers differ is looked at only when each field is in order.

Markers and paths are texts. A string with half of a surrogate pair is refused as one of them, so nothing is
said of templates that are cut by such markers.
-/
namespace TemplateEngine.Delimiters

def fieldNames : List Text :=
  ["open_marker", "close_marker", "context_param_name"].map String.toList

def recordName : Text := "DelimiterConfig".toList

def nameRule (name : Str) : Text :=
  "'context_param_name' must be a Python identifier, got ".toList ++ name.quoted

def reservedRule : Text :=
  "'context_param_name' must not be one of [".toList
    ++ Text.join ", ".toList (Script.reservedNames.map fun n : Text => Str.quoted n) ++ [']']

def emptyRule : Text := "markers must be non-empty".toList

def equalRule : Text := "'open_marker' and 'close_marker' must differ".toList

def checkMarker (location : List Text) (d : Data) : Checked { t : Text // t ≠ [] } :=
  match d with
  | .text s =>
    match s.text? with
    | some t => if h : t ≠ [] then .ok ⟨t, h⟩ else .refuse location (.rule emptyRule) d
    | none => .refuse location .notUnicode d
  | d => .refuse location .notText d

def NameOk (t : Text) : Prop := Script.isVariableName t = true ∧ t ∉ Script.reservedNames

def checkName (location : List Text) (d : Data) : Checked { t : Text // NameOk t } :=
  match d with
  | .text s =>
    match s.text? with
    | some t =>
      if h : Script.isVariableName t = true then
        if h' : t ∉ Script.reservedNames then .ok ⟨t, h, h'⟩
        else .refuse location (.rule reservedRule) d
      else .refuse location (.rule (nameRule s)) d
    | none => .refuse location (.rule (nameRule s)) d
  | d => .refuse location .notText d

def checkField {α : Type} (check : List Text → Data → Checked α) (location : List Text)
    (name : String) (standard : α) (entries : List (Data × Data)) : Checked α :=
  match Data.find? (.text name.toList) entries with
  | none => .ok standard
  | some d => check (location ++ [name.toList]) d

def ofEntries (location : List Text) (entries : List (Data × Data)) : Checked Delimiters := do
  let s := standard
  let (o, c, n) ← Checked.both
    (checkField checkMarker location "open_marker" ⟨_, s.open_ne_nil⟩ entries)
    (Checked.both
      (checkField checkMarker location "close_marker" ⟨_, s.close_ne_nil⟩ entries)
      (checkField checkName location "context_param_name" ⟨_, s.name_ok, s.name_free⟩ entries))
  if h : o.1 = c.1 then .refuse location (.rule equalRule) (.dict entries)
  else .ok ⟨o.1, c.1, n.1, o.2, c.2, n.2.1, n.2.2, h⟩

def ofData (location : List Text) (d : Data) : Checked Delimiters :=
  match d.unfold with
  | .dict entries => ofEntries location entries
  | _ => .refuse location (.notRecord recordName) d

def toEntries (d : Delimiters) : List (Data × Data) :=
  [(.text "open_marker".toList, .text d.openMarker),
    (.text "close_marker".toList, .text d.closeMarker),
    (.text "context_param_name".toList, .text d.contextName)]

end TemplateEngine.Delimiters
