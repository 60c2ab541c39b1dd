import TemplateEngine.Document
import TemplateEngine.Proofs.Settings.Folding
import TemplateEngine.Proofs.Workspace.Apart

set_option autoImplicit false

/-!
# Settings read from a document

Which settings a document describes is said by the values of its keys, apart from how they are checked. A
document that describes settings gives them, and every other one is refused with a report on its issues,
but for one kind: where an option of the delimiters stands beside delimiters that are something else than
a mapping, there is no report.
-/
namespace TemplateEngine

namespace Checked

variable {α β : Type}

theorem both_eq_ok_iff {x : Checked α} {y : Checked β} {p : α × β} :
    Checked.both x y = .ok p ↔ x = .ok p.1 ∧ y = .ok p.2 := by
  cases x <;> cases y <;> simp [Checked.both, Prod.ext_iff]

theorem bind_eq_ok_iff {x : Checked α} {f : α → Checked β} {b : β} :
    (x >>= f) = .ok b ↔ ∃ a, x = .ok a ∧ f a = .ok b := by
  cases x <;> simp [bind, Except.bind]

def Tells (x : Checked α) : Prop := x ≠ .error []

theorem Tells.ok (a : α) : Tells (.ok a) := nofun

theorem Tells.refuse (location : List Text) (fault : Fault) (input : Data) :
    Tells (.refuse location fault input : Checked α) := nofun

theorem Tells.both {x : Checked α} {y : Checked β} (hx : x.Tells) (hy : y.Tells) : (x.both y).Tells := by
  cases x with
  | ok a => cases y with
    | ok b => exact nofun
    | error q => exact fun h => hy (congrArg Except.error (Except.error.inj h))
  | error p =>
    have hp : p ≠ [] := fun h => hx (congrArg Except.error h)
    cases y <;> simp [Checked.both, Tells, hp]

theorem Tells.bind {x : Checked α} {f : α → Checked β} (hx : x.Tells) (hf : ∀ a, (f a).Tells) :
    (x >>= f).Tells := by
  cases x with
  | ok a => exact hf a
  | error p => exact fun h => hx (congrArg Except.error (Except.error.inj h))

end Checked

namespace Delimiters

variable {es : List (Data × Data)} {α : Type}

/-- What a field gives: what its data means, or the standard value where it is missing. -/
def Gives (Means : Data → α → Prop) (standard : α) : Option Data → α → Prop
  | none, a => a = standard
  | some d, a => Means d a

def MeansText (d : Data) (t : Text) : Prop := d = .text t

structure Lawful (d : Delimiters) : Prop where
  open_ne_nil : d.openMarker ≠ []
  close_ne_nil : d.closeMarker ≠ []
  open_ne_close : d.openMarker ≠ d.closeMarker
  name_ok : Script.isVariableName d.contextName = true
  name_free : d.contextName ∉ Script.reservedNames

theorem lawful (d : Delimiters) : d.Lawful :=
  ⟨d.open_ne_nil, d.close_ne_nil, d.open_ne_close, d.name_ok, d.name_free⟩

structure Describes (option : String → Option Data) (d : Delimiters) : Prop where
  openMarker : Gives MeansText "<?".toList (option "open_marker") d.openMarker
  closeMarker : Gives MeansText "?>".toList (option "close_marker") d.closeMarker
  contextName : Gives MeansText "arg".toList (option "context_param_name") d.contextName
  lawful : d.Lawful

theorem Describes.congr {f g : String → Option Data} {d : Delimiters}
    (hfg : ∀ n : String, n.toList ∈ fieldNames → f n = g n) (h : Describes f d) : Describes g d where
  openMarker := hfg "open_marker" (by decide) ▸ h.openMarker
  closeMarker := hfg "close_marker" (by decide) ▸ h.closeMarker
  contextName := hfg "context_param_name" (by decide) ▸ h.contextName
  lawful := h.lawful

theorem checkField_eq_ok_iff {check : List Text → Data → Checked α} {Means : Data → α → Prop}
    {location : List Text} {name : String} {standard a : α}
    (h : ∀ d, check (location ++ [name.toList]) d = .ok a ↔ Means d a) :
    checkField check location name standard es = .ok a ↔
      Gives Means standard (Data.find? (.text name.toList) es) a := by
  rw [checkField]
  cases Data.find? (.text name.toList) es with
  | none => simp [Gives, eq_comm]
  | some d => exact h d

theorem checkMarker_eq_ok_iff {location : List Text} {m : { t : Text // t ≠ [] }} (d : Data) :
    checkMarker location d = .ok m ↔ MeansText d m.1 := by
  obtain ⟨t, ht⟩ := m
  cases d with
  | text s =>
    cases hs : s.text? with
    | none =>
      have hne : s ≠ t := fun h => by simp [h] at hs
      simp [checkMarker, MeansText, Checked.refuse, hs, hne]
    | some u =>
      obtain rfl := Str.eq_toStr_of_text? hs
      by_cases hu : u = []
      · have hnil : Str.text? [] = some [] := rfl
        simp [checkMarker, MeansText, Checked.refuse, hu, hnil, ht]
      · simp [checkMarker, MeansText, hu]
  | _ => simp [checkMarker, MeansText, Checked.refuse]

theorem checkName_eq_ok_iff {location : List Text} {n : { t : Text // NameOk t }} (d : Data) :
    checkName location d = .ok n ↔ MeansText d n.1 := by
  obtain ⟨t, ht⟩ := n
  cases d with
  | text s =>
    cases hs : s.text? with
    | none =>
      have hne : s ≠ t := fun h => by simp [h] at hs
      simp [checkName, MeansText, Checked.refuse, hs, hne]
    | some u =>
      obtain rfl := Str.eq_toStr_of_text? hs
      by_cases hname : Script.isVariableName u = true
      · by_cases hfree : u ∉ Script.reservedNames
        · simp [checkName, MeansText, hname, hfree, Subtype.ext_iff]
        · have hne : u ≠ t := fun h => hfree (h ▸ ht.2)
          simp [checkName, MeansText, Checked.refuse, hname, hfree, hne]
      · have hne : u ≠ t := fun h => hname (h ▸ ht.1)
        simp [checkName, MeansText, Checked.refuse, hname, hne]
  | _ => simp [checkName, MeansText, Checked.refuse]

theorem checkField_text_eq_ok_iff {p : Text → Prop} {check : List Text → Data → Checked { t : Text // p t }}
    {location : List Text} {name : String} {standard a : { t : Text // p t }}
    (h : ∀ {location : List Text} {a : { t : Text // p t }} (d : Data),
      check location d = .ok a ↔ MeansText d a.1) :
    checkField check location name standard es = .ok a ↔
      Gives MeansText standard.1 (Data.find? (.text name.toList) es) a.1 := by
  rw [checkField]
  cases Data.find? (.text name.toList) es with
  | none => simp [Gives, Subtype.ext_iff, eq_comm]
  | some d => exact h d

theorem ofEntries_eq_ok_iff {location : List Text} {d : Delimiters} :
    ofEntries location es = .ok d ↔ Describes (fun n => Data.find? (.text n.toList) es) d := by
  rw [ofEntries, Checked.bind_eq_ok_iff]
  constructor
  · rintro ⟨⟨o, c, n⟩, hfields, hd⟩
    obtain ⟨ho, hrest⟩ := Checked.both_eq_ok_iff.1 hfields
    obtain ⟨hc, hn⟩ := Checked.both_eq_ok_iff.1 hrest
    rw [checkField_text_eq_ok_iff checkMarker_eq_ok_iff] at ho hc
    rw [checkField_text_eq_ok_iff checkName_eq_ok_iff] at hn
    by_cases hoc : o.1 = c.1
    · simp [hoc, Checked.refuse] at hd
    · simp only [dif_neg hoc, Except.ok.injEq] at hd
      subst hd
      exact ⟨ho, hc, hn, lawful _⟩
  · intro h
    refine ⟨(⟨_, d.open_ne_nil⟩, ⟨_, d.close_ne_nil⟩, ⟨_, d.name_ok, d.name_free⟩), ?_, ?_⟩
    · rw [Checked.both_eq_ok_iff, Checked.both_eq_ok_iff, checkField_text_eq_ok_iff checkMarker_eq_ok_iff,
        checkField_text_eq_ok_iff checkMarker_eq_ok_iff, checkField_text_eq_ok_iff checkName_eq_ok_iff]
      exact ⟨h.openMarker, h.closeMarker, h.contextName⟩
    · exact dif_neg d.open_ne_close

theorem tells_checkField {check : List Text → Data → Checked α} {location : List Text} {name : String}
    {standard : α} (h : ∀ l d, (check l d).Tells) :
    (checkField check location name standard es).Tells := by
  rw [checkField]
  split
  · exact .ok _
  · exact h _ _

theorem tells_ofEntries (location : List Text) : (ofEntries location es).Tells := by
  have hmarker : ∀ l d, (checkMarker l d).Tells := by
    intro l d
    cases d with
    | text s =>
      rw [checkMarker]
      split
      · split
        · exact .ok _
        · exact .refuse _ _ _
      · exact .refuse _ _ _
    | _ => exact .refuse _ _ _
  have hname : ∀ l d, (checkName l d).Tells := by
    intro l d
    cases d with
    | text s =>
      rw [checkName]
      split
      · split
        · split
          · exact .ok _
          · exact .refuse _ _ _
        · exact .refuse _ _ _
      · exact .refuse _ _ _
    | _ => exact .refuse _ _ _
  refine .bind (.both (tells_checkField hmarker) (.both (tells_checkField hmarker) (tells_checkField hname)))
    fun (o, c, n) => ?_
  dsimp only
  split
  · exact .refuse _ _ _
  · exact .ok _

theorem eq_standard_iff {d : Delimiters} : d = standard ↔ Describes (fun _ => none) d := by
  constructor
  · rintro rfl
    exact ⟨rfl, rfl, rfl, lawful _⟩
  · intro h
    exact ext_fields h.openMarker h.closeMarker h.contextName

end Delimiters

namespace Settings

open Delimiters (Gives)

inductive MeansPath : Data → Option Path → Prop
  | null : MeansPath .null none
  | text (t : Text) : MeansPath (.text t) (some (.ofText t))

inductive MeansTruth : Data → Bool → Prop
  | bool (b : Bool) : MeansTruth (.bool b) b
  | word {t : Text} {b : Bool} (h : t.map Char.toLower ∈ if b then trueTexts else falseTexts) :
      MeansTruth (.text t) b
  | number {d : Data} {b : Bool} (h : smallInteger? d = some (if b then 1 else 0)) : MeansTruth d b

/-- The entries of a document that settings are made of. A document that says nothing has none of them. -/
def entries? (d : Data) : Option (List (Data × Data)) :=
  if d.truthy then
    match d.unfold with
    | .dict es => some es
    | _ => none
  else some []

def field? (es : List (Data × Data)) (name : String) : Option Data := Data.find? (.text name.toList) es

def HasOption (es : List (Data × Data)) : Prop :=
  ∃ t ∈ Delimiters.fieldNames, Data.find? (.text t) es ≠ none

def NoMapping (d : Data) : Prop := ∀ es, d.unfold ≠ .dict es

/-- The entries under `delimiters`. Where options stand beside it, something that says nothing may stand for
no entries. -/
inductive Nested (es : List (Data × Data)) : List (Data × Data) → Prop
  | absent (h : Data.find? delimitersKey es = none) : Nested es []
  | mapping {d : Data} {fs : List (Data × Data)} (h : Data.find? delimitersKey es = some d)
      (hd : d.unfold = .dict fs) : Nested es fs
  | idle {d : Data} (h : Data.find? delimitersKey es = some d) (hd : NoMapping d)
      (hfalse : d.truthy = false) (hoption : HasOption es) : Nested es []

/-- Entries describe settings: each field says what it is in them, and of the options of the delimiters those
that stand beside them win. -/
structure DescribedBy (es : List (Data × Data)) (s : Settings) : Prop where
  delimiters : ∃ fs, Nested es fs ∧ s.delimiters.Describes fun n => (field? es n).or (field? fs n)
  workArea : Gives MeansPath none (field? es "work_area") s.workArea
  sourceLocation : Gives MeansPath none (field? es "source_location") s.sourceLocation
  strict : Gives MeansTruth false (field? es "strict_render") s.strict

def Describes (d : Data) (s : Settings) : Prop := ∃ es, entries? d = some es ∧ DescribedBy es s

/-- An option stands beside delimiters that say something and are no mapping. -/
def Misplaced (d : Data) : Prop :=
  ∃ es v, entries? d = some es ∧ HasOption es ∧ Data.find? delimitersKey es = some v ∧ v.truthy = true ∧
    NoMapping v

variable {es : List (Data × Data)} {s : Settings} {r : Raw}

theorem checkPath_eq_ok_iff {location : List Text} {p : Option Path} (d : Data) :
    checkPath location d = .ok p ↔ MeansPath d p := by
  constructor
  · intro h
    cases d with
    | null =>
      obtain rfl := Except.ok.inj h
      exact .null
    | text s =>
      rw [checkPath] at h
      split at h
      · next t hs =>
        obtain rfl := Except.ok.inj h
        rw [Str.eq_toStr_of_text? hs]
        exact .text t
      · contradiction
    | _ => cases h
  · rintro (_ | t)
    · rfl
    · simp [checkPath]

theorem boolOfInteger_eq_ok_iff {location : List Text} {d : Data} {i : Int} {b : Bool} :
    boolOfInteger location d i = .ok b ↔ i = if b then 1 else 0 := by
  rw [boolOfInteger]
  cases b <;> split <;> (try split) <;> simp_all [Checked.refuse]

theorem checkNumber_eq_ok_iff {location : List Text} {b : Bool} {d : Data} : (match smallInteger? d with
    | some i => boolOfInteger location d i
    | none => .refuse location .notBool d) = .ok b ↔ smallInteger? d = some (if b then 1 else 0) := by
  cases smallInteger? d with
  | none => simp [Checked.refuse]
  | some i => simp [boolOfInteger_eq_ok_iff]

theorem checkBool_eq_ok_iff {location : List Text} {b : Bool} (d : Data) :
    checkBool location d = .ok b ↔ MeansTruth d b := by
  have hdisjoint : ∀ t ∈ trueTexts, t ∉ falseTexts := by decide
  have hword : ∀ t : Text, checkBool location (.text t) = .ok b ↔
      t.map Char.toLower ∈ if b then trueTexts else falseTexts := by
    intro t
    have hcontains : ∀ ts : List Text, ts.contains (t.map Char.toLower) = true ↔
        t.map Char.toLower ∈ ts := fun ts => List.contains_iff_mem
    have := hdisjoint (t.map Char.toLower)
    simp only [checkBool, Str.text?_toStr, Option.map_some, hcontains]
    cases b <;> split <;> (try split) <;> simp_all [Checked.refuse]
  constructor
  · intro h
    cases d with
    | bool c =>
      obtain rfl := Except.ok.inj h
      exact .bool c
    | text s =>
      cases hs : s.text? with
      | none => simp [checkBool, hs, Checked.refuse] at h
      | some t =>
        obtain rfl := Str.eq_toStr_of_text? hs
        exact .word ((hword t).1 h)
    | _ => exact .number (checkNumber_eq_ok_iff.1 h)
  · intro h
    cases h with
    | bool => rfl
    | word h => exact (hword _).2 h
    | number h =>
      cases d with
      | bool c => cases h
      | text t => cases h
      | _ => exact checkNumber_eq_ok_iff.2 h

theorem check_eq_ok_iff : check r = .ok s ↔
    checkDelimiters r.delimiters = .ok s.delimiters ∧
      Gives MeansPath none (field? r.others "work_area") s.workArea ∧
      Gives MeansPath none (field? r.others "source_location") s.sourceLocation ∧
      Gives MeansTruth false (field? r.others "strict_render") s.strict := by
  obtain ⟨d, w, l, b⟩ := s
  rw [check, Checked.bind_eq_ok_iff]
  constructor
  · rintro ⟨⟨d', w', l', b'⟩, hfields, hs⟩
    obtain ⟨rfl, rfl, rfl, rfl⟩ := Settings.mk.inj (Except.ok.inj hs)
    obtain ⟨hd, hrest⟩ := Checked.both_eq_ok_iff.1 hfields
    obtain ⟨hw, hrest⟩ := Checked.both_eq_ok_iff.1 hrest
    obtain ⟨hl, hb⟩ := Checked.both_eq_ok_iff.1 hrest
    exact ⟨hd, (Delimiters.checkField_eq_ok_iff checkPath_eq_ok_iff).1 hw,
      (Delimiters.checkField_eq_ok_iff checkPath_eq_ok_iff).1 hl,
      (Delimiters.checkField_eq_ok_iff checkBool_eq_ok_iff).1 hb⟩
  · rintro ⟨hd, hw, hl, hb⟩
    refine ⟨(d, w, l, b), ?_, rfl⟩
    rw [Checked.both_eq_ok_iff, Checked.both_eq_ok_iff, Checked.both_eq_ok_iff,
      Delimiters.checkField_eq_ok_iff checkPath_eq_ok_iff, Delimiters.checkField_eq_ok_iff checkPath_eq_ok_iff,
      Delimiters.checkField_eq_ok_iff checkBool_eq_ok_iff]
    exact ⟨hd, hw, hl, hb⟩

theorem tells_check (r : Raw) : (check r).Tells := by
  have hdelimiters : ∀ g, (checkDelimiters g).Tells := by
    rintro (_ | d | d)
    · exact .ok _
    · rw [checkDelimiters, Delimiters.ofData]
      split
      · exact Delimiters.tells_ofEntries _
      · exact .refuse _ _ _
    · exact .ok _
  have hpath : ∀ l d, (checkPath l d).Tells := by
    intro l d
    cases d with
    | null => exact .ok _
    | text s =>
      rw [checkPath]
      split
      · exact .ok _
      · exact .refuse _ _ _
    | _ => exact .refuse _ _ _
  have hinteger : ∀ l d i, (boolOfInteger l d i).Tells := by
    intro l d i
    rw [boolOfInteger]
    split
    · exact .ok _
    · split
      · exact .ok _
      · exact .refuse _ _ _
  have hbool : ∀ l d, (checkBool l d).Tells := by
    intro l d
    rw [checkBool.eq_def]
    split
    · exact .ok _
    · split
      · split
        · exact .ok _
        · split
          · exact .ok _
          · exact .refuse _ _ _
      · exact .refuse _ _ _
    · split
      · exact hinteger _ _ _
      · exact .refuse _ _ _
  exact .bind (.both (hdelimiters _) (.both (Delimiters.tells_checkField hpath)
    (.both (Delimiters.tells_checkField hpath) (Delimiters.tells_checkField hbool)))) fun _ => .ok _

theorem find?_ofEntries {t : Text} (h : t ≠ "delimiters".toList) :
    Data.find? (.text t) (Raw.ofEntries es).others = Data.find? (.text t) es := by
  have hkey : (!(Data.text t).sameKey delimitersKey) = true := by
    rw [Bool.not_eq_true', Bool.eq_false_iff, Ne, delimitersKey, Data.sameKey_text_iff, Data.text.injEq,
      Text.toStr_inj]
    exact h
  have hfilter := Data.find?_text_filter (fun k => !k.sameKey delimitersKey) t es
  rwa [if_pos hkey] at hfilter

theorem ne_of_mem_fieldNames {t : Text} (h : t ∈ Delimiters.fieldNames) : t ≠ "delimiters".toList := by
  rintro rfl
  exact absurd h (by decide)

theorem options_ofEntries : (Raw.ofEntries es).options = [] ↔ ¬ HasOption es := by
  rw [Raw.options_eq_nil_iff, HasOption]
  constructor
  · rintro hnone ⟨t, ht, hne⟩
    exact hne ((find?_ofEntries (ne_of_mem_fieldNames ht)).symm.trans (hnone t ht))
  · intro h t ht
    rw [find?_ofEntries (ne_of_mem_fieldNames ht)]
    exact Decidable.byContradiction fun hne => h ⟨t, ht, fun hnone => hne hnone⟩

/-- Without options beside them, the delimiters are what stands in their place. -/
theorem checkDelimiters_eq_ok_iff {d : Delimiters} (h : ¬ HasOption es) :
    checkDelimiters (Raw.ofEntries es).delimiters = .ok d ↔
      ∃ fs, Nested es fs ∧ d.Describes fun n => (field? es n).or (field? fs n) := by
  have hnone : ∀ n : String, n.toList ∈ Delimiters.fieldNames → field? es n = none := by
    intro n hn
    have := (Raw.options_eq_nil_iff _).1 (options_ofEntries.2 h) n.toList hn
    rwa [find?_ofEntries (ne_of_mem_fieldNames hn)] at this
  have hor : ∀ fs, (d.Describes fun n => (field? es n).or (field? fs n)) ↔ d.Describes (field? fs) := by
    intro fs
    have hsame : ∀ n : String, n.toList ∈ Delimiters.fieldNames →
        (field? es n).or (field? fs n) = field? fs n := fun n hn => by rw [hnone n hn, Option.none_or]
    exact ⟨.congr hsame, .congr fun n hn => (hsame n hn).symm⟩
  simp only [hor]
  cases hfind : Data.find? delimitersKey es with
  | none =>
    have hgiven : (Raw.ofEntries es).delimiters = none := congrArg (Option.map Given.data) hfind
    rw [hgiven, checkDelimiters, Except.ok.injEq, eq_comm, Delimiters.eq_standard_iff]
    constructor
    · intro hd
      exact ⟨[], .absent hfind, hd⟩
    · rintro ⟨fs, hnested, hd⟩
      cases hnested with
      | absent => exact hd
      | mapping hsome => cases hfind.symm.trans hsome
      | idle hsome => cases hfind.symm.trans hsome
  | some v =>
    have hgiven : (Raw.ofEntries es).delimiters = some (.data v) := congrArg (Option.map Given.data) hfind
    rw [hgiven, checkDelimiters, Delimiters.ofData]
    constructor
    · intro hd
      split at hd
      · next fs hv => exact ⟨fs, .mapping hfind hv, Delimiters.ofEntries_eq_ok_iff.1 hd⟩
      · cases hd
    · rintro ⟨fs, hnested, hd⟩
      cases hnested with
      | absent hnone => cases hfind.symm.trans hnone
      | mapping hsome hv =>
        obtain rfl := Option.some.inj (hfind.symm.trans hsome)
        rw [hv]
        exact Delimiters.ofEntries_eq_ok_iff.2 hd
      | idle _ _ _ hoption => exact absurd hoption h

/-- Beside options, something in the place of the delimiters that says nothing has no entries, and something
else that is no mapping cannot be added to. -/
theorem nested?_of_noMapping {v : Data} (hfind : Data.find? delimitersKey es = some v) (hv : NoMapping v) :
    (Raw.ofEntries es).nested? = if v.truthy then none else some [] := by
  have hgiven : (Raw.ofEntries es).delimiters = some (.data v) := congrArg (Option.map Given.data) hfind
  simp only [Raw.nested?, hgiven]
  split
  · next gs hgs => exact absurd hgs (hv gs)
  · rfl

theorem nested?_eq_some_iff (h : HasOption es) {fs : List (Data × Data)} :
    (Raw.ofEntries es).nested? = some fs ↔ Nested es fs := by
  cases hfind : Data.find? delimitersKey es with
  | none =>
    have hgiven : (Raw.ofEntries es).delimiters = none := congrArg (Option.map Given.data) hfind
    simp only [Raw.nested?, hgiven, Option.some.injEq]
    constructor
    · rintro rfl
      exact .absent hfind
    · rintro (_ | hsome | hsome)
      · rfl
      · cases hfind.symm.trans hsome
      · cases hfind.symm.trans hsome
  | some v =>
    have hgiven : (Raw.ofEntries es).delimiters = some (.data v) := congrArg (Option.map Given.data) hfind
    constructor
    · intro hnested
      simp only [Raw.nested?, hgiven] at hnested
      split at hnested
      · next gs hv =>
        obtain rfl := Option.some.inj hnested
        exact .mapping hfind hv
      · next hv =>
        cases htruthy : v.truthy with
        | true => simp [htruthy] at hnested
        | false =>
          obtain rfl : [] = fs := by simpa [htruthy] using hnested
          exact .idle hfind hv htruthy h
    · rintro (hnone | ⟨hsome, hv⟩ | ⟨hsome, hv, hfalse, -⟩)
      · cases hfind.symm.trans hnone
      · obtain rfl := Option.some.inj (hfind.symm.trans hsome)
        simp only [Raw.nested?, hgiven, hv]
      · obtain rfl := Option.some.inj (hfind.symm.trans hsome)
        rw [nested?_of_noMapping hfind hv, hfalse]
        rfl

theorem checkDelimiters_of_moved {q : Raw} {fs : List (Data × Data)} (hq : (Raw.ofEntries es).Moved fs q)
    {d : Delimiters} : checkDelimiters q.delimiters = .ok d ↔
      d.Describes fun n => (field? es n).or (field? fs n) := by
  obtain ⟨v, gs, hgiven, hv, hfind⟩ := hq.delimiters
  have hsame : ∀ n : String, n.toList ∈ Delimiters.fieldNames →
      field? gs n = (field? es n).or (field? fs n) := by
    intro n hn
    rw [field?, hfind, if_pos hn, find?_ofEntries (ne_of_mem_fieldNames hn)]
    rfl
  simp only [hgiven, checkDelimiters, Delimiters.ofData, hv]
  rw [Delimiters.ofEntries_eq_ok_iff]
  exact ⟨.congr hsame, .congr fun n hn => (hsame n hn).symm⟩

theorem field?_of_moved {q : Raw} {fs : List (Data × Data)} (hq : (Raw.ofEntries es).Moved fs q)
    {name : String} (hd : name.toList ≠ "delimiters".toList) (hn : name.toList ∉ Delimiters.fieldNames) :
    field? q.others name = field? es name := by
  rw [field?, hq.others, if_neg hn, find?_ofEntries hd]
  rfl

theorem ofRaw_of_fold {r q : Raw} (h : r.fold = .ok q) : ofRaw r = (check q).mapError .issues := by
  rw [ofRaw, h]
  rfl

/-- Settings are made of entries exactly if these describe them, unless options cannot be moved among the
delimiters. -/
theorem exists_check (h : HasOption es → (Raw.ofEntries es).nested? ≠ none) :
    ∃ q, (Raw.ofEntries es).fold = .ok q ∧ ∀ s, check q = .ok s ↔ DescribedBy es s := by
  by_cases hoption : HasOption es
  · have hoptions : (Raw.ofEntries es).options ≠ [] := fun hnil => options_ofEntries.1 hnil hoption
    obtain ⟨fs, hnested⟩ := Option.ne_none_iff_exists'.1 (h hoption)
    obtain ⟨q, hfold, hq⟩ := Raw.exists_fold_of_nested? hnested hoptions
    refine ⟨q, hfold, fun s => ?_⟩
    rw [check_eq_ok_iff, checkDelimiters_of_moved hq, field?_of_moved hq (by decide) (by decide),
      field?_of_moved hq (by decide) (by decide), field?_of_moved hq (by decide) (by decide)]
    constructor
    · rintro ⟨hd, hw, hl, hb⟩
      exact ⟨⟨fs, (nested?_eq_some_iff hoption).1 hnested, hd⟩, hw, hl, hb⟩
    · rintro ⟨⟨gs, hgs, hd⟩, hw, hl, hb⟩
      obtain rfl : fs = gs := Option.some.inj (hnested.symm.trans ((nested?_eq_some_iff hoption).2 hgs))
      exact ⟨hd, hw, hl, hb⟩
  · have hsame : ∀ name : String, name.toList ≠ "delimiters".toList →
        field? (Raw.ofEntries es).others name = field? es name := fun name hname => find?_ofEntries hname
    refine ⟨_, by rw [Raw.fold, if_pos (options_ofEntries.2 hoption)], fun s => ?_⟩
    rw [check_eq_ok_iff, checkDelimiters_eq_ok_iff hoption, hsame _ (by decide), hsame _ (by decide),
      hsame _ (by decide)]
    constructor
    · rintro ⟨hd, hw, hl, hb⟩
      exact ⟨hd, hw, hl, hb⟩
    · rintro ⟨hd, hw, hl, hb⟩
      exact ⟨hd, hw, hl, hb⟩

theorem nested?_eq_none_iff : (Raw.ofEntries es).nested? = none ↔
    ∃ v, Data.find? delimitersKey es = some v ∧ v.truthy = true ∧ NoMapping v := by
  cases hfind : Data.find? delimitersKey es with
  | none =>
    have hgiven : (Raw.ofEntries es).delimiters = none := congrArg (Option.map Given.data) hfind
    simp [Raw.nested?, hgiven]
  | some v =>
    have hgiven : (Raw.ofEntries es).delimiters = some (.data v) := congrArg (Option.map Given.data) hfind
    simp only [Raw.nested?, hgiven, Option.some.injEq, exists_eq_left']
    split
    · next fs hv => simpa [NoMapping] using fun _ => ⟨fs, hv⟩
    · next hv => simpa [NoMapping] using fun _ => hv

theorem ofData_eq (d : Data) : ofData (if d.truthy then d else .dict []) =
    match entries? d with
    | some es => ofRaw (.ofEntries es)
    | none => .error (.issues [⟨[], .notRecord recordName, d⟩]) := by
  rw [entries?]
  cases d.truthy with
  | false => rfl
  | true =>
    simp only [if_true, ofData]
    cases d.unfold <;> rfl

/-- Options beside something that is no mapping are the one thing that is not reported. -/
theorem ofDocument_of_misplaced {d : Data} (h : Misplaced d) :
    ofDocument d = .error (.settings .notAMapping) := by
  obtain ⟨es, v, hes, hoption, hv⟩ := h
  have hoptions : (Raw.ofEntries es).options ≠ [] := fun hnil => options_ofEntries.1 hnil hoption
  have hfold : (Raw.ofEntries es).fold = .error .notAMapping := by
    rw [Raw.fold, if_neg hoptions, nested?_eq_none_iff.2 ⟨v, hv⟩]
  rw [ofDocument, ofData_eq, hes]
  simp only [ofRaw, hfold]
  rfl

theorem not_describes_of_misplaced {d : Data} (h : Misplaced d) (s : Settings) : ¬ Describes d s := by
  obtain ⟨es, v, hes, hoption, hv⟩ := h
  rintro ⟨fs, hfs, hd⟩
  obtain rfl := Option.some.inj (hes.symm.trans hfs)
  obtain ⟨gs, hgs, -⟩ := hd.delimiters
  exact nomatch (nested?_eq_none_iff.2 ⟨v, hv⟩).symm.trans ((nested?_eq_some_iff hoption).2 hgs)

/-- All other data gives the settings that it describes, or a report. -/
theorem ofDocument_of_not_misplaced {d : Data} (h : ¬ Misplaced d) :
    (∀ s, ofDocument d = .ok s ↔ Describes d s) ∧
      ∀ f, ofDocument d = .error f → ∃ is ≠ [], f = .issues (Issue.reportAll recordName is) := by
  rw [ofDocument, ofData_eq]
  cases hes : entries? d with
  | none =>
    refine ⟨fun s => ⟨by rintro ⟨⟩, ?_⟩, fun f hf => ⟨_, List.cons_ne_nil _ _, (Except.error.inj hf).symm⟩⟩
    rintro ⟨es, hsome, -⟩
    cases hes.symm.trans hsome
  | some es =>
    have hnested : HasOption es → (Raw.ofEntries es).nested? ≠ none := by
      intro hoption hnone
      obtain ⟨v, hv⟩ := nested?_eq_none_iff.1 hnone
      exact h ⟨es, v, hes, hoption, hv⟩
    have hdescribes : ∀ s, Describes d s ↔ DescribedBy es s := by
      simp [Describes, hes]
    obtain ⟨q, hfold, hcheck⟩ := exists_check hnested
    simp only [ofRaw_of_fold hfold, hdescribes, ← hcheck]
    cases hq : check q with
    | ok s =>
      have hok : ∀ t : Settings, (Except.ok s : Except (List Issue) Settings) = .ok t ↔
          (Except.ok s : Except Failure Settings) = .ok t := by simp
      exact ⟨fun t => (hok t).symm, by rintro f ⟨⟩⟩
    | error is =>
      have hne : is ≠ [] := fun hnil => tells_check q (hnil ▸ hq)
      exact ⟨fun s => ⟨by rintro ⟨⟩, by rintro ⟨⟩⟩, fun f hf => ⟨is, hne, (Except.error.inj hf).symm⟩⟩

theorem exec_read {w : Workspace} {path : Text} {bs : Bytes} {d : Data}
    (hfile : w.files.readText w.here path = .ok bs) (hdata : Document.ofBytes bs = .ok d) :
    (Settings.read path).exec w = (ofDocument d, w) := by
  have hread : (Document.read path).exec w = (.ok d, w) := by
    rw [Document.read, Action.exec_bind, Action.exec_get]
    dsimp only
    have hbytes : (Action.ofExcept .file (w.files.readText w.here path)).exec w = (.ok bs, w) := by
      rw [hfile]
      rfl
    rw [Action.exec_bind_ok hbytes, Action.exec_ofExcept, hdata]
    rfl
  rw [Settings.read, Action.exec_bind_ok hread, Action.exec_ofExcept]
  cases ofDocument d <;> rfl

/-- A document either describes settings, with delimiters that can be used, and these are read from it; or it
describes none, and this is reported as a value that cannot be used. The one exception are options beside
something that is no mapping: these are no value of theirs, and nothing is reported. -/
theorem read_iff_describes {w : Workspace} {path : Text} {bs : Bytes} {d : Data}
    (hfile : w.files.readText w.here path = .ok bs) (hdata : Document.ofBytes bs = .ok d) :
    ∃ r, (Settings.read path).exec w = (r, w) ∧ (∀ s, r = .ok s ↔ Describes d s) ∧
      (Misplaced d → r = .error (.settings .notAMapping)) ∧
      (¬ Misplaced d → ∀ f, r = .error f →
        ∃ is ≠ [], f = .issues (Issue.reportAll recordName is) ∧
          f.valueMessage? = some (Issue.reportAll recordName is)) := by
  refine ⟨ofDocument d, exec_read hfile hdata, ?_⟩
  by_cases hmisplaced : Misplaced d
  · have hnone : ∀ s, ¬ Describes d s := not_describes_of_misplaced hmisplaced
    rw [ofDocument_of_misplaced hmisplaced]
    exact ⟨fun s => ⟨nofun, fun h => absurd h (hnone s)⟩, fun _ => rfl, fun h => absurd hmisplaced h⟩
  · obtain ⟨hok, herror⟩ := ofDocument_of_not_misplaced hmisplaced
    refine ⟨hok, fun h => absurd h hmisplaced, fun _ f hf => ?_⟩
    obtain ⟨is, hne, rfl⟩ := herror f hf
    exact ⟨is, hne, rfl, rfl⟩

def besideNumber : Bytes := Utf8.encode "delimiters: 5\nopen_marker: a".toList

def withSettings (bs : Bytes) : Workspace := { files := ⟨⟨[(["c".toList], .file bs)]⟩⟩ }

def isBesideNumber : Except Failure Data → Bool
  | .ok (.shared _ (.dict [(.text s, .int i), (.text t, .text u)])) =>
    s = "delimiters".toList && i = 5 && t = "open_marker".toList && u = "a".toList
  | _ => false

theorem misplaced_of_isBesideNumber {x : Except Failure Data} (h : isBesideNumber x = true) :
    ∃ d, x = .ok d ∧ Misplaced d := by
  unfold isBesideNumber at h
  split at h
  · next l s i t u =>
    simp only [Bool.and_eq_true, decide_eq_true_eq] at h
    obtain ⟨⟨⟨rfl, rfl⟩, rfl⟩, rfl⟩ := h
    exact ⟨_, rfl, _, _, rfl, ⟨"open_marker".toList, by decide, nofun⟩, rfl, rfl, nofun⟩
  · cases h

theorem read_iff_describes_misplaced : ∃ d,
    (withSettings besideNumber).files.readText [] "/c".toList = .ok besideNumber ∧
      Document.ofBytes besideNumber = .ok d ∧ Misplaced d ∧
      (Settings.read "/c".toList).exec (withSettings besideNumber) =
        (.error (.settings .notAMapping), withSettings besideNumber) := by
  have hfile : (withSettings besideNumber).files.readText [] "/c".toList = .ok besideNumber := rfl
  obtain ⟨d, hdata, hd⟩ := misplaced_of_isBesideNumber
    (show isBesideNumber (Document.ofBytes besideNumber) = true by decide +kernel)
  obtain ⟨r, hread, -, hmisplaced, -⟩ := read_iff_describes hfile hdata
  exact ⟨d, hfile, hdata, hd, by rw [hread, hmisplaced hd]⟩

end Settings
end TemplateEngine
