import TemplateEngine.Settings.Basic

set_option autoImplicit false

/-!
# Options beside the delimiters

An option of the delimiters that stands beside them says the same as one among them, where it wins. What a
mapping says is the values of its keys that are texts; in which order they stand shows only in what an issue
quotes.
-/
namespace TemplateEngine

namespace Data

theorem find?_cons (key : Data) (e : Data × Data) (es : List (Data × Data)) :
    find? key (e :: es) = if e.1.sameKey key = true then some e.2 else find? key es := by
  unfold find?
  rw [List.find?_cons]
  split <;> simp_all

theorem find?_append (key : Data) (es fs : List (Data × Data)) :
    find? key (es ++ fs) = (find? key es).or (find? key fs) := by
  induction es with
  | nil => rfl
  | cons e es ih =>
    rw [List.cons_append, find?_cons, find?_cons, ih]
    split <;> rfl

theorem sameKey_text_iff (k : Data) (t : Str) : k.sameKey (.text t) = true ↔ k = .text t := by
  cases k <;> simp [sameKey, integer?, number?]

theorem find?_text_insert (t u : Str) (v : Data) (es : List (Data × Data)) :
    find? (.text u) (insert (.text t) v es) = if t = u then some v else find? (.text u) es := by
  induction es with
  | nil => simp [insert, find?_cons, sameKey_text_iff]
  | cons e es ih =>
    rw [insert]
    split
    · next h =>
      rw [find?_cons, find?_cons, (sameKey_text_iff _ _).1 h]
      simp only [sameKey_text_iff, Data.text.injEq]
      split <;> rfl
    · next h =>
      rw [find?_cons, find?_cons, ih]
      rw [sameKey_text_iff] at h
      split
      · next hu =>
        have hne : t ≠ u := fun htu => h (htu ▸ (sameKey_text_iff _ _).1 hu)
        rw [if_neg hne]
      · rfl

theorem find?_text_filter (p : Data → Bool) (t : Str) (es : List (Data × Data)) :
    find? (.text t) (es.filter fun e => p e.1) =
      if p (.text t) = true then find? (.text t) es else none := by
  induction es with
  | nil => simp [find?]
  | cons e es ih =>
    rw [List.filter_cons, find?_cons]
    split
    · rw [find?_cons, ih]
      grind [sameKey_text_iff]
    · rw [ih]
      grind [sameKey_text_iff]

/-- Where entries are set one after another, the later of two wins. -/
theorem find?_text_foldl_insert (t : Str) (options es : List (Data × Data))
    (h : ∀ o ∈ options, ∃ n, o.1 = .text n) :
    find? (.text t) (options.foldl (fun es o => insert o.1 o.2 es) es) =
      (find? (.text t) options.reverse).or (find? (.text t) es) := by
  induction options generalizing es with
  | nil => rfl
  | cons o options ih =>
    obtain ⟨n, hn⟩ := h o (List.mem_cons_self ..)
    rw [List.foldl_cons, ih _ fun p hp => h p (List.mem_cons_of_mem _ hp), List.reverse_cons,
      find?_append, Option.or_assoc, find?_cons, hn, find?_text_insert]
    simp only [sameKey_text_iff, Data.text.injEq]
    split <;> rfl

theorem find?_text_filterMap (f : Text → Option Data) (t : Text) (names : List Text) :
    find? (.text t) (names.filterMap fun n => (f n).map fun v => (.text n, v)) =
      if t ∈ names then f t else none := by
  induction names with
  | nil => rfl
  | cons n names ih =>
    rw [List.filterMap_cons]
    cases hn : f n with
    | none =>
      simp only [Option.map_none]
      rw [ih]
      grind
    | some v =>
      simp only [Option.map_some]
      rw [find?_cons, ih]
      grind [sameKey_text_iff, Text.toStr_inj]

end Data

def Issue.told (i : Issue) : List Text × Fault := (i.location, i.fault)

namespace Checked

variable {α β : Type}

def Alike : Checked α → Checked α → Prop
  | .ok a, .ok b => a = b
  | .error is, .error js => is.map Issue.told = js.map Issue.told
  | _, _ => False

theorem Alike.refl (x : Checked α) : x.Alike x := by
  cases x <;> exact rfl

theorem Alike.both {x x' : Checked α} {y y' : Checked β} (hx : x.Alike x') (hy : y.Alike y') :
    (Checked.both x y).Alike (Checked.both x' y') := by
  cases x <;> cases x' <;> cases y <;> cases y' <;> simp_all [Checked.both, Alike]

theorem Alike.bind {x x' : Checked α} {f g : α → Checked β} (hx : x.Alike x')
    (hfg : ∀ a, (f a).Alike (g a)) : (x >>= f).Alike (x' >>= g) := by
  cases x with
  | ok a =>
    cases x' with
    | ok b =>
      obtain rfl : a = b := hx
      exact hfg a
    | error js => exact hx.elim
  | error is =>
    cases x' with
    | ok b => exact hx.elim
    | error js => exact hx

end Checked

namespace Delimiters

variable {es fs : List (Data × Data)} {α : Type}

theorem checkField_alike {check : List Text → Data → Checked α} {location : List Text} {name : String}
    {standard : α} (h : Data.find? (.text name.toList) es = Data.find? (.text name.toList) fs) :
    (checkField check location name standard es).Alike (checkField check location name standard fs) := by
  rw [checkField, checkField, h]
  exact .refl _

theorem ofEntries_alike (location : List Text)
    (h : ∀ t : Text, Data.find? (.text t) es = Data.find? (.text t) fs) :
    (ofEntries location es).Alike (ofEntries location fs) := by
  refine Checked.Alike.bind (.both (checkField_alike (h _))
    (.both (checkField_alike (h _)) (checkField_alike (h _)))) fun (o, c, n) => ?_
  by_cases hoc : o.1 = c.1
  · simp only [dif_pos hoc]
    exact rfl
  · simp only [dif_neg hoc]
    exact .refl _

end Delimiters

namespace Settings

def SameResult : Except SettingsError Settings → Except SettingsError Settings → Prop
  | .ok s, .ok t => s = t
  | .error (.issues is), .error (.issues js) => is.map Issue.told = js.map Issue.told
  | _, _ => False

theorem sameResult_of_alike {x y : Checked Settings} (h : x.Alike y) :
    SameResult (x.mapError .issues) (y.mapError .issues) := by
  cases x <;> cases y <;> exact h

namespace Raw

variable {r q : Raw} {es : List (Data × Data)}

/-- What the delimiters are given by: nothing, a mapping, or the fields of delimiters that are made. -/
inductive Nests : Option Given → List (Data × Data) → Prop
  | absent : Nests none []
  | null : Nests (some (.data .null)) []
  | mapping {d : Data} {es : List (Data × Data)} (h : d.unfold = .dict es) : Nests (some (.data d)) es
  | made (d : Delimiters) : Nests (some (.made d)) d.toEntries

/-- The mapping `q` is `r` with its options among the entries that the delimiters are given by. -/
structure Moved (r : Raw) (es : List (Data × Data)) (q : Raw) : Prop where
  delimiters : ∃ d fs, q.delimiters = some (.data d) ∧ d.unfold = .dict fs ∧ ∀ t : Text,
    Data.find? (.text t) fs =
      (if t ∈ Delimiters.fieldNames then Data.find? (.text t) r.others else none).or
        (Data.find? (.text t) es)
  others : ∀ t : Text, Data.find? (.text t) q.others =
    if t ∈ Delimiters.fieldNames then none else Data.find? (.text t) r.others

theorem nested?_of_nests (h : Nests r.delimiters es) : r.nested? = some es := by
  obtain ⟨g, others⟩ := r
  cases h with
  | absent => rfl
  | null => rfl
  | mapping h => simp only [nested?, h]
  | made d => rfl

theorem find?_options (r : Raw) (t : Text) : Data.find? (.text t) r.options.reverse =
    if t ∈ Delimiters.fieldNames then Data.find? (.text t) r.others else none := by
  rw [options, ← List.filterMap_reverse, Data.find?_text_filterMap (fun n => Data.find? (.text n) r.others)]
  simp only [List.mem_reverse]

theorem options_eq_nil_iff (r : Raw) :
    r.options = [] ↔ ∀ t ∈ Delimiters.fieldNames, Data.find? (.text t) r.others = none := by
  simp [options]

/-- Moving the options gives a mapping with the options moved. -/
theorem exists_fold_of_nested? (hnested : r.nested? = some es) (hoptions : r.options ≠ []) :
    ∃ q, r.fold = .ok q ∧ r.Moved es q := by
  have htext : ∀ o ∈ r.options, ∃ n : Str, o.1 = .text n := by
    intro o ho
    obtain ⟨n, -, ho⟩ := List.mem_filterMap.1 ho
    obtain ⟨v, -, rfl⟩ := Option.map_eq_some_iff.1 ho
    exact ⟨n, rfl⟩
  refine ⟨_, by rw [Raw.fold, if_neg hoptions, hnested], ⟨_, _, rfl, rfl, fun t => ?_⟩, fun t => ?_⟩
  · rw [Data.find?_text_foldl_insert t _ _ htext, find?_options]
  · rw [Data.find?_text_filter fun k => !isDelimiterOption k]
    simp [isDelimiterOption]

theorem exists_fold (hnests : Nests r.delimiters es) (hoptions : r.options ≠ []) :
    ∃ q, r.fold = .ok q ∧ r.Moved es q :=
  exists_fold_of_nested? (nested?_of_nests hnests) hoptions

theorem Moved.fold (h : r.Moved es q) : q.fold = .ok q := by
  have hnone : q.options = [] := (options_eq_nil_iff q).2 fun t ht => by rw [h.others, if_pos ht]
  rw [Raw.fold, if_pos hnone]

end Raw

theorem check_alike {r p q : Raw} {es : List (Data × Data)} (hp : r.Moved es p) (hq : r.Moved es q) :
    (check p).Alike (check q) := by
  obtain ⟨d, fs, hd, hfs, hfind⟩ := hp.delimiters
  obtain ⟨d', fs', hd', hfs', hfind'⟩ := hq.delimiters
  have hothers : ∀ t : Text, Data.find? (.text t) p.others = Data.find? (.text t) q.others := fun t => by
    rw [hp.others, hq.others]
  have hdelimiters : (checkDelimiters p.delimiters).Alike (checkDelimiters q.delimiters) := by
    simp only [hd, hd', checkDelimiters, Delimiters.ofData, hfs, hfs']
    exact Delimiters.ofEntries_alike _ fun t => by rw [hfind, hfind']
  exact Checked.Alike.bind (.both hdelimiters (.both (Delimiters.checkField_alike (hothers _))
    (.both (Delimiters.checkField_alike (hothers _)) (Delimiters.checkField_alike (hothers _)))))
    fun _ => .refl _

/-- An option of the delimiters may stand beside them or among them: moving the options of a mapping among
its delimiters gives a mapping with the very same result, and whatever mapping has them there gives the same
settings, or the same issues in the same order. -/
theorem flat_eq_nested {r : Raw} {es : List (Data × Data)} (hnests : Raw.Nests r.delimiters es)
    (hflat : ∃ t ∈ Delimiters.fieldNames, Data.find? (.text t) r.others ≠ none) :
    (∃ q, r.Moved es q ∧ ofRaw r = ofRaw q) ∧ ∀ q, r.Moved es q → SameResult (ofRaw r) (ofRaw q) := by
  have hoptions : r.options ≠ [] := by
    rw [Ne, Raw.options_eq_nil_iff]
    obtain ⟨t, ht, hne⟩ := hflat
    exact fun hnone => hne (hnone t ht)
  have hofRaw : ∀ {r q : Raw}, r.fold = .ok q → ofRaw r = (check q).mapError .issues := by
    intro r q hfold
    rw [ofRaw, hfold]
    rfl
  obtain ⟨p, hfold, hp⟩ := Raw.exists_fold hnests hoptions
  refine ⟨⟨p, hp, (hofRaw hfold).trans (hofRaw hp.fold).symm⟩, fun q hq => ?_⟩
  rw [hofRaw hfold, hofRaw hq.fold]
  exact sameResult_of_alike (check_alike hp hq)

def clashing : List (Data × Data) :=
  [(.text "open_marker".toList, .text "%".toList),
    (delimitersKey, .dict [(.text "close_marker".toList, .text "%".toList)]),
    (.text "strict_render".toList, .text "maybe".toList)]

def clashingNested : List (Data × Data) :=
  [(.text "strict_render".toList, .text "maybe".toList),
    (delimitersKey, .dict [(.text "open_marker".toList, .text "%".toList),
      (.text "close_marker".toList, .text "%".toList)])]

theorem flat_eq_nested_clashing :
    let r := Raw.ofEntries clashing
    let es : List (Data × Data) := [(.text "close_marker".toList, .text "%".toList)]
    Raw.Nests r.delimiters es ∧
      (∃ t ∈ Delimiters.fieldNames, Data.find? (.text t) r.others ≠ none) ∧
      r.Moved es (.ofEntries clashingNested) ∧
      SameResult (ofData (.dict clashing)) (ofData (.dict clashingNested)) ∧
      ∃ is, ofData (.dict clashing) = .error (.issues is) ∧ is.map Issue.told =
        [(["delimiters".toList], .rule Delimiters.equalRule), (["strict_render".toList], .unclearBool)] := by
  have hnests : Raw.Nests (Raw.ofEntries clashing).delimiters
      [(.text "close_marker".toList, .text "%".toList)] := .mapping rfl
  have hflat : ∃ t ∈ Delimiters.fieldNames,
      Data.find? (.text t) (Raw.ofEntries clashing).others ≠ none :=
    ⟨"open_marker".toList, by decide, by decide⟩
  have hmoved : (Raw.ofEntries clashing).Moved [(.text "close_marker".toList, .text "%".toList)]
      (.ofEntries clashingNested) := by
    have hothers : (Raw.ofEntries clashing).others = [(.text "open_marker".toList, .text "%".toList),
        (.text "strict_render".toList, .text "maybe".toList)] := rfl
    have hnested : (Raw.ofEntries clashingNested).others =
        [(.text "strict_render".toList, .text "maybe".toList)] := rfl
    have hnil : ∀ t : Text, Data.find? (.text t) [] = none := fun _ => rfl
    refine ⟨⟨_, _, rfl, rfl, fun t => ?_⟩, fun t => ?_⟩
    all_goals
      by_cases hopen : "open_marker".toList = t
      · subst hopen
        rfl
      by_cases hstrict : "strict_render".toList = t
      · subst hstrict
        rfl
      simp only [hothers, hnested, Data.find?_cons, Data.sameKey_text_iff, Data.text.injEq, Text.toStr_inj, hnil,
        if_neg hopen, if_neg hstrict, ite_self, Option.none_or]
  exact ⟨hnests, hflat, hmoved, (flat_eq_nested hnests hflat).2 _ hmoved, _, rfl, rfl⟩

end Settings
end TemplateEngine
