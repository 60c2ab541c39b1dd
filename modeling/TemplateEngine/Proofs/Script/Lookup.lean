import Mathlib.Data.List.Basic
import TemplateEngine.Script.Compare

set_option autoImplicit false

/-!
# Finding the entry of a key

A dictionary that was made of some entries finds, among those whose keys have the code of the key that is
looked for, the first one with an equal key. This is the first entry at all with an equal key if equal
keys have the same code.
-/
namespace TemplateEngine.Script

namespace Dictionary

variable {d : Dictionary} {h : Heap} {key : Value}

/-- The dictionary knows no slots but those that it has. -/
def Filed (d : Dictionary) : Prop :=
  ∀ (code : Nat) (slots : List Nat), d.places[code]? = some slots → ∀ i ∈ slots, i < d.slots.size

theorem filed_empty : Filed {} := by
  intro code slots h
  simp at h

theorem places_push (d : Dictionary) (e : Item) (code : Nat) :
    (d.push e).places[code]? =
      if e.1.code = code then some (d.places[code]?.getD [] ++ [d.slots.size])
      else d.places[code]? := by
  simp only [push, Std.TreeMap.getElem?_alter, Nat.compare_eq_eq]
  split
  · next h => rw [h]
  · rfl

theorem Filed.push (hd : d.Filed) (e : Item) : (d.push e).Filed := by
  intro code slots h i hi
  have hsize : (d.push e).slots.size = d.slots.size + 1 := by simp [Dictionary.push]
  rw [hsize]
  rw [places_push] at h
  split at h
  · obtain rfl := Option.some.inj h
    obtain hi | hi := List.mem_append.1 hi
    · cases hc : d.places[code]? with
      | none => simp [hc] at hi
      | some slots =>
        have := hd code slots hc i (by simpa [hc] using hi)
        omega
    · have := List.mem_singleton.1 hi
      omega
  · have := hd code slots h i hi
    omega

theorem candidates_push (hd : d.Filed) (e : Item) (code : Nat) :
    (d.push e).candidates code =
      d.candidates code ++ if e.1.code = code then [(d.slots.size, e)] else [] := by
  have hkept : ∀ i < d.slots.size, entry? (d.push e) i = d.entry? i := by
    intro i hi
    simp [ entry?, Dictionary.push, Array.getElem?_push, Nat.ne_of_lt hi]
  have hnew : entry? (d.push e) d.slots.size = some e := by simp [ entry?, Dictionary.push]
  have hold : (d.places[code]?.getD []).filterMap
      (fun i => ( entry? (d.push e) i).map fun e => (i, e)) = d.candidates code := by
    refine List.filterMap_congr fun i hi => ?_
    cases hc : d.places[code]? with
    | none => simp [hc] at hi
    | some slots => rw [hkept i (hd code slots hc i (by simpa [hc] using hi))]
  rw [candidates, places_push]
  split
  · rw [Option.getD_some, List.filterMap_append, hold]
    simp [hnew]
  · rw [hold, List.append_nil]

theorem firstEntry_append {test : Value → Result Bool} {xs ys : List (Nat × Item)}
    {r : Option (Nat × Item)} (h : Value.firstEntry test xs = .ok r) :
    Value.firstEntry test (xs ++ ys) =
      r.elim (Value.firstEntry test ys) fun x => .ok (some x) := by
  induction xs with
  | nil =>
    obtain rfl := Except.ok.inj h
    rfl
  | cons x xs ih =>
    rw [List.cons_append, Value.firstEntry]
    rw [Value.firstEntry] at h
    cases hx : test x.2.1 with
    | error e =>
      rw [hx] at h
      cases h
    | ok b =>
      rw [hx] at h
      cases b with
      | true =>
        obtain rfl := Except.ok.inj h
        rfl
      | false => exact ih h

variable {test : Value → Bool}

theorem find?_push (hd : d.Filed) {e : Item} {r : Option (Nat × Item)}
    (htest : Value.isItem h key e.1 = .ok (test e.1)) (hcode : test e.1 = true → e.1.code = key.code)
    (hr : d.find? h key = .ok r) :
    (d.push e).find? h key =
      .ok (r.or (if test e.1 then some (d.slots.size, e) else none)) := by
  have hlast : Value.firstEntry (Value.isItem h key)
      (if e.1.code = key.code then [(d.slots.size, e)] else []) =
      .ok (if test e.1 then some (d.slots.size, e) else none) := by
    cases ht : test e.1 with
    | true =>
      simp only [if_pos (hcode ht), Value.firstEntry, htest, ht]
      rfl
    | false =>
      split
      · simp only [Value.firstEntry, htest, ht]
        rfl
      · rfl
  rw [find?, candidates_push hd, firstEntry_append hr, hlast]
  cases r <;> rfl

theorem find?_foldl_push (es : List Item) (hd : d.Filed) {r : Option (Nat × Item)}
    (htest : ∀ e ∈ es, Value.isItem h key e.1 = .ok (test e.1) ∧
      (test e.1 = true → e.1.code = key.code))
    (hr : d.find? h key = .ok r) :
    ∃ s, (es.foldl push d).find? h key = .ok s ∧
      s.map Prod.snd = (r.map Prod.snd).or (es.find? fun e => test e.1) := by
  induction es generalizing d r with
  | nil => exact ⟨r, hr, by simp⟩
  | cons e es ih =>
    obtain ⟨hequal, hcode⟩ := htest e (by simp)
    obtain ⟨s, hs, hfirst⟩ := ih (hd.push e) (fun e' he => htest e' (by simp [he]))
      (find?_push hd hequal hcode hr)
    refine ⟨s, hs, hfirst.trans ?_⟩
    cases r with
    | some x => simp
    | none => cases ht : test e.1 <;> simp [ht]

/-- The first entry with an equal key is found, if a test tells which keys are equal and equal ones have
the same code. -/
theorem find?_ofEntries (h : Heap) (key : Value) (test : Value → Bool) (es : List Item)
    (htest : ∀ e ∈ es, Value.isItem h key e.1 = .ok (test e.1) ∧
      (test e.1 = true → e.1.code = key.code)) :
    ∃ s, (ofEntries es).find? h key = .ok s ∧
      s.map Prod.snd = es.find? fun e => test e.1 := by
  have hempty : (({} : Dictionary)).find? h key = .ok none := by
    simp [find?, candidates, Value.firstEntry, pure, Except.pure]
  obtain ⟨s, hs, hfirst⟩ := find?_foldl_push es filed_empty htest hempty
  exact ⟨s, hs, by simpa using hfirst⟩

end Dictionary

namespace Value

variable {h : Heap}

/-- A text is another one's item exactly if it is equal to it, if that one has no number. -/
theorem isItem_text (t u : Str) (a b : Identity) (hb : b.isNumber = false) :
    isItem h (.text t a) (.text u b) = .ok (decide (t = u)) := by
  have hequal : equalIn h h.room (.text t a) (.text u b) = .ok (decide (t = u)) := by
    unfold equalIn
    rfl
  rw [isItem, isItemIn]
  split
  · next hsame =>
    rw [same] at hsame
    cases a <;> cases b <;> simp_all [Identity.joins, Identity.isNumber, pure, Except.pure]
  · exact hequal

theorem isItem_int (i j : Int) (a b : Identity) :
    isItem h (.int i a) (.int j b) = .ok (decide (i = j)) := by
  have hequal : equalIn h h.room (.int i a) (.int j b) = .ok (decide (i = j)) := by
    have hcompare : (Number.int i).equal (.int j) = decide (i = j) := by
      simp [Number.equal, Number.re, Number.im, Number.compare?]
    unfold equalIn
    exact congrArg Except.ok hcompare
  rw [isItem, isItemIn]
  split
  · next hsame =>
    rw [same] at hsame
    simp_all [pure, Except.pure]
  · exact hequal

end Value

namespace Dictionary

variable {d : Dictionary} {h : Heap}

def HasTexts (d : Dictionary) : Prop :=
  ∀ e ∈ d.entries, ∃ t id, e.1 = .text t id

theorem mem_entries {d : Dictionary} {e : Item} : e ∈ d.entries ↔ ∃ i, d.entry? i = some e := by
  simp only [entries, List.mem_filterMap, id, exists_eq_right, entry?, Option.join_eq_some_iff]
  rw [Array.mem_toList_iff, Array.mem_iff_getElem?]

theorem entries_push (d : Dictionary) (e : Item) : (d.push e).entries = d.entries ++ [e] := by
  simp [entries, push]

theorem entries_ofEntries (es : List Item) : (ofEntries es).entries = es := by
  have hfold : ∀ d : Dictionary, (es.foldl push d).entries = d.entries ++ es := by
    induction es with
    | nil => simp
    | cons e es ih => simp [ih, entries_push]
  have hempty : ({} : Dictionary).entries = [] := rfl
  rw [ofEntries, hfold, hempty, List.nil_append]

theorem entries_compact (d : Dictionary) : d.compact.entries = d.entries := by
  unfold compact
  split
  · rfl
  · exact entries_ofEntries d.entries

theorem isItem_texts (t u : Str) (a b : Identity) :
    ∃ r, Value.isItem h (.text t a) (.text u b) = .ok r := by
  rw [Value.isItem, Value.isItemIn]
  split
  · exact ⟨true, rfl⟩
  · unfold Value.equalIn
    exact ⟨_, rfl⟩

/-- Looking for a text among texts never fails. -/
theorem find?_texts (hd : d.HasTexts) (t : Str) (id : Identity) :
    ∃ r, d.find? h (.text t id) = .ok r ∧ ∀ x, r = some x → d.entry? x.1 = some x.2 := by
  have hmem : ∀ x ∈ d.candidates (Value.text t id).code, d.entry? x.1 = some x.2 := by
    intro x hx
    obtain ⟨i, -, hi⟩ := List.mem_filterMap.1 hx
    obtain ⟨e, he, rfl⟩ := Option.map_eq_some_iff.1 hi
    exact he
  rw [find?]
  generalize d.candidates (Value.text t id).code = xs at hmem
  induction xs with
  | nil => exact ⟨none, rfl, by simp⟩
  | cons x xs ih =>
    obtain ⟨u, b, hkey⟩ := hd x.2 (mem_entries.2 ⟨x.1, hmem x (by simp)⟩)
    obtain ⟨r, hr⟩ := isItem_texts (h := h) t u id b
    rw [Value.firstEntry, hkey, hr]
    cases r with
    | true => exact ⟨some x, rfl, fun y hy => Option.some.inj hy ▸ hmem x (by simp)⟩
    | false => exact ih fun y hy => hmem y (by simp [hy])

theorem insert_texts (hd : d.HasTexts) (t : Str) (id : Identity) (v : Value) :
    ∃ d', d.insert h (.text t id) v = .ok d' ∧ d'.HasTexts ∧ d'.entries ≠ [] := by
  obtain ⟨r, hr, hentry⟩ := find?_texts (h := h) hd t id
  cases r with
  | none =>
    refine ⟨d.compact.push (.text t id, v), by rw [insert, hr]; rfl, ?_, ?_⟩
    · intro e he
      rw [entries_push, entries_compact] at he
      obtain he | he := List.mem_append.1 he
      · exact hd e he
      · obtain rfl := List.mem_singleton.1 he
        exact ⟨t, id, rfl⟩
    · simp [entries_push]
  | some x =>
    have hset : ∀ i, entry? (d.setValue x.1 v) i =
        if x.1 = i then ( entry? d i).map fun e => (e.1, v) else d.entry? i := by
      intro i
      simp only [setValue, entry?, Array.getElem?_modify]
      split
      · cases d.slots[i]? <;> rfl
      · rfl
    refine ⟨d.setValue x.1 v, by rw [insert, hr]; rfl, ?_, ?_⟩
    · intro e he
      obtain ⟨i, hi⟩ := mem_entries.1 he
      rw [hset] at hi
      split at hi
      · obtain ⟨e', he', rfl⟩ := Option.map_eq_some_iff.1 hi
        exact hd e' (mem_entries.2 ⟨i, he'⟩)
      · exact hd e (mem_entries.2 ⟨i, hi⟩)
    · have hfound := hset x.1
      rw [if_pos rfl, hentry x rfl] at hfound
      exact List.ne_nil_of_mem (mem_entries.2 ⟨x.1, hfound⟩)

theorem distinctKeys_texts (vs : List Value) (hvs : ∀ v ∈ vs, ∃ t id, v = .text t id) :
    ∃ ks, distinctKeys h vs = .ok ks ∧ (ks = [] ↔ vs = []) := by
  have hall : ∀ d : Dictionary, d.HasTexts →
      ∃ d', d.insertAll h (vs.map fun k => (k, .none)) = .ok d' ∧
        (d'.entries = [] ↔ d.entries = [] ∧ vs = []) := by
    induction vs with
    | nil => exact fun d _ => ⟨d, rfl, by simp⟩
    | cons v vs ih =>
      intro d hd
      obtain ⟨t, id, rfl⟩ := hvs v (by simp)
      obtain ⟨d', hd', htexts, hne⟩ := insert_texts (h := h) hd t id .none
      obtain ⟨d'', hd'', hiff⟩ := ih (fun v hv => hvs v (by simp [hv])) d' htexts
      refine ⟨d'', ?_, ?_⟩
      · rw [insertAll, List.map_cons, List.foldlM_cons, hd']
        exact hd''
      · simp [hiff, hne]
  obtain ⟨d', hd', hiff⟩ := hall {} fun e he => by simp [entries] at he
  refine ⟨d'.keys, ?_, ?_⟩
  · rw [distinctKeys, hd']
    rfl
  · rw [keys, List.map_eq_nil_iff, hiff]
    simp [entries]

end Dictionary
end TemplateEngine.Script
