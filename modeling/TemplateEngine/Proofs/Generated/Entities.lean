import TemplateEngine.Proofs.Generated.LiteralText
import TemplateEngine.Proofs.Generated.Showing
import TemplateEngine.Proofs.Script.Room

set_option autoImplicit false

/-!
# Entities

Escaping can be undone: every ampersand of an escaped text starts the name of an entity, so a single pass
from the left finds all names and nothing else. What the function that escapes values makes of a value is
what it makes of the value's text, but its call of `str` is one call deeper than its own, which shows where
there is room for no more calls.
-/
namespace TemplateEngine

open Script

namespace Generated

def entityAt? (t : Str) : Option (Char × Nat) :=
  (entities.find? fun e => (Text.toStr e.2.toList).isPrefixOf t).map fun e => (e.1, e.2.toList.length)

/-- A text with characters in the place of the names of entities, in one pass from the left. The number
counts characters that a name has already taken. -/
def unescapeFrom : (taken : Nat) → Str → Str
  | _, [] => []
  | n + 1, _ :: t => unescapeFrom n t
  | 0, c :: t =>
    match entityAt? (c :: t) with
    | some (d, n) => .char d :: unescapeFrom (n - 1) t
    | none => c :: unescapeFrom 0 t

def unescape (t : Str) : Str := unescapeFrom 0 t

variable {c : CodePoint} {t u : Str}

/-- A name is an ampersand and no other one, and is read back; a character without a name is no ampersand. -/
theorem entity?_cases (c : CodePoint) :
    (∃ e ∈ entities, entity? c = some (Text.toStr e.2.toList) ∧
      ∀ u, unescape (e.2.toList ++ u) = c :: unescape u) ∨
      entity? c = none ∧ c ≠ .char '&' ∧ c ≠ .char '<' ∧ c ≠ .char '>' ∧ c ≠ .char '"' := by
  by_cases h1 : c = .char '&'
  · subst h1
    exact .inl ⟨('&', "&amp;"), by simp [entities], rfl, fun u => rfl⟩
  by_cases h2 : c = .char '"'
  · subst h2
    exact .inl ⟨('"', "&quot;"), by simp [entities], rfl, fun u => rfl⟩
  by_cases h3 : c = .char '<'
  · subst h3
    exact .inl ⟨('<', "&lt;"), by simp [entities], rfl, fun u => rfl⟩
  by_cases h4 : c = .char '>'
  · subst h4
    exact .inl ⟨('>', "&gt;"), by simp [entities], rfl, fun u => rfl⟩
  refine .inr ⟨?_, h1, h3, h4, h2⟩
  simp [entity?, entities, Ne.symm h1, Ne.symm h2, Ne.symm h3, Ne.symm h4]

theorem escapeText_append (t u : Str) : escapeText (t ++ u) = escapeText t ++ escapeText u :=
  List.flatMap_append

theorem escapeText_cons (c : CodePoint) (t : Str) :
    escapeText (c :: t) = (entity? c).getD [c] ++ escapeText t := rfl

theorem unescape_cons (h : c ≠ .char '&') (t : Str) : unescape (c :: t) = c :: unescape t := by
  have hnone : entityAt? (c :: t) = none := by
    simp [entityAt?, entities, Ne.symm h]
  rw [unescape, unescapeFrom, hnone]
  rfl

theorem unescape_escapeText (t : Str) : unescape (escapeText t) = t := by
  induction t with
  | nil => rfl
  | cons c t ih =>
    rw [escapeText_cons]
    obtain ⟨e, -, he, hread⟩ | ⟨he, hc, -⟩ := entity?_cases c
    · rw [he, Option.getD_some, hread, ih]
    · rw [he, Option.getD_none, List.singleton_append, unescape_cons hc, ih]

theorem not_mem_escapeText (t : Str) :
    .char '<' ∉ escapeText t ∧ .char '>' ∉ escapeText t ∧ .char '"' ∉ escapeText t := by
  have hnames : ∀ e ∈ entities, .char '<' ∉ Text.toStr e.2.toList ∧
      .char '>' ∉ Text.toStr e.2.toList ∧ .char '"' ∉ Text.toStr e.2.toList := by decide
  induction t with
  | nil => exact ⟨by simp [escapeText], by simp [escapeText], by simp [escapeText]⟩
  | cons c t ih =>
    rw [escapeText_cons]
    obtain ⟨e, hmem, he, -⟩ | ⟨he, -, h1, h2, h3⟩ := entity?_cases c
    · simp [he, hnames e hmem, ih]
    · simp [he, ih, Ne.symm h1, Ne.symm h2, Ne.symm h3]

/-- Every ampersand of an escaped text starts a name. -/
theorem exists_entity_of_suffix (h : .char '&' :: u <:+ escapeText t) :
    ∃ e ∈ entities, Text.toStr e.2.toList <+: .char '&' :: u := by
  have hnames : ∀ e ∈ entities, .char '&' ∉ (Text.toStr e.2.toList).tail := by decide
  induction t with
  | nil => simp [escapeText] at h
  | cons c t ih =>
    rw [escapeText_cons] at h
    obtain ⟨x, hx⟩ := h
    obtain ⟨y, -, hrest⟩ | ⟨y, hchunk, hu⟩ := List.append_eq_append_iff.1 hx.symm
    · exact ih ⟨y, hrest.symm⟩
    cases y with
    | nil => exact ih ⟨[], hu⟩
    | cons d y =>
      obtain ⟨rfl, rfl⟩ := List.cons.inj hu
      -- The ampersand is in what stands for the first character, so it is where its name starts.
      obtain ⟨e, hmem, he, -⟩ | ⟨he, hc, -⟩ := entity?_cases c
      · rw [he, Option.getD_some] at hchunk
        cases x with
        | nil => exact ⟨e, hmem, hchunk ▸ ⟨escapeText t, rfl⟩⟩
        | cons d x => exact absurd (by simp [hchunk]) (hnames e hmem)
      · rw [he, Option.getD_none] at hchunk
        have hlast : .char '&' ∈ [c] := hchunk ▸ by simp
        exact absurd (List.mem_singleton.1 hlast).symm hc

def callStr (n : Nat) (v : Value) : Run Value := apply n (.type .str) { positional := [v] }

def callAt (n : Nat) (a : Address) (v : Value) : Run Value :=
  apply n (.function a) { positional := [v] }

/-- What a run gives that only adds variables. -/
abbrev Gives (x : Run Value) (s : State) (r : Result Str) : Prop := x.Gives (fun _ => True) s r

variable {s : State} {a d : Address} {v : Value} {n : Nat}

/-- What a run gives is decided by the run. -/
theorem Gives.unique {x : Run Value} {r q : Result Str} (hr : Gives x s r) (hq : Gives x s q) :
    r = q := by
  cases r with
  | ok t =>
    obtain ⟨_, _, ht, -⟩ := hr
    cases q with
    | ok u =>
      obtain ⟨_, _, hu, -⟩ := hq
      cases ht.symm.trans hu
      rfl
    | error e =>
      obtain ⟨_, he⟩ := hq
      cases ht.symm.trans he
  | error e =>
    obtain ⟨_, he⟩ := hr
    cases q with
    | ok u =>
      obtain ⟨_, _, hu, -⟩ := hq
      cases he.symm.trans hu
    | error f =>
      obtain ⟨_, hf⟩ := hq
      cases he.symm.trans hf
      rfl

theorem gives_callStr (n : Nat) (v : Value) (hd : s.heap.depth + 1 < maxCalls) :
    Gives (callStr (n + 25) v) s (v.toText (s.withDepth (s.heap.depth + 1)).heap) :=
  gives_str (n + 23) v hd

/-- Escaping what `str` makes of a value escapes the value's text. -/
theorem gives_callAt_callStr (h : Escapes s a d) (hd : s.heap.depth + 3 < maxCalls) (n : Nat)
    (v : Value) : Gives (callStr (n + 25) v >>= callAt (n + 25) a) s
      ((v.toText (s.withDepth (s.heap.depth + 1)).heap).map escapeText) := by
  have hstr := gives_callStr (s := s) n v (by omega)
  cases ht : v.toText (s.withDepth (s.heap.depth + 1)).heap with
  | error e =>
    rw [ht] at hstr
    obtain ⟨u, hu⟩ := hstr
    exact ⟨u, Run.bind_raised hu⟩
  | ok t =>
    rw [ht] at hstr
    obtain ⟨id, u, hu, hgrown⟩ := hstr
    obtain ⟨id', w, hw, hgrown'⟩ := gives_escape_text (n := n + 9) (P := fun _ => True)
      (fun _ _ => trivial) (h.extended hgrown) (by rw [hgrown.depth]; omega) t id
    exact ⟨id', w, (Run.bind_done hu).trans hw, hgrown.trans hgrown'⟩

/-- Whatever module has it, the function that escapes values makes something of texts that has no special
characters but ampersands in front of the four names, that is read back in one pass, and that goes piece by
piece. It makes nothing of no value. Of any other value it makes what it makes of the value's text, unless
there is room for the call of `str` where the function is called, but not one call deeper. -/
theorem escape_faithful (h : Escapes s a d) (hd : s.heap.depth + 3 < maxCalls) (n : Nat) :
    ∃ f : Str → Str,
      (∀ t id, Gives (callAt (n + 25) a (.text t id)) s (.ok (f t))) ∧
      (∀ t, .char '<' ∉ f t ∧ .char '>' ∉ f t ∧ .char '"' ∉ f t ∧ ∀ u, .char '&' :: u <:+ f t →
        ∃ name ∈ ["&amp;", "&quot;", "&lt;", "&gt;"], Text.toStr name.toList <+: .char '&' :: u) ∧
      (∀ t, unescape (f t) = t) ∧
      (∀ t u, f (t ++ u) = f t ++ f u) ∧
      Gives (callAt (n + 25) a .none) s (.ok []) ∧
      ∀ v, v ≠ .none → v.IsPlain → ∃ r q,
        Gives (callStr (n + 25) v) s q ∧
        Gives (callStr (n + 25) v) (s.withDepth (s.heap.depth + 1)) r ∧ r.Within q ∧
        Gives (callStr (n + 25) v >>= callAt (n + 25) a) s (q.map f) ∧
        Gives (callAt (n + 25) a v) s (r.map f) := by
  have hplain : ∀ t id, (Value.text t id).IsPlain := fun t id _ => ⟨t, id, rfl⟩
  have hescape := fun v hv => gives_escape (n := n) (P := fun _ => True) (fun _ _ => trivial) h hd
    (v := v) hv trivial
  refine ⟨escapeText, fun t id => ?_, fun t => ?_, unescape_escapeText, escapeText_append, ?_,
    fun v hne hv => ⟨v.toText (s.withDepth (s.heap.depth + 2)).heap,
      v.toText (s.withDepth (s.heap.depth + 1)).heap, gives_callStr n v (by omega), ?_, ?_,
      gives_callAt_callStr h hd n v, ?_⟩⟩
  · exact hescape _ (hplain t id)
  · obtain ⟨h1, h2, h3⟩ := not_mem_escapeText t
    refine ⟨h1, h2, h3, fun u hu => ?_⟩
    obtain ⟨e, he, hprefix⟩ := exists_entity_of_suffix hu
    exact ⟨e.2, List.mem_map_of_mem (f := Prod.snd) he, hprefix⟩
  · exact hescape .none (isPlain_of_not_belongs rfl)
  · exact gives_callStr n v (s := s.withDepth (s.heap.depth + 1)) (by
      show s.heap.depth + 1 + 1 < maxCalls
      omega)
  · exact Value.toText_within (h := (s.withDepth (s.heap.depth + 2)).heap)
      (k := (s.withDepth (s.heap.depth + 1)).heap) (fun _ => rfl) (Nat.le_succ _) v
  · rw [← escapedText_of_ne hne]
    exact hescape v hv

theorem escape_faithful_loaded :
    let s := loaded {} "arg".toList []
    Module.load {} (module "arg".toList (Compile.bodyLines []) "t".toList) = .ok ⟨s⟩ ∧
      Escapes s 1 3 ∧ s.heap.depth + 3 < maxCalls ∧ Value.bool true ≠ .none ∧
      (Value.bool true).IsPlain ∧
      ∃ f : Str → Str,
        Gives (callAt maxSteps 1 (.text "<&lt;".toList .fresh)) s (.ok (f "<&lt;".toList)) ∧
        unescape (f "<&lt;".toList) = "<&lt;".toList ∧
        f ("<".toList ++ "&lt;".toList) = f "<".toList ++ f "&lt;".toList ∧
        Gives (callAt maxSteps 1 .none) s (.ok []) ∧
        Gives (callAt maxSteps 1 (.bool true)) s (.ok (f "True".toList)) := by
  have hs : Escapes (loaded {} "arg".toList []) 1 3 := escapes_loaded rfl rfl "arg".toList []
  have hplain : (Value.bool true).IsPlain := isPlain_of_not_belongs rfl
  obtain ⟨f, hcall, -, hread, happend, hnone, hother⟩ :=
    escape_faithful hs (by decide) (maxSteps - 25)
  obtain ⟨r, q, -, hdeep, -, -, hvalue⟩ := hother (.bool true) nofun hplain
  have hshown : (Value.bool true).toText (((loaded {} "arg".toList []).withDepth 1).withDepth 2).heap =
      .ok (Text.toStr "True".toList) := Value.toText_bool (by decide) true
  have htrue := gives_callStr (s := (loaded {} "arg".toList []).withDepth 1) (maxSteps - 25)
    (.bool true) (by decide)
  obtain rfl : r = .ok (Text.toStr "True".toList) := (Gives.unique hdeep htrue).trans hshown
  rw [← maxSteps_eq 25 (by omega)] at hnone hvalue
  refine ⟨load_of_ofText (ofText_literals [] (by decide) (by decide) (by decide)) rfl rfl, hs,
    by decide, nofun, hplain, f, ?_, hread _, happend _ _, hnone, hvalue⟩
  have htext := hcall "<&lt;".toList .fresh
  rwa [← maxSteps_eq 25 (by omega)] at htext

def nested : Nat → Value
  | 0 => .tuple [] (.number 0)
  | k + 1 => .tuple [nested k] (.number (k + 1))

theorem same_nested {j k : Nat} (h : j ≠ k) : (nested j).same (nested k) = false := by
  cases j <;> cases k <;> simp_all [nested, Value.same, Identity.joins]

/-- Each tuple takes a level. -/
theorem show_nested (h : Heap) (k n : Nat) (seen : List Value)
    (hseen : ∀ w ∈ seen, ∀ j ≤ k, (nested j).same w = false) :
    if k < n then ∃ t, Value.show h n seen (nested k) = .ok t
    else Value.show h n seen (nested k) = Result.raise .recursionError := by
  induction k generalizing n seen with
  | zero =>
    have hnone : seen.any (nested 0).same = false :=
      List.any_eq_false.2 fun w hw => by simp [hseen w hw 0 (Nat.le_refl 0)]
    cases n with
    | zero => rfl
    | succ n =>
      rw [if_pos (Nat.succ_pos n)]
      refine ⟨"()".toList, ?_⟩
      rw [nested] at hnone ⊢
      simp [Value.show, Value.dots?, hnone]
      rfl
  | succ k ih =>
    have hnone : seen.any (nested (k + 1)).same = false :=
      List.any_eq_false.2 fun w hw => by simp [hseen w hw (k + 1) (Nat.le_refl _)]
    cases n with
    | zero => rfl
    | succ n =>
      have hinner := ih n (nested (k + 1) :: seen) (by
        intro w hw j hj
        obtain rfl | hw := List.mem_cons.1 hw
        · exact same_nested (by omega)
        · exact hseen w hw j (by omega))
      have hstep : Value.show h (n + 1) seen (nested (k + 1)) = (do
          return tupleText [← Value.show h n (nested (k + 1) :: seen) (nested k)]) := by
        rw [nested] at hnone ⊢
        simp [Value.show, Value.dots?, hnone]
      rw [hstep]
      simp only [Nat.add_lt_add_iff_right]
      split
      · next hlt =>
        rw [if_pos hlt] at hinner
        obtain ⟨t, ht⟩ := hinner
        exact ⟨_, by rw [ht]; rfl⟩
      · next hle =>
        rw [if_neg hle] at hinner
        rw [hinner]
        rfl

theorem toText_nested (h : Heap) (k : Nat) :
    if k < h.room then ∃ t, (nested k).toText h = .ok t
    else (nested k).toText h = Result.raise .recursionError := by
  have hshow := show_nested h k h.room [] (by simp)
  have htext : (nested k).toText h = (Value.show h h.room [] (nested k)).map Text.toStr := by
    cases k <;> simp only [Value.toText, nested] <;> exact bind_pure_comp _ _
  rw [htext]
  split
  · next hlt =>
    rw [if_pos hlt] at hshow
    obtain ⟨t, ht⟩ := hshow
    exact ⟨t, by rw [ht]; rfl⟩
  · next hle =>
    rw [if_neg hle] at hshow
    rw [hshow]
    rfl

/-- Escaping a value is not escaping its text: there may be room for one call of `str` but not for two calls
in each other. -/
theorem not_escape_eq_escape_str : ¬ ∀ v : Value, v ≠ .none → v.IsPlain → ∀ r,
    Gives (callStr maxSteps v >>= callAt maxSteps 1) (loaded {} "arg".toList []) r →
    Gives (callAt maxSteps 1 v) (loaded {} "arg".toList []) r := by
  intro hall
  let s := loaded {} "arg".toList []
  let v := nested (maxCalls - 2)
  have hs : Escapes s 1 3 := escapes_loaded rfl rfl "arg".toList []
  have hplain : v.IsPlain := isPlain_of_not_belongs rfl
  have hne : v ≠ .none := by
    show nested (983 + 0) ≠ .none
    nofun
  have houter := toText_nested (s.withDepth 1).heap (maxCalls - 2)
  have hinner := toText_nested (s.withDepth 2).heap (maxCalls - 2)
  rw [if_pos (by decide)] at houter
  rw [if_neg (by decide)] at hinner
  obtain ⟨t, ht⟩ := houter
  have hsteps := maxSteps_eq 25 (by omega)
  have hgives := gives_callAt_callStr hs (by decide) (maxSteps - 25) v
  have hraises := gives_escape (n := maxSteps - 25) (P := fun _ => True) (fun _ _ => trivial) hs
    (by decide) hplain trivial
  rw [← hsteps] at hgives hraises
  rw [escapedText_of_ne hne] at hraises
  have hsame := Gives.unique (hall v hne hplain _ hgives) hraises
  have htext : v.toText (s.withDepth (s.heap.depth + 1)).heap = .ok t := ht
  have hnone : v.toText (s.withDepth (s.heap.depth + 2)).heap = Result.raise .recursionError := hinner
  rw [htext, hnone] at hsame
  cases hsame

end Generated
end TemplateEngine
