import Mathlib.Data.List.TakeWhile
import TemplateEngine.Proofs.Script.Layout
import TemplateEngine.Script.Opener

set_option autoImplicit false

/-!
# Where statements start

A statement is the first thing on its line: only blanks stand in front of its first token, also if that
token is a string that goes on in later lines. So the indentation that a block takes from the statement
that opens it is blank.
-/
namespace TemplateEngine.Script

namespace LineScan

def BlankBefore (ls : List Text) (row column : Nat) : Prop :=
  ∀ l, ls[row]? = some l → ∀ c ∈ l.take column, isGap c = true

/-- Whether the next token starts a statement, after some events. -/
def fresh : Bool → List Event → Bool
  | b, [] => b
  | b, .margin _ :: es => fresh b es
  | _, .lineEnd :: es => fresh true es
  | _, .token _ :: es => fresh false es

def Starts (P : Nat → Nat → Prop) : Bool → List Event → Prop
  | _, [] => True
  | b, .margin _ :: es => Starts P b es
  | _, .lineEnd :: es => Starts P true es
  | b, .token t :: es => (b = true → P t.row t.column) ∧ Starts P false es

variable {P : Nat → Nat → Prop} {b : Bool}

theorem starts_append (es fs : List Event) :
    Starts P b (es ++ fs) ↔ Starts P b es ∧ Starts P (fresh b es) fs := by
  induction es generalizing b with
  | nil => simp [Starts, fresh]
  | cons e es ih =>
    cases e with
    | margin blanks => exact ih
    | lineEnd => exact ih
    | token t => simp only [List.cons_append, Starts, fresh, ih, and_assoc]

theorem starts_tokens {ts : List Token} (h : ∀ t ∈ ts.head?, b = true → P t.row t.column) :
    Starts P b (ts.map .token) := by
  have hrest : ∀ us : List Token, Starts P false (us.map .token) := by
    intro us
    induction us with
    | nil => trivial
    | cons u us ih => exact ⟨nofun, ih⟩
  cases ts with
  | nil => trivial
  | cons t ts => exact ⟨h t rfl, hrest ts⟩

theorem fresh_tokens {ts : List Token} (h : ts ≠ []) : fresh b (ts.map .token) = false := by
  have hrest : ∀ us : List Token, fresh false (us.map .token) = false := by
    intro us
    induction us with
    | nil => rfl
    | cons u us ih => exact ih
  cases ts with
  | nil => contradiction
  | cons t ts => exact hrest ts

variable {rule : NameRule} {row column : Nat}

theorem place_of_lead_openString {t : Text} {s : OpenString}
    (h : lead rule row column t = .openString s) : s.row = row ∧ s.column = column := by
  have hword : ∀ u, word rule u ≠ .openString s := by
    intro u hu
    unfold word at hu
    split at hu <;> contradiction
  unfold lead at h
  split at h
  · unfold string at h
    split at h
    · split at h
      · contradiction
      · obtain rfl := Lead.openString.inj h
        exact ⟨rfl, rfl⟩
    · split at h
      · contradiction
      · obtain rfl := Lead.openString.inj h
        exact ⟨rfl, rfl⟩
      · exact absurd h (hword _)
  · split at h
    · contradiction
    · split at h
      · contradiction
      · exact absurd h (hword _)

/-- The first token of a line's rest, and a string that the line leaves open if there is none, have only
blanks in front of them if that is so at the start of the rest. -/
theorem first_of_tokens {n : Nat} {p t : Text} (hp : ∀ c ∈ p, isGap c = true) (hcr : '\r' ∉ t)
    (hcolumn : column = p.length) :
    (∀ u ∈ (tokens rule row n column t).1.head?, u.row = row ∧
      ∀ c ∈ (p ++ t).take u.column, isGap c = true) ∧
    ∀ s, tokens rule row n column t = ([], .openString s) → s.row = row ∧
      ∀ c ∈ (p ++ t).take s.column, isGap c = true := by
  cases n with
  | zero => simp [tokens]
  | succ n =>
    have hsplit := List.takeWhile_append_dropWhile (p := isGap) (l := t)
    -- The first token starts behind the blanks, or in front of them if it is no token at all.
    have hgap : ∀ c ∈ (p ++ t).take (column + (t.takeWhile isGap).length), isGap c = true := by
      intro c hc
      have htake : (p ++ t).take (column + (t.takeWhile isGap).length) = p ++ t.takeWhile isGap := by
        rw [hcolumn, List.take_length_add_append]
        congr 1
        exact List.prefix_iff_eq_take.1 (List.takeWhile_prefix isGap) |>.symm
      rw [htake] at hc
      obtain hc | hc := List.mem_append.1 hc
      · exact hp c hc
      · exact List.mem_takeWhile_imp hc
    have hstart : ∀ c ∈ (p ++ t).take column, isGap c = true := by
      intro c hc
      rw [hcolumn, List.take_left] at hc
      exact hp c hc
    simp only [tokens]
    split
    · simp
    · simp
    · simp
    · simp
    · next comment hu =>
      have hmem : ∀ c ∈ comment, c ≠ '\r' := by
        rintro c hc rfl
        refine hcr (hsplit ▸ List.mem_append_right _ ?_)
        rw [hu]
        exact List.mem_cons_of_mem _ hc
      have hall : comment.takeWhile (· ≠ '\r') = comment :=
        List.takeWhile_eq_self_iff.2 fun c hc => by simpa using hmem c hc
      have hnil : ∀ m k, tokens rule row m k [] = ([], .plain) := by
        intro m k
        cases m <;> rfl
      rw [hall, List.drop_length, hnil]
      simp
    · split
      · simpa using hgap
      · next s hs =>
        obtain ⟨hrow, hcol⟩ := place_of_lead_openString hs
        refine ⟨by simp, fun r hr => ?_⟩
        obtain rfl : s = r := by simpa using hr
        rw [hcol]
        exact ⟨hrow, hgap⟩
      · simpa using hstart

theorem starts_finish {st : LineState} {ts : List Token} {e : LineEnd}
    (hfirst : ∀ t ∈ ts.head?, b = true → P t.row t.column)
    (hopen : ∀ s, ts = [] → e = .openString s → b = true → P s.row s.column) :
    Starts P b (finish st (ts, e)).1 ∧ (fresh b (finish st (ts, e)).1 = true →
      ∀ s, (finish st (ts, e)).2.string = some s → P s.row s.column) := by
  have htokens := starts_tokens hfirst
  unfold finish
  cases e with
  | plain =>
    refine ⟨?_, fun _ s hs => nomatch hs⟩
    dsimp only
    split
    · exact htokens
    · exact (starts_append _ _).2 ⟨htokens, trivial⟩
  | backslash => exact ⟨htokens, fun _ s hs => nomatch hs⟩
  | openString r =>
    refine ⟨htokens, fun hfresh s hs => ?_⟩
    obtain rfl := Option.some.inj hs
    by_cases hts : ts = []
    · subst hts
      exact hopen r rfl rfl hfresh
    · rw [fresh_tokens hts] at hfresh
      contradiction

/-- What scanning a line keeps: statements start behind blanks, and so does a string that a line leaves
open where a statement is to start. -/
theorem starts_line {ls : List Text} {l : Text} {st : LineState} (hl : ls[row]? = some l)
    (hcr : '\r' ∉ l)
    (hst : b = true → ∀ s, st.string = some s → BlankBefore ls s.row s.column) :
    Starts (BlankBefore ls) b (line rule row st l).1 ∧
      (fresh b (line rule row st l).1 = true → ∀ s, (line rule row st l).2.string = some s →
        BlankBefore ls s.row s.column) := by
  have hplace : ∀ k, (∀ c ∈ l.take k, isGap c = true) → BlankBefore ls row k := by
    intro k hk m hm
    obtain rfl := Option.some.inj (hl.symm.trans hm)
    exact hk
  have hrest : ∀ p t, l = p ++ t → (∀ c ∈ p, isGap c = true) →
      (∀ u ∈ (rest rule row p.length t).1.head?, b = true → BlankBefore ls u.row u.column) ∧
        ∀ s, (rest rule row p.length t).1 = [] → (rest rule row p.length t).2 = .openString s →
          b = true → BlankBefore ls s.row s.column := by
    intro p t hpt hp
    have htcr : '\r' ∉ t := fun h => hcr (hpt ▸ List.mem_append_right p h)
    obtain ⟨hfirst, hopen⟩ :=
      @first_of_tokens rule row p.length (t.length + 1) p t hp htcr rfl
    rw [← hpt] at hfirst hopen
    constructor
    · intro u hu _
      obtain ⟨hrow, hblank⟩ := hfirst u hu
      rw [hrow]
      exact hplace _ hblank
    · intro s hnil hs _
      obtain ⟨hrow, hblank⟩ := hopen s (Prod.ext hnil hs)
      rw [hrow]
      exact hplace _ hblank
  unfold line
  split
  · next s hs =>
    have hb : b = true → BlankBefore ls s.row s.column := fun hb => hst hb s hs
    unfold continueString
    split
    · exact starts_finish (fun t ht => by
        obtain rfl := Option.some.inj ht
        exact hb) (fun _ hnil => nomatch hnil)
    · split
      · exact ⟨⟨hb, trivial⟩, nofun⟩
      · refine ⟨trivial, fun hfresh r hr => ?_⟩
        obtain rfl := Option.some.inj hr
        exact hb hfresh
  · next hs =>
    split
    · unfold startStatement
      have hblanks : ∀ c ∈ l.takeWhile isGap, isGap c = true := fun c hc => List.mem_takeWhile_imp hc
      have hparts := hrest _ _ List.takeWhile_append_dropWhile.symm hblanks
      dsimp only
      split
      · exact ⟨trivial, fun _ r hr => absurd (hs.symm.trans hr) (by simp)⟩
      · exact ⟨trivial, fun _ r hr => absurd (hs.symm.trans hr) (by simp)⟩
      · exact ⟨trivial, fun _ r hr => absurd (hs.symm.trans hr) (by simp)⟩
      · exact starts_finish hparts.1 hparts.2
    · have hparts := hrest [] l rfl (by simp)
      exact starts_finish hparts.1 hparts.2

theorem starts_lines (all ls : List Text) (hcr : ∀ l ∈ all, '\r' ∉ l) (row : Nat) (st : LineState)
    (b : Bool) (hall : all.drop row = ls)
    (hst : b = true → ∀ s, st.string = some s → BlankBefore all s.row s.column) :
    Starts (BlankBefore all) b (lines rule row st ls).1 := by
  induction ls generalizing row st b with
  | nil => trivial
  | cons l ls ih =>
    have hl : all[row]? = some l := by
      have hfirst : (all.drop row)[0]? = all[row + 0]? := List.getElem?_drop
      rw [hall] at hfirst
      simpa using hfirst.symm
    obtain ⟨hstarts, hnext⟩ :=
      @starts_line b rule row all l st hl (hcr l (List.mem_of_getElem? hl)) hst
    have hdrop : all.drop (row + 1) = ls := by
      rw [← List.drop_drop, hall]
      rfl
    exact (starts_append _ _).2 ⟨hstarts, ih (row + 1) _ _ hdrop hnext⟩

def HasText (ls : List Text) (row : Nat) : Prop := ∃ l, ls[row]? = some l ∧ l ≠ []

theorem row_of_mem_tokens {n : Nat} {t : Text} {u : Token}
    (h : u ∈ (tokens rule row n column t).1) : u.row = row ∧ t ≠ [] := by
  induction n generalizing column t with
  | zero => simp [tokens] at h
  | succ n ih =>
    have hne : t ≠ [] := by
      rintro rfl
      simp [tokens] at h
    refine ⟨?_, hne⟩
    simp only [tokens] at h
    split at h
    · simp at h
    · simp at h
    · simp at h
    · simp at h
    · exact (ih h).1
    · split at h
      · obtain rfl | h := List.mem_cons.1 h
        · rfl
        · exact (ih h).1
      · simp at h
      · obtain rfl | h := List.mem_cons.1 h
        · rfl
        · exact (ih h).1

theorem row_of_tokens_openString {n : Nat} {t : Text} {s : OpenString}
    (h : (tokens rule row n column t).2 = .openString s) : s.row = row ∧ t ≠ [] := by
  induction n generalizing column t with
  | zero => simp [tokens] at h
  | succ n ih =>
    have hne : t ≠ [] := by
      rintro rfl
      simp [tokens] at h
    refine ⟨?_, hne⟩
    simp only [tokens] at h
    split at h
    · simp at h
    · simp at h
    · simp at h
    · simp at h
    · exact (ih h).1
    · split at h
      · exact (ih h).1
      · next hs =>
        obtain rfl := LineEnd.openString.inj h
        exact (place_of_lead_openString hs).1
      · exact (ih h).1

/-- Tokens and strings left open that are in rows holding something. -/
def InText (ls : List Text) (es : List Event) (st : LineState) : Prop :=
  (∀ t, .token t ∈ es → HasText ls t.row) ∧ ∀ s, st.string = some s → HasText ls s.row

theorem inText_finish {ls : List Text} {st : LineState} {ts : List Token} {e : LineEnd}
    (hts : ∀ t ∈ ts, HasText ls t.row) (he : ∀ s, e = .openString s → HasText ls s.row) :
    InText ls (finish st (ts, e)).1 (finish st (ts, e)).2 := by
  have htokens : ∀ t, Event.token t ∈ ts.map Event.token → HasText ls t.row := by
    intro t ht
    obtain ⟨u, hu, hut⟩ := List.mem_map.1 ht
    obtain rfl := Event.token.inj hut
    exact hts u hu
  unfold finish
  cases e with
  | plain =>
    refine ⟨fun t ht => ?_, fun s hs => nomatch hs⟩
    dsimp only at ht
    split at ht
    · exact htokens t ht
    · exact htokens t (by simpa using ht)
  | backslash => exact ⟨htokens, fun s hs => nomatch hs⟩
  | openString r =>
    refine ⟨htokens, fun s hs => ?_⟩
    obtain rfl := Option.some.inj hs
    exact he r rfl

/-- What scanning a line keeps: tokens and open strings are in rows that hold something. -/
theorem inText_line {ls : List Text} {l : Text} {st : LineState} (hl : ls[row]? = some l)
    (hst : ∀ s, st.string = some s → HasText ls s.row) :
    InText ls (line rule row st l).1 (line rule row st l).2 := by
  have hrest : ∀ (k : Nat) (t : Text), (t ≠ [] → l ≠ []) →
      (∀ u ∈ (rest rule row k t).1, HasText ls u.row) ∧
        ∀ s, (rest rule row k t).2 = .openString s → HasText ls s.row := by
    intro k t ht
    refine ⟨fun u hu => ?_, fun s hs => ?_⟩
    · obtain ⟨hrow, hne⟩ := row_of_mem_tokens hu
      exact hrow ▸ ⟨l, hl, ht hne⟩
    · obtain ⟨hrow, hne⟩ := row_of_tokens_openString hs
      exact hrow ▸ ⟨l, hl, ht hne⟩
  unfold line
  split
  · next s hs =>
    have hrow := hst s hs
    unfold continueString
    split
    · next x r hx =>
      have hne : l ≠ [] := by
        rintro rfl
        unfold closing? at hx
        split at hx <;> simp [Token.closeTriple?, Token.close] at hx
      obtain ⟨htokens, hopen⟩ := hrest x.length r fun _ => hne
      refine inText_finish (fun t ht => ?_) hopen
      obtain rfl | ht := List.mem_cons.1 ht
      · exact hrow
      · exact htokens t ht
    · split
      · refine ⟨fun t ht => ?_, fun r hr => nomatch hr⟩
        obtain rfl : t = _ := Event.token.inj (List.mem_singleton.1 ht)
        exact hrow
      · refine ⟨by simp, fun r hr => ?_⟩
        obtain rfl := Option.some.inj hr
        exact hrow
  · split
    · unfold startStatement
      dsimp only
      split
      · exact ⟨by simp, hst⟩
      · exact ⟨by simp, hst⟩
      · exact ⟨by simp, hst⟩
      · have hne : l.dropWhile isGap ≠ [] → l ≠ [] := by
          rintro h rfl
          exact h rfl
        obtain ⟨htokens, hopen⟩ := hrest (l.takeWhile isGap).length _ hne
        obtain ⟨hevents, hstring⟩ := @inText_finish ls st _ _ htokens hopen
        exact ⟨fun t ht => hevents t (by simpa using ht), hstring⟩
    · obtain ⟨htokens, hopen⟩ := hrest 0 l id
      exact inText_finish htokens hopen

theorem inText_lines (all ls : List Text) (row : Nat) (st : LineState) (hall : all.drop row = ls)
    (hst : ∀ s, st.string = some s → HasText all s.row) :
    InText all (lines rule row st ls).1 (lines rule row st ls).2 := by
  induction ls generalizing row st with
  | nil => exact ⟨by simp [lines], hst⟩
  | cons l ls ih =>
    have hl : all[row]? = some l := by
      have hfirst : (all.drop row)[0]? = all[row + 0]? := List.getElem?_drop
      rw [hall] at hfirst
      simpa using hfirst.symm
    obtain ⟨hevents, hstring⟩ := @inText_line rule row all l st hl hst
    have hdrop : all.drop (row + 1) = ls := by
      rw [← List.drop_drop, hall]
      rfl
    obtain ⟨hrest, hlast⟩ := ih (row + 1) _ hdrop hstring
    refine ⟨fun t ht => ?_, hlast⟩
    obtain ht | ht := List.mem_append.1 ht
    · exact hevents t ht
    · exact hrest t ht

theorem starts_of_forall {es : List Event} (h : ∀ t, .token t ∈ es → P t.row t.column) :
    Starts P b es := by
  induction es generalizing b with
  | nil => trivial
  | cons e es ih =>
    have hes : ∀ t, .token t ∈ es → P t.row t.column := fun t ht => h t (List.mem_cons_of_mem e ht)
    cases e with
    | margin blanks => exact ih hes
    | lineEnd => exact ih hes
    | token t => exact ⟨fun _ => h t List.mem_cons_self, ih hes⟩

end LineScan

namespace Opener

open LineScan

theorem start_of_starts {P : Nat → Nat → Prop} {es : List Event} {st st' : State}
    (hes : Starts P st.fresh es) (hst : ∀ r c, st.start = some (r, c) → P r c)
    (h : es.foldlM step st = some st') : ∀ r c, st'.start = some (r, c) → P r c := by
  induction es generalizing st with
  | nil =>
    obtain rfl := Option.some.inj h
    exact hst
  | cons e es ih =>
    obtain ⟨u, hu, hrest⟩ := Option.bind_eq_some_iff.1 h
    cases e with
    | margin blanks =>
      obtain ⟨cs, -, rfl⟩ := Option.map_eq_some_iff.1 hu
      exact @ih { st with columns := cs } hes hst hrest
    | lineEnd =>
      obtain rfl := Option.some.inj hu
      exact @ih { st with fresh := true } hes hst hrest
    | token t =>
      obtain rfl := Option.some.inj hu
      refine ih hes.2 (fun r c hrc => ?_) hrest
      dsimp only at hrc
      split at hrc
      · next hfresh =>
        obtain ⟨rfl, rfl⟩ := Prod.mk.inj (Option.some.inj hrc)
        exact hes.1 hfresh
      · exact hst r c hrc

theorem start?_of_starts {P : Nat → Nat → Prop} {ls : List Text} {row column : Nat}
    (hls : ∀ l ∈ ls, '\n' ∉ l) (hP : Starts P true (lines wordRule 0 {} ls).1)
    (h : start? ls = some (row, column)) (hne : ls ≠ []) : P row column := by
  rw [start?, Text.physicalLines_join hne hls] at h
  obtain ⟨es, hes, h⟩ := Option.bind_eq_some_iff.1 h
  obtain ⟨st, hst, h⟩ := Option.bind_eq_some_iff.1 h
  have hevents : (lines wordRule 0 {} ls).1 = es := by
    unfold events? at hes
    dsimp only at hes
    split at hes
    · exact Option.some.inj hes
    · contradiction
  rw [hevents] at hP
  have hlast : st.start = some (row, column) := by
    split at h
    · exact h
    · contradiction
  exact @start_of_starts P es {} st hP (fun r c hrc => nomatch hrc) hst row column hlast

theorem blank_of_indent? {ls : List Text} {i : Text} (hls : ∀ l ∈ ls, '\n' ∉ l ∧ '\r' ∉ l)
    (h : indent? ls = some i) : ∀ c ∈ i, isGap c = true := by
  obtain ⟨⟨row, column⟩, hstart, h⟩ := Option.bind_eq_some_iff.1 h
  obtain ⟨l, hl, h⟩ := Option.bind_eq_some_iff.1 h
  obtain rfl := Option.some.inj h
  have hne : ls ≠ [] := List.ne_nil_of_mem (List.mem_of_getElem? hl)
  have hstarts := @starts_lines wordRule ls ls (fun l hl => (hls l hl).2) 0 {} true rfl
    (fun _ s hs => nomatch hs)
  exact start?_of_starts (fun l hl => (hls l hl).1) hstarts hstart hne l hl

theorem hasText_of_start? {ls : List Text} {row column : Nat} {l : Text}
    (hls : ∀ l ∈ ls, '\n' ∉ l) (h : start? ls = some (row, column)) (hl : ls[row]? = some l) :
    l ≠ [] := by
  have hne : ls ≠ [] := List.ne_nil_of_mem (List.mem_of_getElem? hl)
  have htext := (@inText_lines wordRule ls ls 0 {} rfl fun s hs => nomatch hs).1
  obtain ⟨m, hm, hmne⟩ := @start?_of_starts (fun r _ => HasText ls r) ls row column hls
    (starts_of_forall htext) h hne
  obtain rfl := Option.some.inj (hl.symm.trans hm)
  exact hmne

end Opener
end TemplateEngine.Script
