import Mathlib.Data.List.Basic
import Mathlib.Data.List.TakeWhile
import TemplateEngine.Scriptlet

set_option autoImplicit false

namespace TemplateEngine

namespace Text

theorem isBlank_of_isLineBreak {c : Char} (h : isLineBreak c = true) : isBlank c = true := by
  unfold isLineBreak at h
  unfold isBlank
  simp only [Bool.or_eq_true, Bool.and_eq_true, decide_eq_true_eq, beq_iff_eq] at h ⊢
  omega

theorem isBlank_of_isIndent {c : Char} (h : isIndent c = true) : isBlank c = true := by
  simp only [isIndent, Bool.or_eq_true, beq_iff_eq] at h
  obtain rfl | rfl := h <;> decide

theorem allBlank_of_all_isIndent {t : Text} (h : t.all isIndent = true) : allBlank t = true :=
  List.all_eq_true.2 fun c hc => isBlank_of_isIndent (List.all_eq_true.1 h c hc)

theorem allBlank_append (s t : Text) : allBlank (s ++ t) = (allBlank s && allBlank t) :=
  List.all_append

theorem head?_trimEndBy {p : Char → Bool} {c : Char} (t : Text) (hc : p c = false) :
    ∃ u, trimEndBy p (c :: t) = c :: u := by
  have hlast : (t.reverse ++ [c]).dropWhile p = t.reverse.dropWhile p ++ [c] := by
    rw [List.dropWhile_append]
    split
    · next h => simp [List.isEmpty_iff.1 h, hc]
    · rfl
  refine ⟨(t.reverse.dropWhile p).reverse, ?_⟩
  rw [trimEndBy, List.reverse_cons, hlast, List.reverse_append]
  rfl

theorem trimEnd_prefix_self (t : Text) : trimEnd t <+: t := by
  have h := List.reverse_prefix.2 (List.dropWhile_suffix isBlank (l := t.reverse))
  rwa [List.reverse_reverse] at h

theorem exists_eq_trimEnd_append (t : Text) : ∃ w, t = trimEnd t ++ w ∧ allBlank w = true := by
  refine ⟨(t.reverse.takeWhile isBlank).reverse, ?_, ?_⟩
  · rw [trimEnd, trimEndBy, ← List.reverse_append, List.takeWhile_append_dropWhile, List.reverse_reverse]
  · rw [allBlank, List.all_reverse]
    exact List.all_takeWhile

theorem allBlank_trimEnd (t : Text) : allBlank (trimEnd t) = allBlank t := by
  obtain ⟨w, hw, hblank⟩ := exists_eq_trimEnd_append t
  have hall := congrArg allBlank hw
  rw [allBlank_append, hblank, Bool.and_true] at hall
  exact hall.symm

theorem trimEnd_of_allBlank {t : Text} (h : allBlank t = true) : trimEnd t = [] := by
  rw [trimEnd, trimEndBy, List.reverse_eq_nil_iff, List.dropWhile_eq_nil_iff]
  exact fun c hc => List.all_eq_true.1 h c (List.mem_reverse.1 hc)

theorem trimEnd_append_of_allBlank {w : Text} (t : Text) (h : allBlank w = true) :
    trimEnd (t ++ w) = trimEnd t := by
  have hw : ∀ c ∈ w.reverse, isBlank c = true := fun c hc =>
    List.all_eq_true.1 h c (List.mem_reverse.1 hc)
  rw [trimEnd, trimEnd, trimEndBy, trimEndBy, List.reverse_append, List.dropWhile_append_of_pos hw]

theorem trimEnd_append_of_not_allBlank (s : Text) {t : Text} (h : allBlank t = false) :
    trimEnd (s ++ t) = s ++ trimEnd t := by
  have hne : (t.reverse.dropWhile isBlank).isEmpty = false := by
    rw [Bool.eq_false_iff, Ne, List.isEmpty_iff, List.dropWhile_eq_nil_iff]
    intro hall
    have hblank : allBlank t = true :=
      List.all_eq_true.2 fun c hc => hall c (List.mem_reverse.2 hc)
    exact Bool.noConfusion (h.symm.trans hblank)
  rw [trimEnd, trimEnd, trimEndBy, trimEndBy, List.reverse_append, List.dropWhile_append, hne]
  simp

theorem trimEnd_trimEnd (t : Text) : trimEnd (trimEnd t) = trimEnd t := by
  obtain ⟨w, hw, hblank⟩ := exists_eq_trimEnd_append t
  have := trimEnd_append_of_allBlank (trimEnd t) hblank
  rw [← hw] at this
  exact this.symm

def startsBlank (t : Text) : Bool := t.head?.any isBlank

theorem exists_trimEnd_cons {c : Char} {u : Text} (h : allBlank (c :: u) = false) :
    ∃ v, trimEnd (c :: u) = c :: v := by
  obtain ⟨w, hw, -⟩ := exists_eq_trimEnd_append (c :: u)
  cases htrim : trimEnd (c :: u) with
  | nil =>
    rw [← allBlank_trimEnd, htrim] at h
    contradiction
  | cons d v =>
    rw [htrim] at hw
    obtain ⟨rfl, -⟩ := List.cons.inj hw
    exact ⟨v, rfl⟩

theorem startsBlank_trimEnd {t : Text} (h : allBlank t = false) : startsBlank (trimEnd t) = startsBlank t := by
  cases t with
  | nil => contradiction
  | cons c u =>
    obtain ⟨v, hv⟩ := exists_trimEnd_cons h
    rw [hv]
    rfl

theorem span_trimEnd {p : Char → Bool} (hp : ∀ c, p c = true → isBlank c = true) {t : Text}
    (h : allBlank t = false) :
    (trimEnd t).takeWhile p = t.takeWhile p ∧ (trimEnd t).dropWhile p = trimEnd (t.dropWhile p) := by
  induction t with
  | nil => contradiction
  | cons c u ih =>
    by_cases hc : p c = true
    · have hu : allBlank u = false := by simpa [allBlank, hp c hc] using h
      have htrim : trimEnd (c :: u) = c :: trimEnd u := trimEnd_append_of_not_allBlank [c] hu
      rw [htrim, List.takeWhile_cons_of_pos hc, List.takeWhile_cons_of_pos hc, List.dropWhile_cons_of_pos hc,
        List.dropWhile_cons_of_pos hc, (ih hu).1, (ih hu).2]
      exact ⟨rfl, rfl⟩
    · obtain ⟨v, hv⟩ := exists_trimEnd_cons h
      rw [List.takeWhile_cons_of_neg hc, List.dropWhile_cons_of_neg hc, hv, List.takeWhile_cons_of_neg hc,
        List.dropWhile_cons_of_neg hc]
      exact ⟨rfl, rfl⟩

theorem indentOf_append {i l : Text} (hi : ∀ c ∈ i, isIndent c = true) :
    indentOf (i ++ l) = i ++ indentOf l :=
  List.takeWhile_append_of_pos hi

theorem indentOf_trimEnd {t : Text} (h : allBlank t = false) : indentOf (trimEnd t) = indentOf t :=
  (span_trimEnd (fun _ => isBlank_of_isIndent) h).1

theorem trim_trimEnd (t : Text) : trim (trimEnd t) = trim t := by
  cases h : allBlank t with
  | true =>
    have hstart : trimStart t = [] :=
      List.dropWhile_eq_nil_iff.2 fun c hc => List.all_eq_true.1 h c hc
    rw [trimEnd_of_allBlank h, trim, trim, hstart]
    rfl
  | false =>
    have hstart : trimStart (trimEnd t) = trimEnd (trimStart t) := (span_trimEnd (fun _ => id) h).2
    rw [trim, hstart, trimEnd_trimEnd, trim]

theorem trim_of_allBlank {t : Text} (h : allBlank t = true) : trim t = [] := by
  rw [← trim_trimEnd, trimEnd_of_allBlank h]
  rfl

theorem trim_surround {v w : Text} (hv : allBlank v = true) (hw : allBlank w = true) (t : Text) :
    trim (v ++ t ++ w) = trim t := by
  have hstart : trimStart (v ++ t) = trimStart t :=
    List.dropWhile_append_of_pos fun c hc => List.all_eq_true.1 hv c hc
  rw [← trim_trimEnd, trimEnd_append_of_allBlank _ hw, trim_trimEnd, trim, hstart, trim]

theorem trim_append {v : Text} (hv : allBlank v = true) (t : Text) : trim (v ++ t) = trim t := by
  have := trim_surround hv (w := []) rfl t
  rwa [List.append_nil] at this

theorem trim_of_startsBlank {t : Text} (h : startsBlank t = false) : trim t = trimEnd t := by
  have hstart : trimStart t = t := by
    cases t with
    | nil => rfl
    | cons c u => exact List.dropWhile_cons_of_neg (Bool.eq_false_iff.1 h)
  rw [trim, hstart]

theorem exists_eq_trim (t : Text) : ∃ v w, t = v ++ trim t ++ w ∧ allBlank v = true ∧ allBlank w = true := by
  obtain ⟨w, hw, hblank⟩ := exists_eq_trimEnd_append (trimStart t)
  refine ⟨t.takeWhile isBlank, w, ?_, List.all_takeWhile, hblank⟩
  rw [List.append_assoc, trim, ← hw]
  exact List.takeWhile_append_dropWhile.symm

theorem mem_of_mem_trim {t : Text} {c : Char} (h : c ∈ trim t) : c ∈ t :=
  (List.dropWhile_sublist isBlank).subset ((trimEnd_prefix_self _).subset h)

theorem trim_trim (t : Text) : trim (trim t) = trim t := by
  obtain ⟨v, w, ht, hv, hw⟩ := exists_eq_trim t
  have := trim_surround hv hw (trim t)
  rw [← ht] at this
  exact this.symm

theorem allBlank_trim (t : Text) : allBlank (trim t) = allBlank t := by
  obtain ⟨v, w, ht, hv, hw⟩ := exists_eq_trim t
  have := congrArg allBlank ht
  rw [allBlank_append, allBlank_append, hv, hw, Bool.true_and, Bool.and_true] at this
  exact this.symm

theorem trim_eq_nil_iff {t : Text} : trim t = [] ↔ allBlank t = true := by
  refine ⟨fun h => ?_, trim_of_allBlank⟩
  rw [← allBlank_trim, h]
  rfl

theorem exists_trim_cons {t : Text} (h : allBlank t = false) : ∃ c u, trim t = c :: u ∧ isBlank c = false := by
  cases hstart : t.dropWhile isBlank with
  | nil =>
    have hall : allBlank t = true := List.all_eq_true.2 (List.dropWhile_eq_nil_iff.1 hstart)
    exact absurd (h.symm.trans hall) Bool.noConfusion
  | cons c u =>
    have hc : isBlank c = false := by
      have := List.head?_dropWhile_not isBlank t
      rw [hstart] at this
      simpa using this
    obtain ⟨v, hv⟩ := head?_trimEndBy u hc
    refine ⟨c, v, ?_, hc⟩
    rw [trim, trimStart, trimStartBy, hstart]
    exact hv

variable {p i s t : Text} {ls is : List Text}

/-- A run of spaces and tabs that starts each line not made of spaces and tabs alone, and of all such runs the
longest, unless there is no such line. -/
structure IsMargin (p : Text) (ls : List Text) : Prop where
  blank : ∀ c ∈ p, isIndent c = true
  starts : ∀ l ∈ ls, l.all isIndent = false → p <+: l
  longest : (∃ l ∈ ls, l.all isIndent = false) → ∀ q : Text, (∀ c ∈ q, isIndent c = true) →
    (∀ l ∈ ls, l.all isIndent = false → q <+: l) → q.length ≤ p.length

theorem prefix_commonStart_iff : p <+: commonStart s t ↔ p <+: s ∧ p <+: t := by
  induction s generalizing p t with
  | nil =>
    have hnil : commonStart [] t = [] := by simp [commonStart]
    rw [hnil]
    exact ⟨fun h => ⟨h, List.prefix_nil.1 h ▸ List.nil_prefix⟩, And.left⟩
  | cons a s ih =>
    cases t with
    | nil => exact ⟨fun h => ⟨List.prefix_nil.1 h ▸ List.nil_prefix, h⟩, And.right⟩
    | cons b t =>
      cases p with
      | nil => exact ⟨fun _ => ⟨List.nil_prefix, List.nil_prefix⟩, fun _ => List.nil_prefix⟩
      | cons c p =>
        rw [commonStart]
        by_cases hab : a = b
        · subst hab
          simp only [if_true, List.cons_prefix_cons, ih]
          exact ⟨fun ⟨hc, hs, ht⟩ => ⟨⟨hc, hs⟩, hc, ht⟩, fun ⟨⟨hc, hs⟩, _, ht⟩ => ⟨hc, hs, ht⟩⟩
        · rw [if_neg hab, List.cons_prefix_cons, List.cons_prefix_cons]
          refine ⟨fun h => absurd (List.prefix_nil.1 h) (List.cons_ne_nil c p), ?_⟩
          rintro ⟨⟨ha, -⟩, hb, -⟩
          exact absurd (ha.symm.trans hb) hab

theorem prefix_foldl_commonStart_iff : p <+: is.foldl commonStart i ↔ p <+: i ∧ ∀ j ∈ is, p <+: j := by
  induction is generalizing i with
  | nil => simp
  | cons j is ih => simp [ih, prefix_commonStart_iff, and_assoc]

theorem prefix_indentOf_iff : p <+: indentOf t ↔ p <+: t ∧ ∀ c ∈ p, isIndent c = true := by
  constructor
  · intro h
    exact ⟨h.trans (List.takeWhile_prefix _), fun c hc => List.mem_takeWhile_imp (h.subset hc)⟩
  · rintro ⟨⟨u, rfl⟩, hp⟩
    rw [indentOf, List.takeWhile_append_of_pos hp]
    exact List.prefix_append _ _

theorem prefix_margin_iff (hls : ∃ l ∈ ls, l.all isIndent = false) :
    p <+: margin ls ↔ (∀ c ∈ p, isIndent c = true) ∧ ∀ l ∈ ls, l.all isIndent = false → p <+: l := by
  obtain ⟨k, hk, hkind⟩ := hls
  have hfilter : k ∈ ls.filter fun l => !l.all isIndent := List.mem_filter.2 ⟨hk, by simpa using hkind⟩
  have hmem : ∀ l, l ∈ (ls.filter fun l => !l.all isIndent) ↔ l ∈ ls ∧ l.all isIndent = false := by
    simp
  rw [margin]
  generalize (ls.filter fun l => !l.all isIndent) = ms at hfilter hmem
  have hstarts : (∀ l ∈ ls, l.all isIndent = false → p <+: l) ↔ ∀ l ∈ ms, p <+: l := by
    simp [hmem]
  rw [hstarts]
  cases ms with
  | nil => contradiction
  | cons m ms =>
    simp only [List.map_cons, prefix_foldl_commonStart_iff, List.forall_mem_map, prefix_indentOf_iff,
      List.forall_mem_cons]
    exact ⟨fun ⟨⟨hm, hp⟩, hms⟩ => ⟨hp, hm, fun l hl => (hms l hl).1⟩,
      fun ⟨hp, hm, hms⟩ => ⟨⟨hm, hp⟩, fun l hl => ⟨hms l hl, hp⟩⟩⟩

theorem isMargin_margin (ls : List Text) : IsMargin (margin ls) ls := by
  by_cases hls : ∃ l ∈ ls, l.all isIndent = false
  · obtain ⟨hblank, hstarts⟩ := (prefix_margin_iff hls).1 List.prefix_rfl
    exact ⟨hblank, hstarts, fun _ q hq hqs => ((prefix_margin_iff hls).2 ⟨hq, hqs⟩).length_le⟩
  · have hnil : margin ls = [] := by
      have hfilter : (ls.filter fun l => !l.all isIndent) = [] :=
        List.filter_eq_nil_iff.2 fun l hl hkind => hls ⟨l, hl, by simpa using hkind⟩
      rw [margin, hfilter]
      rfl
    rw [hnil]
    exact ⟨nofun, fun l hl hkind => absurd ⟨l, hl, hkind⟩ hls, fun h => absurd h hls⟩

end Text

namespace Scriptlet

theorem trimBlankLines_split (ls : List Text) : ∃ before after,
    ls = before ++ Scriptlet.trimBlankLines ls ++ after ∧ (∀ l ∈ before, Text.allBlank l = true) ∧
      ∀ l ∈ after, Text.allBlank l = true := by
  have hback := List.takeWhile_append_dropWhile (p := Text.allBlank)
    (l := (ls.dropWhile Text.allBlank).reverse)
  refine ⟨ls.takeWhile Text.allBlank, ((ls.dropWhile Text.allBlank).reverse.takeWhile Text.allBlank).reverse,
    ?_, fun l hl => List.mem_takeWhile_imp hl, fun l hl => List.mem_takeWhile_imp (List.mem_reverse.1 hl)⟩
  rw [List.append_assoc, Scriptlet.trimBlankLines, ← List.reverse_append, hback, List.reverse_reverse,
    List.takeWhile_append_dropWhile]

theorem mem_of_mem_trimBlankLines {ls : List Text} {l : Text} (h : l ∈ trimBlankLines ls) : l ∈ ls := by
  obtain ⟨before, after, hls, -⟩ := trimBlankLines_split ls
  rw [hls]
  exact List.mem_append_left _ (List.mem_append_right _ h)

theorem getLast?_trimBlankLines {ls : List Text} {l : Text} (h : (trimBlankLines ls).getLast? = some l) :
    Text.allBlank l = false := by
  rw [trimBlankLines, List.getLast?_reverse] at h
  have := List.head?_dropWhile_not Text.allBlank (ls.dropWhile Text.allBlank).reverse
  simpa [h] using this

theorem head?_trimBlankLines {ls : List Text} {l : Text} (h : (trimBlankLines ls).head? = some l) :
    Text.allBlank l = false := by
  have hback := List.takeWhile_append_dropWhile (p := Text.allBlank)
    (l := (ls.dropWhile Text.allBlank).reverse)
  -- The lines that are left start as those do that have only lost blank lines in front.
  have hfront : trimBlankLines ls <+: ls.dropWhile Text.allBlank := by
    refine ⟨((ls.dropWhile Text.allBlank).reverse.takeWhile Text.allBlank).reverse, ?_⟩
    rw [trimBlankLines, ← List.reverse_append, hback, List.reverse_reverse]
  obtain ⟨after, hafter⟩ := hfront
  have := List.head?_dropWhile_not Text.allBlank ls
  rw [← hafter, List.head?_append, h] at this
  simpa using this

end Scriptlet
end TemplateEngine
