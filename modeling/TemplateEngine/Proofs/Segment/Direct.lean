import TemplateEngine.Proofs.Segment.RoundTrip

set_option autoImplicit false

/-!
# Scanning a template by its own text

The scan puts an open marker behind the template. A scanner that looks at the template alone gives the
same segments of every template exactly if the markers are safe: any overlap of the added marker with
itself or with a close marker shows in some template.
-/
namespace TemplateEngine

namespace Text

theorem cut?_self_append (m x : Text) : cut? m (m ++ x) = some ([], x) := by
  simpa using cut?_append_of_first (m := m) (a := []) (b := x) (by simp)

theorem cut?_eq_none_of_length_lt {m t : Text} (h : t.length < m.length) : cut? m t = none := by
  rw [cut?_eq_none_iff]
  intro hin
  have := hin.length_le
  omega

end Text

namespace Scan

variable {d : Delimiters} {t lit u body v : Text}

theorem direct_literal (ho : Text.cut? d.openMarker t = none) : direct d t = literal t := by
  rw [direct]
  split <;> simp_all

theorem direct_unclosed (ho : Text.cut? d.openMarker t = some (lit, u))
    (hc : Text.cut? d.closeMarker u = none) : direct d t = literal lit := by
  rw [direct]
  split
  · simp_all
  · split <;> simp_all

theorem direct_directive (ho : Text.cut? d.openMarker t = some (lit, u))
    (hc : Text.cut? d.closeMarker u = some (body, v)) :
    direct d t = literal lit ++ .ofBody body :: direct d v := by
  rw [direct]
  split
  · simp_all
  · split <;> simp_all

theorem segments_after_of_safe (hs : d.Safe) (size offset : Nat) (t : Text) :
    (after d size (t ++ d.openMarker) offset).segments = direct d t := by
  induction hn : t.length using Nat.strong_induction_on generalizing t offset with
  | h n ih =>
    obtain ⟨hno, ho⟩ | ⟨lit, u, rfl, hlit, ho⟩ := hs.cut_open t
    · have hclose : Text.cut? d.closeMarker [] = none :=
        Text.cut?_eq_none_of_length_lt d.length_close_pos
      rw [direct_literal (Text.cut?_eq_none_iff.2 hno), after_unclosed ho hclose]
    · have hopen := Text.cut?_append u hs.unbordered hlit
      cases hc : Text.cut? d.closeMarker u with
      | none =>
        have hapart := hs.close_not_infix_append (Text.cut?_eq_none_iff.1 hc)
        rw [direct_unclosed hopen hc, after_unclosed ho (Text.cut?_eq_none_iff.2 hapart)]
      | some bv =>
        obtain ⟨body, v⟩ := bv
        have hlen := Text.length_of_cut? hc
        have hv : v.length < n := by
          have := d.length_open_pos
          simp only [← hn, List.length_append]
          omega
        have htail := ih v.length hv (offset + lit.length + d.openMarker.length + body.length
          + d.closeMarker.length) v rfl
        rw [direct_directive hopen hc, after_directive ho (Text.cut?_append_right _ hc)]
        simp [prepend, htail]

/-- A scan that starts at an open marker does not start with a literal. -/
theorem head_after_open (size offset : Nat) (x : Text) :
    ∀ s ∈ (after d size (d.openMarker ++ x) offset).segments.head?, s.isLiteral = false := by
  have ho := Text.cut?_self_append d.openMarker x
  cases hc : Text.cut? d.closeMarker x with
  | none => simp [after_unclosed ho hc, literal]
  | some bv =>
    obtain ⟨body, v⟩ := bv
    simp [after_directive ho hc, literal, prepend, Segment.isLiteral_ofBody]

theorem unbordered_of_eq_direct (h : ∀ source, (ofTemplate d source).segments = direct d source) :
    Text.Unbordered d.openMarker := by
  rintro p hp hne ⟨x, hx⟩ ⟨y, hy⟩
  have hy0 : y ≠ [] := by
    rintro rfl
    exact hne hy
  have hlen := congrArg List.length hy
  rw [List.length_append] at hlen
  have hshort : y.length < d.openMarker.length := by
    have := List.length_pos_iff.2 hp
    omega
  -- The template `y` lacks only the border `p` of a marker, with which the added marker starts.
  have hdirect : direct d y = [.literal y] := by
    rw [direct_literal (Text.cut?_eq_none_of_length_lt hshort), literal, if_neg hy0]
  have hadded : y ++ d.openMarker = d.openMarker ++ x := by
    calc y ++ d.openMarker = y ++ (p ++ x) := by rw [hx]
      _ = (y ++ p) ++ x := (List.append_assoc y p x).symm
      _ = d.openMarker ++ x := by rw [hy]
  have hhead := head_after_open (d := d) y.length 0 x (.literal y)
  rw [← hadded] at hhead
  have hfirst : (ofTemplate d y).segments.head? = some (.literal y) := by
    rw [h y, hdirect]
    rfl
  exact absurd (hhead hfirst) (by simp [Segment.isLiteral])

/-- No close marker ends in the added marker: behind an open marker it would close a directive that the
template by itself leaves open. -/
theorem close_not_infix_of_eq_direct
    (h : ∀ source, (ofTemplate d source).segments = direct d source) {p : Text}
    (hp : ¬ d.closeMarker <:+: p) : ¬ d.closeMarker <:+: p ++ d.openMarker := by
  intro hin
  have hdirect : direct d (d.openMarker ++ p) = [] := by
    rw [direct_unclosed (Text.cut?_self_append _ p) (Text.cut?_eq_none_iff.2 hp)]
    rfl
  have ho := Text.cut?_self_append d.openMarker (p ++ d.openMarker)
  cases hc : Text.cut? d.closeMarker (p ++ d.openMarker) with
  | none => exact Text.cut?_eq_none_iff.1 hc hin
  | some bv =>
    obtain ⟨body, v⟩ := bv
    have hsource := h (d.openMarker ++ p)
    rw [hdirect, ofTemplate, List.append_assoc, after_directive ho hc] at hsource
    simp [prepend, literal] at hsource

theorem safe_of_eq_direct (h : ∀ source, (ofTemplate d source).segments = direct d source) :
    d.Safe where
  unbordered := unbordered_of_eq_direct h
  close_apart := by
    rintro s hs hne ⟨p, hp⟩ ⟨x, hx⟩
    have hlen := congrArg List.length hp
    rw [List.length_append] at hlen
    have hshort : ¬ d.closeMarker <:+: p := by
      intro hin
      have := hin.length_le
      have := List.length_pos_iff.2 hs
      omega
    refine close_not_infix_of_eq_direct h hshort ⟨[], x, ?_⟩
    rw [← hp, ← hx]
    simp
  close_not_infix := by
    have hnil : ¬ d.closeMarker <:+: [] := by simp [d.close_ne_nil]
    simpa using close_not_infix_of_eq_direct h hnil

/-- The scan of every template is the scan of its own text alone exactly if the markers are safe: the
open marker has no border, and no close marker can end in it or stand in it. -/
theorem segments_eq_direct_iff_safe (d : Delimiters) :
    (∀ source, (ofTemplate d source).segments = direct d source) ↔
      (∀ p, p ≠ [] → p ≠ d.openMarker → p <+: d.openMarker → ¬ p <:+ d.openMarker) ∧
      (∀ s, s ≠ [] → s ≠ d.closeMarker → s <:+ d.closeMarker → ¬ s <+: d.openMarker) ∧
      ¬ d.closeMarker <:+: d.openMarker := by
  constructor
  · intro h
    have hs := safe_of_eq_direct h
    exact ⟨hs.unbordered, hs.close_apart, hs.close_not_infix⟩
  · rintro ⟨hopen, hclose, hinfix⟩ source
    exact segments_after_of_safe ⟨hopen, hclose, hinfix⟩ source.length 0 source

end Scan
end TemplateEngine
