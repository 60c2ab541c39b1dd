import TemplateEngine.Proofs.Text.Cut
import TemplateEngine.Segment.Scan

set_option autoImplicit false

/-!
# Templates without an open marker

The scan looks for the open marker in the template with a marker behind it. In a template without the
marker it finds the one behind it, unless the template ends in the start of a copy that goes on in
that marker.
-/
namespace TemplateEngine

namespace Text

/-- A copy of the marker starts within the text and ends in a marker behind the text. -/
def Straddles (m t : Text) : Prop := ∃ p, p ≠ [] ∧ p <:+ t ∧ m <+: p ++ m

instance (m t : Text) : Decidable (Straddles m t) :=
  decidable_of_iff (∃ p ∈ t.tails, p ≠ [] ∧ m <+: p ++ m) <| by
    simp only [List.mem_tails, Straddles]
    exact ⟨fun ⟨p, h, hp, hm⟩ => ⟨p, hp, h, hm⟩, fun ⟨p, hp, h, hm⟩ => ⟨p, h, hp, hm⟩⟩

variable {m t x u : Text}

/-- Where the marker is found: it leaves out an end of the text if a copy straddles, and nothing
otherwise. What is left of the marker behind the text is a part of it. -/
theorem cut?_append_self (h : ¬ m <:+: t) :
    ∃ x u, cut? m (t ++ m) = some (x, u) ∧ x <+: t ∧ (x = t ↔ ¬ Straddles m t) ∧
      u.length < m.length := by
  have hsome := cut?_isSome_of_append m t []
  rw [List.append_nil] at hsome
  obtain ⟨⟨x, u⟩, hcut⟩ := Option.isSome_iff_exists.1 hsome
  have hxu := eq_append_of_cut? hcut
  have hfirst : ∀ y z, t ++ m = y ++ m ++ z → x.length ≤ y.length :=
    fun y z => length_le_of_cut? hcut
  have hx : x <+: t := by
    refine List.prefix_of_prefix_length_le ⟨m ++ u, ?_⟩ (List.prefix_append t m) (hfirst t [] (by simp))
    rw [hxu, List.append_assoc]
  obtain ⟨p, rfl⟩ := hx
  have hpu : p ++ m = m ++ u := by simpa using hxu
  have hlen := congrArg List.length hpu
  simp only [List.length_append] at hlen
  refine ⟨x, u, hcut, List.prefix_append x p, ⟨?_, ?_⟩, ?_⟩
  · rintro hxp ⟨q, hq, ⟨y, hy⟩, z, hz⟩
    have := hfirst y z (by rw [← hy, List.append_assoc, ← hz, List.append_assoc])
    have hxy := congrArg List.length (hy.trans hxp.symm)
    have := List.length_pos_iff.2 hq
    simp only [List.length_append] at hxy
    omega
  · intro hno
    by_cases hp : p = []
    · simp [hp]
    · exact absurd ⟨p, hp, List.suffix_append x p, u, hpu.symm⟩ hno
  · refine Nat.lt_of_not_le fun hle => h ?_
    have hpre : m <+: p :=
      List.prefix_of_prefix_length_le ⟨u, hpu.symm⟩ (List.prefix_append p m) (by omega)
    obtain ⟨q, rfl⟩ := hpre
    exact ⟨x, q, by simp⟩

end Text

namespace Scan

variable {d : Delimiters} {source x u : Text}

theorem after_of_length_lt (size offset : Nat) (h : u.length < d.openMarker.length) :
    (after d size u offset).segments = [] := by
  have hnone : Text.cut? d.openMarker u = none := by
    rw [Text.cut?_eq_none_iff]
    intro hin
    have := hin.length_le
    omega
  unfold after
  split
  · rfl
  · next hcut =>
    rw [hnone] at hcut
    contradiction

/-- What a template without an open marker is scanned as: a literal, and a directive behind it only if
there is a close marker in what is left of the marker behind the template. -/
theorem segments_of_cut? (hcut : Text.cut? d.openMarker (source ++ d.openMarker) = some (x, u))
    (hu : u.length < d.openMarker.length) :
    (ofTemplate d source).segments = literal x ++
      match Text.cut? d.closeMarker u with
      | none => []
      | some (body, _) => [.ofBody body] := by
  unfold ofTemplate after
  split
  · next hnone =>
    rw [hcut] at hnone
    contradiction
  · next y v hyv =>
    rw [hcut] at hyv
    obtain ⟨rfl, rfl⟩ := Prod.mk.inj (Option.some.inj hyv)
    split
    · next hclose => simp [hclose]
    · next body v hclose =>
      have := Text.length_of_cut? hclose
      simp only [hclose, prepend, List.append_assoc]
      rw [after_of_length_lt _ _ (by omega)]
      simp

/-- The literals of a text. -/
theorem literal_eq_map (t : Text) :
    literal t = (if t = [] then [] else [t]).map Segment.literal := by
  unfold literal
  split <;> rfl

theorem flatten_literal (t : Text) : (if t = [] then [] else [t]).flatten = t := by
  split
  · next h => rw [h]; rfl
  · simp

end Scan
end TemplateEngine
