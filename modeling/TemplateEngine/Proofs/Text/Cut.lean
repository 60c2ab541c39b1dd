import Mathlib.Data.List.Infix
import TemplateEngine.Text.Basic

set_option autoImplicit false

/-!
# The first occurrence of a text

A cut finds the occurrence in front of which no other one starts. Where a text is followed by a
marker, that occurrence is the marker itself unless a part of the marker is already in the text.
-/
namespace TemplateEngine.Text

/-- No text starts and ends a marker, but the empty one and the marker itself. -/
def Unbordered (m : Text) : Prop := ∀ p, p ≠ [] → p ≠ m → p <+: m → ¬ p <:+ m

theorem unbordered_pair {a b : Char} (h : a ≠ b) : Unbordered [a, b] := by
  intro p hp hne hpre hsuf
  simp only [List.prefix_cons_iff, List.prefix_nil] at hpre
  obtain rfl | ⟨t, rfl, rfl | ⟨u, rfl, rfl⟩⟩ := hpre
  · contradiction
  · simp only [List.suffix_cons_iff, List.suffix_nil] at hsuf
    simp_all
  · contradiction

theorem length_le_of_cut? {m t a b x y : Text} (h : cut? m t = some (a, b))
    (ht : t = x ++ m ++ y) : a.length ≤ x.length := by
  induction t generalizing a b x with
  | nil =>
    unfold cut? at h
    split at h <;> simp_all
  | cons c t ih =>
    unfold cut? at h
    split at h
    · simp only [Option.some.injEq, Prod.mk.injEq] at h
      simp [← h.1]
    · next hp =>
      obtain ⟨⟨a', b'⟩, hab, he⟩ := Option.map_eq_some_iff.1 h
      simp only [Prod.mk.injEq] at he
      obtain ⟨rfl, rfl⟩ := he
      cases x with
      | nil =>
        refine absurd ?_ hp
        rw [ht]
        exact List.isPrefixOf_iff_prefix.2 ⟨y, by simp⟩
      | cons d x =>
        simp only [List.cons_append, List.cons.injEq] at ht
        simpa using ih hab ht.2

theorem cut?_append_of_first {m a b : Text}
    (h : ∀ x y, a ++ m ++ b = x ++ m ++ y → a.length ≤ x.length) :
    cut? m (a ++ m ++ b) = some (a, b) := by
  induction a with
  | nil =>
    cases hm : m ++ b with
    | nil => simp_all [cut?]
    | cons c t =>
      have hp : m.isPrefixOf (c :: t) = true := List.isPrefixOf_iff_prefix.2 ⟨b, hm⟩
      have hd : (c :: t).drop m.length = b := by simp [← hm]
      simp only [List.nil_append, hm, cut?, hp, if_true, hd]
  | cons c a ih =>
    have hp : ¬ m.isPrefixOf (c :: (a ++ m ++ b)) = true := fun hp => by
      obtain ⟨y, hy⟩ := List.isPrefixOf_iff_prefix.1 hp
      have := h [] y (by simpa using hy.symm)
      simp at this
    have hi := ih fun x y hxy => by
      have := h (c :: x) y (by simpa using hxy)
      simpa using this
    simp only [List.append_assoc, List.cons_append] at hp hi ⊢
    simp [cut?, hp, hi]

theorem cut?_eq_some_iff {m t a b : Text} : cut? m t = some (a, b) ↔
    t = a ++ m ++ b ∧ ∀ x y, t = x ++ m ++ y → a.length ≤ x.length := by
  constructor
  · exact fun h => ⟨eq_append_of_cut? h, fun x y => length_le_of_cut? h⟩
  · rintro ⟨rfl, h⟩
    exact cut?_append_of_first h

theorem cut?_isSome_of_append (m x y : Text) : (cut? m (x ++ m ++ y)).isSome := by
  induction x with
  | nil =>
    cases hm : m ++ y with
    | nil => simp_all [cut?]
    | cons c t =>
      have hp : m.isPrefixOf (c :: t) = true := List.isPrefixOf_iff_prefix.2 ⟨y, hm⟩
      simp [hm, cut?, hp]
  | cons c x ih =>
    simp only [List.append_assoc, List.cons_append] at ih ⊢
    by_cases hp : m.isPrefixOf (c :: (x ++ (m ++ y))) <;> simp [cut?, hp, ih]

theorem cut?_eq_none_iff {m t : Text} : cut? m t = none ↔ ¬ m <:+: t := by
  constructor
  · rintro h ⟨x, y, rfl⟩
    have := cut?_isSome_of_append m x y
    rw [h] at this
    cases this
  · intro h
    refine Option.eq_none_iff_forall_ne_some.2 fun ⟨a, b⟩ hab => h ?_
    exact ⟨a, b, (eq_append_of_cut? hab).symm⟩

theorem not_infix_of_cut? {m t a b : Text} (hm : m ≠ []) (h : cut? m t = some (a, b)) :
    ¬ m <:+: a := by
  rintro ⟨x, y, rfl⟩
  have ht := eq_append_of_cut? h
  have hl := length_le_of_cut? h (x := x) (y := y ++ m ++ b) (by simp [ht])
  have := List.length_pos_iff.2 hm
  simp only [List.length_append] at hl
  omega

/-- An occurrence in two texts behind each other lies in one of them or starts in the first and ends
in the second. -/
theorem infix_append {m u v : Text} (h : m <:+: u ++ v) :
    m <:+: u ∨ m <:+: v ∨ ∃ p s, m = p ++ s ∧ p ≠ [] ∧ s ≠ [] ∧ p <:+ u ∧ s <+: v := by
  obtain ⟨x, y, hxy⟩ := h
  rw [List.append_assoc] at hxy
  obtain ⟨z, rfl, hz⟩ | ⟨z, rfl, hz⟩ := List.append_eq_append_iff.1 hxy
  · obtain ⟨w, rfl, hw⟩ | ⟨w, rfl, hw⟩ := List.append_eq_append_iff.1 hz
    · exact .inl ⟨x, w, by simp⟩
    · by_cases hzn : z = []
      · exact .inr (.inl ⟨[], y, by simp [hzn, hw]⟩)
      · by_cases hwn : w = []
        · exact .inl ⟨x, [], by simp [hwn]⟩
        · exact .inr (.inr ⟨z, w, rfl, hzn, hwn, List.suffix_append x z, ⟨y, hw.symm⟩⟩)
  · exact .inr (.inl ⟨z, y, by simp [hz]⟩)

/-- A marker that overlaps no other copy of itself is found behind a text without it. -/
theorem cut?_append {m a : Text} (b : Text) (hu : Unbordered m) (ha : ¬ m <:+: a) :
    cut? m (a ++ m ++ b) = some (a, b) := by
  refine cut?_append_of_first fun x y hxy => ?_
  by_contra hlt
  simp only [List.append_assoc] at hxy
  obtain ⟨z, rfl, -⟩ | ⟨z, rfl, hz⟩ := List.append_eq_append_iff.1 hxy
  · simp at hlt
  · obtain ⟨w, rfl, -⟩ | ⟨w, hw, hmb⟩ := List.append_eq_append_iff.1 hz
    · exact ha ⟨x, w, by simp⟩
    · have hzn : z ≠ [] := by rintro rfl; simp at hlt
      have hwm : w.length < m.length := by
        have := List.length_pos_iff.2 hzn
        simp only [hw, List.length_append]
        omega
      by_cases hwn : w = []
      · exact ha ⟨x, [], by simp [hw, hwn]⟩
      · have hp : w <+: m :=
          List.prefix_of_prefix_length_le ⟨y, hmb.symm⟩ (List.prefix_append m b) hwm.le
        refine hu w hwn (fun he => ?_) hp ⟨z, hw.symm⟩
        simp [he] at hwm

theorem cut?_append_right {m t a b : Text} (s : Text) (h : cut? m t = some (a, b)) :
    cut? m (t ++ s) = some (a, b ++ s) := by
  obtain ⟨rfl, hfirst⟩ := cut?_eq_some_iff.1 h
  refine cut?_eq_some_iff.2 ⟨by simp, fun x y hxy => ?_⟩
  by_contra hlt
  have hle : (x ++ m).length ≤ (a ++ m ++ b).length := by
    simp only [List.length_append]
    omega
  obtain ⟨z, hz⟩ := List.prefix_of_prefix_length_le ⟨y, hxy.symm⟩ (List.prefix_append _ s) hle
  exact hlt (hfirst x z hz.symm)

end TemplateEngine.Text
