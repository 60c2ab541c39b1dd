import TemplateEngine.Cache
import TemplateEngine.Proofs.Store.Holding

set_option autoImplicit false

/-!
# Identities as names

An identity is a code for a place: every character has a word of its own, and no word starts another one,
so a place is read back from its identity. The words have no slash, dot or colon. Two locations that name
different places therefore have different identities, references and files, and the file of a template is
one of the work area itself, whatever the location is.
-/
namespace TemplateEngine

namespace Identity

def decode : Text → Text
  | '_' :: '_' :: t => '/' :: decode t
  | '_' :: '5' :: 'f' :: t => '_' :: decode t
  | '_' :: '2' :: 'd' :: t => '-' :: decode t
  | '_' :: '3' :: 'a' :: t => ':' :: decode t
  | '_' :: '5' :: 'c' :: t => '\\' :: decode t
  | '-' :: t => '.' :: decode t
  | c :: t => c :: decode t
  | [] => []

theorem decode_encodeChar (c : Char) (t : Text) : decode (encodeChar c ++ t) = c :: decode t := by
  unfold encodeChar
  split
  · next h => subst h; rfl
  split
  · next h => subst h; rfl
  split
  · next h => subst h; rfl
  split
  · next h => subst h; rfl
  split
  · next h => subst h; rfl
  split
  · next h => subst h; rfl
  · next hunder hdash _ _ _ _ =>
    rw [List.singleton_append, decode]
    all_goals simp_all

theorem decode_ofPlace (p : Place) : decode (ofPlace p) = p.toText := by
  unfold ofPlace
  induction p.toText with
  | nil => rfl
  | cons c t ih => rw [List.flatMap_cons, decode_encodeChar, ih]

theorem ofPlace_injective {p q : Place} (hp : p.Clean) (hq : q.Clean)
    (h : ofPlace p = ofPlace q) : p = q :=
  Place.toText_injective hp hq (by rw [← decode_ofPlace, h, decode_ofPlace])

theorem mem_foldl_enter {names back : List Text} {x : Text} (h : x ∈ names.foldl Path.enter back) :
    x ∈ back ∨ x ∈ names := by
  induction names generalizing back with
  | nil => exact .inl h
  | cons a names ih =>
    obtain h | h := ih h
    · unfold Path.enter at h
      split at h
      · exact .inl (List.mem_of_mem_drop h)
      · obtain rfl | h := List.mem_cons.1 h
        · exact .inr List.mem_cons_self
        · exact .inl h
    · exact .inr (List.mem_cons_of_mem a h)

variable {here p q : Place} {a b identity : Text} {path : Path}

theorem not_mem_of_placeOf (h : placeOf here path = .ok p) (hhere : ∀ x ∈ here, '\x00' ∉ x) :
    ∀ x ∈ p, '\x00' ∉ x := by
  unfold placeOf at h
  split at h
  · contradiction
  · next hnames =>
    obtain rfl := Except.ok.inj h
    intro x hx
    obtain hx | hx := mem_foldl_enter (List.mem_reverse.1 hx)
    · refine hhere x ?_
      unfold Path.start at hx
      split at hx
      · exact List.mem_reverse.1 hx
      · contradiction
    · intro hc
      exact hnames (List.any_eq_true.2 ⟨x, hx, List.contains_iff_mem.2 hc⟩)

theorem clean_of_placeOf (hhere : here.Clean) (h : placeOf here (.ofText a) = .ok p) : p.Clean := by
  unfold placeOf at h
  split at h
  · contradiction
  · obtain rfl := Except.ok.inj h
    exact Path.clean_resolve hhere a

/-- A place is the one that its own text names. -/
theorem placeOf_toText (hp : p.Clean) (hnull : ∀ x ∈ p, '\x00' ∉ x) :
    placeOf here (.ofText p.toText) = .ok p := by
  have hnames : ¬ (p.any fun n => n.contains '\x00') = true := by
    intro h
    obtain ⟨x, hx, hc⟩ := List.any_eq_true.1 h
    exact hnull x hx (List.contains_iff_mem.1 hc)
  have hresolve : p.toPath.resolve here = p := by
    simp [Path.resolve, Path.start, Place.toPath, Path.foldl_enter_of_clean hp]
  rw [Path.ofText_toText hp, placeOf, hresolve]
  exact if_neg hnames

theorem ofLocation_eq (ha : a ≠ []) :
    ofLocation here a = ofPlace <$> placeOf here (.ofText a) := if_neg ha

theorem ofLocation_of_placeOf (ha : a ≠ []) (h : placeOf here (.ofText a) = .ok p) :
    ofLocation here a = .ok (ofPlace p) := by
  rw [ofLocation_eq ha, h]
  rfl

theorem exists_of_ofLocation (h : ofLocation here a = .ok identity) :
    ∃ p, placeOf here (.ofText a) = .ok p ∧ ofPlace p = identity := by
  unfold ofLocation at h
  split at h
  · contradiction
  · cases hp : placeOf here (.ofText a) with
    | error e =>
      rw [hp] at h
      contradiction
    | ok p =>
      rw [hp] at h
      exact ⟨p, rfl, Except.ok.inj h⟩

theorem ofLocation_eq_iff (hhere : here.Clean) (ha : a ≠ []) (hb : b ≠ []) :
    ofLocation here a = ofLocation here b ↔
      placeOf here (.ofText a) = placeOf here (.ofText b) := by
  rw [ofLocation_eq ha, ofLocation_eq hb]
  constructor
  · intro h
    cases hp : placeOf here (.ofText a) with
    | error e =>
      cases hq : placeOf here (.ofText b) with
      | error f =>
        rw [hp, hq] at h
        exact congrArg Except.error (Except.error.inj h)
      | ok q =>
        rw [hp, hq] at h
        contradiction
    | ok p =>
      cases hq : placeOf here (.ofText b) with
      | error f =>
        rw [hp, hq] at h
        contradiction
      | ok q =>
        rw [hp, hq] at h
        have hpq := ofPlace_injective (clean_of_placeOf hhere hp) (clean_of_placeOf hhere hq)
          (Except.ok.inj h)
        rw [hpq]
  · exact congrArg _

theorem identity_handle (w : Workspace) (n : Nat) (ha : a ≠ []) :
    ((Cache.handle n (.ofText a)).exec w).1.map Handle.identity =
      (ofLocation w.here a).mapError .location := by
  rw [ofLocation_eq ha]
  simp only [Cache.handle, Store.resolve, Action.exec_bind, Action.exec_get, Action.exec_ofExcept]
  cases placeOf w.here (.ofText a) <;> rfl

theorem not_colon_encodeChar (c : Char) : ':' ∉ encodeChar c := by
  unfold encodeChar
  split_ifs with _ _ hcolon _ _ _
  iterate 6 decide
  simp [Ne.symm hcolon]

/-- A text that stands as it is in a reference and in the name of a file: the file that keeps the code of
its template is one of the work area, whatever that is, and the text is its name without the suffix. -/
structure Confined (identity : Text) : Prop where
  ne_nil : identity ≠ []
  no_slash : '/' ∉ identity
  no_dot : '.' ∉ identity
  no_colon : ':' ∉ identity
  path_eq : ∀ workArea, Artifact.path workArea identity =
    Place.toPath (workArea ++ [identity ++ Artifact.suffix])
  stem : ∀ workArea, (Artifact.path workArea identity).stem = identity

theorem confined_ofPlace (p : Place) : Confined (ofPlace p) := by
  have hplain := plain_ofPlace p
  have hchars : ∀ c, (∀ x, c ∉ encodeChar x) → c ∉ ofPlace p := by
    intro c h hc
    obtain ⟨x, -, hx⟩ := List.mem_flatMap.1 hc
    exact h x hx
  exact {
    ne_nil := hplain.ne_nil
    no_slash := hplain.no_slash
    no_dot := hchars '.' fun x => (plain_encodeChar x).2
    no_colon := hchars ':' not_colon_encodeChar
    path_eq := fun workArea => Artifact.path_eq hplain
    stem := fun workArea => congrArg Prod.snd (Artifact.key_path hplain) }

/-- Two texts that name the same file or stand in the same reference are the same. -/
theorem Confined.eq_of_shared {i j : Text} (hi : Confined i) (hj : Confined j)
    (h : (∃ workArea workArea', Artifact.path workArea i = Artifact.path workArea' j) ∨
      Artifact.reference i = Artifact.reference j) : i = j := by
  rcases h with ⟨workArea, workArea', h⟩ | h
  · rw [← hi.stem workArea, h, hj.stem]
  · exact Artifact.reference_injective h

/-- Identities are faithful and confined. Paths start at a place as the system gives it. -/
theorem ofLocation_faithful (hhere : here.Clean) (hnull : ∀ x ∈ here, '\x00' ∉ x) (ha : a ≠ [])
    (hb : b ≠ []) :
    (ofLocation here a = ofLocation here b ↔
      placeOf here (.ofText a) = placeOf here (.ofText b)) ∧
    (∀ p, placeOf here (.ofText a) = .ok p →
      placeOf here (.ofText p.toText) = .ok p ∧ ofLocation here a = .ok (ofPlace p) ∧
      ofLocation here p.toText = ofLocation here a) ∧
    (∀ (w : Workspace) (n : Nat), w.here = here →
      ((Cache.handle n (.ofText a)).exec w).1.map Handle.identity =
        (ofLocation here a).mapError .location) ∧
    (∀ i, ofLocation here a = .ok i → Confined i ∧ ∀ j, ofLocation here b = .ok j →
      (∃ workArea workArea', Artifact.path workArea i = Artifact.path workArea' j) ∨
        Artifact.reference i = Artifact.reference j →
      placeOf here (.ofText a) = placeOf here (.ofText b)) := by
  refine ⟨ofLocation_eq_iff hhere ha hb, fun p hp => ?_, fun w n hw => ?_, fun i hi => ?_⟩
  · have hsame : placeOf here (.ofText p.toText) = .ok p :=
      placeOf_toText (clean_of_placeOf hhere hp) (not_mem_of_placeOf hp hnull)
    have hi := ofLocation_of_placeOf ha hp
    have htext : p.toText ≠ [] := by simp [Place.toText, Place.toPath, Path.toText, Path.rootText]
    exact ⟨hsame, hi, (ofLocation_of_placeOf htext hsame).trans hi.symm⟩
  · rw [identity_handle w n ha, hw]
  · obtain ⟨p, -, hpi⟩ := exists_of_ofLocation hi
    have hci : Confined i := hpi ▸ confined_ofPlace p
    refine ⟨hci, fun j hj h => ?_⟩
    obtain ⟨q, -, hqj⟩ := exists_of_ofLocation hj
    have hcj : Confined j := hqj ▸ confined_ofPlace q
    have hij := hci.eq_of_shared hcj h
    exact (ofLocation_eq_iff hhere ha hb).1 (by rw [hi, hj, hij])

/-- One place written in two ways, and two places that only an underscore or a dash keeps apart. -/
theorem ofLocation_faithful_dots :
    ofLocation ["w".toList] "t/../a_.b".toList = .ok "__w__a_5f-b".toList ∧
    ofLocation ["w".toList] "t/../a_.b".toList = ofLocation ["w".toList] "//w/./a_.b".toList ∧
    ofLocation ["w".toList] "t/../a_.b".toList ≠ ofLocation ["w".toList] "a_-b".toList := by
  have hhere : Place.Clean ["w".toList] := by
    intro n hn
    obtain rfl := List.mem_singleton.1 hn
    exact ⟨⟨by decide, by decide, by decide⟩, by decide⟩
  have hnull : ∀ x ∈ ["w".toList], '\x00' ∉ x := by decide
  obtain ⟨hsame, hplace, -⟩ := @ofLocation_faithful _ "t/../a_.b".toList "//w/./a_.b".toList
    hhere hnull (by decide) (by decide)
  obtain ⟨hother, -⟩ := @ofLocation_faithful _ "t/../a_.b".toList "a_-b".toList
    hhere hnull (by decide) (by decide)
  exact ⟨(hplace ["w".toList, "a_.b".toList] rfl).2.1, hsame.2 rfl,
    fun h => absurd (Except.ok.inj (hother.1 h)) (by decide)⟩

end Identity
end TemplateEngine
