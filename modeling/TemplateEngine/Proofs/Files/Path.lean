import Mathlib.Tactic.SplitIfs
import TemplateEngine.Identity
import TemplateEngine.Store.Artifact

set_option autoImplicit false

/-!
# The text of a place

A place whose names are plain is read back from its text. The places that paths lead to have plain
names, and so have the places at which code is kept: an identity has no slash and no dot.
-/
namespace TemplateEngine

structure Path.IsPlain (name : Text) : Prop where
  ne_nil : name ≠ []
  ne_dot : name ≠ ['.']
  no_slash : '/' ∉ name

/-- A place with plain names, none of which goes back. -/
def Place.Clean (p : Place) : Prop := ∀ name ∈ p, Path.IsPlain name ∧ name ≠ "..".toList

namespace Path

theorem pieces_of_not_mem {a : Text} (h : '/' ∉ a) : pieces a = [a] := by
  induction a with
  | nil => rfl
  | cons c a ih =>
    simp only [List.mem_cons, not_or] at h
    have hc : c ≠ '/' := fun e => h.1 e.symm
    simp [pieces, hc, ih h.2]

theorem pieces_append_slash {a : Text} (h : '/' ∉ a) (t : Text) :
    pieces (a ++ '/' :: t) = a :: pieces t := by
  induction a with
  | nil => simp [pieces]
  | cons c a ih =>
    simp only [List.mem_cons, not_or] at h
    have hc : c ≠ '/' := fun e => h.1 e.symm
    simp [pieces, hc, ih h.2]

theorem pieces_join {names : List Text} (hn : names ≠ []) (h : ∀ n ∈ names, '/' ∉ n) :
    pieces (Text.join ['/'] names) = names := by
  induction names with
  | nil => contradiction
  | cons a names ih =>
    cases names with
    | nil => simpa [Text.join] using pieces_of_not_mem (h a (by simp))
    | cons b names =>
      have hb := ih (by simp) fun n hm => h n (List.mem_cons_of_mem a hm)
      simp only [Text.join, List.append_assoc, List.cons_append, List.nil_append]
      rw [pieces_append_slash (h a (by simp)), hb]

theorem not_mem_of_mem_pieces {t p : Text} (h : p ∈ pieces t) : '/' ∉ p := by
  induction t generalizing p with
  | nil => simp_all [pieces]
  | cons c t ih =>
    by_cases hc : c = '/'
    · simp only [pieces, hc, if_true, List.mem_cons] at h
      obtain rfl | h := h
      · simp
      · exact ih h
    · simp only [pieces, hc, if_false] at h
      split at h
      · obtain rfl := List.mem_singleton.1 h
        simpa using Ne.symm hc
      · next q qs he =>
        obtain rfl | h := List.mem_cons.1 h
        · have hq := ih (p := q) (by simp [he])
          simp [hq, Ne.symm hc]
        · exact ih (by simp [he, h])

theorem isPlain_of_mem_ofText {t name : Text} (h : name ∈ (ofText t).names) : IsPlain name := by
  simp only [ofText, List.mem_filter, Bool.and_eq_true, decide_eq_true_eq, ne_eq] at h
  exact ⟨h.2.1, h.2.2, not_mem_of_mem_pieces h.1⟩

theorem filter_plain {names : List Text} (h : ∀ n ∈ names, IsPlain n) :
    names.filter (fun p => p ≠ [] && p ≠ ['.']) = names :=
  List.filter_eq_self.2 fun n hn => by simp [(h n hn).ne_nil, (h n hn).ne_dot]

/-- A path with plain names is read back from its text. -/
theorem ofText_toText_of_isPlain {p : Path} (h : ∀ n ∈ p.names, IsPlain n) : ofText p.toText = p := by
  obtain ⟨root, names⟩ := p
  cases names with
  | nil => cases root <;> rfl
  | cons a as =>
    have ha := h a List.mem_cons_self
    have hfilter := filter_plain h
    have hpieces := pieces_join (List.cons_ne_nil a as) fun n hm => (h n hm).no_slash
    -- the first name starts with a character other than a slash, so nothing of it belongs to the root
    obtain ⟨c, t, ht, hc⟩ : ∃ c t, Text.join ['/'] (a :: as) = c :: t ∧ c ≠ '/' := by
      obtain ⟨c, t, rfl⟩ := List.exists_cons_of_ne_nil ha.ne_nil
      have hc : c ≠ '/' := fun e => ha.no_slash (by simp [e])
      cases as with
      | nil => exact ⟨c, t, rfl, hc⟩
      | cons b bs => exact ⟨c, t ++ '/' :: Text.join ['/'] (b :: bs), by simp [Text.join], hc⟩
    rw [ht] at hpieces
    cases root with
    | relative =>
      have htext : toText ⟨.relative, a :: as⟩ = c :: t := ht
      have hroot : rootOf (c :: t) = .relative := by simp [rootOf, hc]
      rw [htext, ofText, hroot, hpieces, hfilter]
    | single =>
      have htext : toText ⟨.single, a :: as⟩ = '/' :: c :: t := congrArg (List.cons '/') ht
      have hroot : rootOf ('/' :: c :: t) = .single := by simp [rootOf, hc]
      rw [htext, ofText, hroot, pieces, if_pos rfl, hpieces, List.filter_cons_of_neg (by simp),
        hfilter]
    | double =>
      have htext : toText ⟨.double, a :: as⟩ = '/' :: '/' :: c :: t :=
        congrArg (fun u => '/' :: '/' :: u) ht
      have hroot : rootOf ('/' :: '/' :: c :: t) = .double := by simp [rootOf, hc]
      rw [htext, ofText, hroot, pieces, if_pos rfl, pieces, if_pos rfl, hpieces,
        List.filter_cons_of_neg (by simp), List.filter_cons_of_neg (by simp), hfilter]

theorem ofText_toText {p : Place} (h : p.Clean) : ofText p.toText = p.toPath :=
  ofText_toText_of_isPlain fun n hn => (h n hn).1

theorem clean_foldl_enter {names back : List Text} (hn : ∀ n ∈ names, IsPlain n)
    (hb : Place.Clean back) : Place.Clean (names.foldl enter back) := by
  induction names generalizing back with
  | nil => exact hb
  | cons a names ih =>
    refine ih (fun n hm => hn n (List.mem_cons_of_mem a hm)) fun n hm => ?_
    unfold enter at hm
    split at hm
    · exact hb n (List.mem_of_mem_drop hm)
    · next ha =>
      obtain rfl | hm := List.mem_cons.1 hm
      · exact ⟨hn n (by simp), ha⟩
      · exact hb n hm

theorem clean_resolve {here : Place} (h : here.Clean) (t : Text) :
    ((ofText t).resolve here).Clean := by
  have hs : Place.Clean ((ofText t).start here) := by
    unfold start
    split
    · exact fun n hn => h n (List.mem_reverse.1 hn)
    · simp [Place.Clean]
  intro n hn
  exact clean_foldl_enter (fun m hm => isPlain_of_mem_ofText hm) hs n (List.mem_reverse.1 hn)

theorem foldl_enter_of_clean {names back : List Text} (h : Place.Clean names) :
    names.foldl enter back = names.reverse ++ back := by
  induction names generalizing back with
  | nil => rfl
  | cons a names ih =>
    have ha : enter back a = a :: back := if_neg (h a (by simp)).2
    rw [List.foldl_cons, ha, ih fun n hn => h n (List.mem_cons_of_mem a hn)]
    simp

end Path

namespace Identity

theorem plain_encodeChar (c : Char) : '/' ∉ encodeChar c ∧ '.' ∉ encodeChar c := by
  unfold encodeChar
  split_ifs with _ _ _ _ hs hd
  iterate 6 decide
  simp [Ne.symm hs, Ne.symm hd]

theorem not_mem_ofPlace {p : Place} (h : '\x00' ∉ p.toText) : '\x00' ∉ ofPlace p := by
  have hchar : ∀ c, '\x00' ∈ encodeChar c → '\x00' = c := by
    intro c hc
    unfold encodeChar at hc
    split_ifs at hc
    iterate 6 exact absurd hc (by decide)
    exact List.mem_singleton.1 hc
  intro hc
  obtain ⟨c, hmem, hc⟩ := List.mem_flatMap.1 hc
  exact h (hchar c hc ▸ hmem)

structure Plain (identity : Text) : Prop where
  ne_nil : identity ≠ []
  no_slash : '/' ∉ identity

theorem plain_ofPlace (p : Place) : Plain (ofPlace p) where
  ne_nil := by
    cases p <;> simp [ofPlace, Place.toText, Place.toPath, Path.toText, Path.rootText, encodeChar]
  no_slash := by
    simp only [ofPlace, List.mem_flatMap, not_exists, not_and]
    exact fun c _ => (plain_encodeChar c).1

end Identity

namespace Artifact

def place (workArea : Place) (identity : Text) : Place := workArea ++ [identity ++ suffix]

variable {workArea : Place} {identity : Text}

theorem isPlain_fileName (h : Identity.Plain identity) :
    Path.IsPlain (identity ++ suffix) ∧ identity ++ suffix ≠ "..".toList := by
  have hl : identity.length ≠ 0 := fun e => h.ne_nil (List.eq_nil_of_length_eq_zero e)
  have hs : suffix.length = 3 := rfl
  refine ⟨⟨?_, ?_, ?_⟩, ?_⟩
  · simp [h.ne_nil]
  · intro e
    have := congrArg List.length e
    simp [hs] at this
  · simp [h.no_slash, suffix]
  · intro e
    have := congrArg List.length e
    simp [hs] at this

theorem clean_place (hw : workArea.Clean) (h : Identity.Plain identity) :
    (place workArea identity).Clean := by
  intro n hn
  obtain hn | hn := List.mem_append.1 hn
  · exact hw n hn
  · obtain rfl := List.mem_singleton.1 hn
    exact isPlain_fileName h

theorem path_eq (h : Identity.Plain identity) :
    path workArea identity = (place workArea identity).toPath := by
  obtain ⟨c, t, rfl⟩ := List.exists_cons_of_ne_nil h.ne_nil
  have hc : c ≠ '/' := fun e => h.no_slash (by simp [e])
  have hroot : Path.rootOf (c :: t ++ suffix) = .relative := by simp [Path.rootOf, hc]
  have hplain := (isPlain_fileName h).1
  have hof : Path.ofText (c :: t ++ suffix) = ⟨.relative, [c :: t ++ suffix]⟩ := by
    rw [Path.ofText, hroot, Path.pieces_of_not_mem hplain.no_slash,
      Path.filter_plain (by simpa using hplain)]
  rw [path, hof]
  rfl

variable (identity)

theorem names_path (workArea : Place) : ∃ root names front,
    path workArea identity = ⟨root, names ++ [front ++ suffix]⟩ := by
  have hpieces : ∃ names front, Path.pieces (identity ++ suffix) = names ++ [front ++ suffix] := by
    induction identity with
    | nil => exact ⟨[], [], rfl⟩
    | cons c t ih =>
      obtain ⟨names, front, h⟩ := ih
      rw [List.cons_append, Path.pieces, h]
      split
      · exact ⟨[] :: names, front, rfl⟩
      · cases names with
        | nil => exact ⟨[], c :: front, rfl⟩
        | cons a names => exact ⟨(c :: a) :: names, front, rfl⟩
  obtain ⟨names, front, h⟩ := hpieces
  have hmem : front ++ suffix ∈ Path.pieces (identity ++ suffix) := by rw [h]; simp
  have hplain : Path.IsPlain (front ++ suffix) := by
    refine ⟨by simp [suffix], fun e => ?_, Path.not_mem_of_mem_pieces hmem⟩
    have := congrArg List.length e
    have hlength : suffix.length = 3 := rfl
    simp [hlength] at this
  have hlast := @Path.filter_plain [front ++ suffix] (by simpa using hplain)
  have hnames : (Path.ofText (identity ++ suffix)).names =
      names.filter (fun p => p ≠ [] && p ≠ ['.']) ++ [front ++ suffix] := by
    simp only [Path.ofText, h, List.filter_append, hlast]
  rw [path, Path.append, hnames]
  split
  · exact ⟨_, _, front, by rw [← List.append_assoc]⟩
  · exact ⟨_, _, front, by rw [← hnames]⟩

theorem ofText_toText_path (hw : workArea.Clean) :
    Path.ofText (path workArea identity).toText = path workArea identity := by
  refine Path.ofText_toText_of_isPlain fun n hn => ?_
  rw [path, Path.append] at hn
  split at hn
  · obtain hn | hn := List.mem_append.1 hn
    · exact (hw n hn).1
    · exact Path.isPlain_of_mem_ofText hn
  · exact Path.isPlain_of_mem_ofText hn

theorem suffix_suffix_path (workArea : Place) : suffix <:+ (path workArea identity).toText := by
  have join_suffix : ∀ (names : List Text) (name : Text),
      name <:+ Text.join ['/'] (names ++ [name]) := by
    intro names name
    induction names with
    | nil => exact List.suffix_refl name
    | cons a names ih =>
      obtain ⟨b, rest, he⟩ := List.exists_cons_of_ne_nil (show names ++ [name] ≠ [] by simp)
      have hj : Text.join ['/'] (a :: b :: rest) =
          a ++ ['/'] ++ Text.join ['/'] (b :: rest) := rfl
      rw [List.cons_append, he, hj, ← he]
      exact ih.trans (List.suffix_append _ _)
  obtain ⟨root, names, front, h⟩ := names_path identity workArea
  have ht : (path workArea identity).toText =
      Path.rootText root ++ Text.join ['/'] (names ++ [front ++ suffix]) := by
    rw [h, Path.toText]
    split
    · next hn => simp at hn
    · rfl
  rw [ht]
  exact (List.suffix_append front suffix).trans
    ((join_suffix names _).trans (List.suffix_append _ _))

theorem isModulePath_path (workArea : Place) : isModulePath (path workArea identity) = true := by
  simp only [isModulePath, moduleSuffixes, List.any_cons, Bool.or_eq_true]
  exact .inl (List.isSuffixOf_iff_suffix.2 (suffix_suffix_path identity workArea))

theorem isExtensionPath_path (workArea : Place) :
    isExtensionPath (path workArea identity) = false := by
  rw [isExtensionPath, Bool.eq_false_iff]
  intro he
  have hx := List.isSuffixOf_iff_suffix.1 he
  -- both endings have three characters
  have := List.suffix_of_suffix_length_le hx (suffix_suffix_path identity workArea) (by decide)
  exact absurd (List.IsSuffix.eq_of_length this (by decide)) (by decide)

end Artifact
end TemplateEngine
