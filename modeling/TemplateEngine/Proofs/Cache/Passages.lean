import TemplateEngine.Proofs.Cache.Interpreting
import TemplateEngine.Proofs.Script.Placement
import TemplateEngine.Proofs.Template.Passages

set_option autoImplicit false

/-!
# Templates behind a passage

A directive with statements in lines of their own runs these as they are, and the rest of the template is
rendered with their variables. Only strings that go over the end of a line would not stay as they are.
-/
namespace TemplateEngine

open Script TemplateEngine.Action

namespace Cache

open Generated Element

variable {w : Workspace} {n : Nat} {c : Cache} {location : Path} {place : Place} {s : Passage}
  {es : List Element}

def RendersBehind (w : Workspace) (n : Nat) (c : Cache) (location : Path) (place : Place) (s : Passage)
    (es : List Element) : Prop :=
  ∃ ref, KeptUnder w c place (sourceBehind s es) ref ∧ ∀ context, GivenAs ((do
      let g ← load n location
      render n g.identity context).exec w).1
    (renderBehind s.value es context (loaded (c.store.globals ref) "arg".toList []))

/-- A template behind a passage renders as the passage runs by itself and the rest is interpreted. Neither of
them names what generated code is made of; `str` may be mentioned, but not bound. The lines of the passage can
be written further in (`Outline.Movable`): no string goes over the end of a line, no joined line goes on into
the blank lines at the end, and no tab stands behind a space in front of a statement. No handler of the passage
gives its exception a name, as `except E as e` does (`Stmt.AllUnaware`): what an exception that has a name
holds is not followed here. -/
theorem renders_behind_passage (h : Loadable w n c location place (sourceBehind s es))
    (hhere : ∀ x ∈ w.here, '\x00' ∉ x) (hstandard : c.delimiters = .standard) (hs : s.IsDirective)
    (hmovable : Outline.Movable s.text) (hw : Written es) (hl : WithinLimitsBehind s es)
    (hss : Stmt.AllUnaware ownReserved s.value) (hnames : Avoids ownNames (allNames es))
    (hbound : Avoids Generated.calledNames (Stmt.boundAll s.value ++ allBound es)) :
    RendersBehind w n c location place s es := by
  have hplaced : Grammar.allFit {} s.value = true := by
    rw [Passage.value, allFit_foldAll]
    exact s.placed
  have hplace := Identity.not_mem_placeOf h.located hhere
  obtain ⟨ref, v, hkept, hload, hholds⟩ := load_of_program_kept h hplace
    (hstandard ▸ ofText_sourceBehind hs hmovable hw hl hplace)
  refine ⟨ref, hkept, fun context => givenAs_of_endsAs hload hholds ?_⟩
  exact call_loaded_behind (leadsNowhere_globals c.store ref)
    (find?_globals c.store ref _ (by simp [Cache.calledNames]))
    (find?_globals c.store ref _ (by simp [Cache.calledNames])) hss
    (fun n f _ _ _ hrun => ensures_normal hplaced n f _ _ _ hrun) hnames hbound context

def countPassage : Passage where
  text := "x = 0\nif x == 0:\n\tx = 1\n\ny = x".toList
  outlines := [.mk [.name "x".toList, .symbol .assign, .int 0] [],
    .mk [.word .if_, .name "x".toList, .symbol (.compare .equal), .int 0, .symbol .colon]
      [.mk [.name "x".toList, .symbol .assign, .int 1] []],
    .mk [.name "y".toList, .symbol .assign, .name "x".toList] []]
  statements := [.assign [.name "x".toList] (.constant (.int 0)),
    .branch (.compare (.name "x".toList) [(.equal, .constant (.int 0))])
      [.assign [.name "x".toList] (.constant (.int 1))] [],
    .assign [.name "y".toList] (.name "x".toList)]
  read := rfl
  parsed := rfl
  placed := rfl
  no_null := by decide

theorem isDirective_countPassage : countPassage.IsDirective where
  feeds := Text.forall_mem_of_all (by decide)
  margin := by decide
  no_close := by decide
  ne_end := by decide
  begins := by decide
  opens_nothing := by decide +kernel

def shownItem : List Element := [.output false itemPhrase.toPhrase]

theorem renders_behind_passage_count :
    Renders (alone (single .standard (sourceBehind countPassage shownItem))) 0 (Path.ofText ['t']) .null
      [.char '1'] := by
  obtain ⟨ref, hkept, h⟩ := @renders_behind_passage _ _ _ _ _ countPassage shownItem
    (loadable_single .standard (sourceBehind countPassage shownItem)) (by simp [alone]) rfl
    isDirective_countPassage (by decide +kernel)
    ⟨⟨trivial, by simp [isLiteral], trivial⟩, by simp [shownItem, allPhrases, phrases]; decide⟩
    ⟨by decide +kernel, by decide, by decide, by decide, by decide, rfl⟩
    ⟨by unfold Avoids; decide +kernel, rfl⟩ (by unfold Avoids; decide +kernel) (by unfold Avoids; decide +kernel)
  have hgiven := h .null
  obtain rfl : reference = ref := Except.ok.inj hkept
  have hvalue : gives ['1'] (renderBehind countPassage.value shownItem .null
      (loaded (MemoryStore.globals reference) "arg".toList [])) = true := by
    decide +kernel
  change GivenAs _ (renderBehind countPassage.value _ _ (loaded (MemoryStore.globals reference) _ _)) at hgiven
  generalize renderBehind _ _ _ _ = o at hgiven hvalue
  generalize hrun : Action.exec _ _ = r at hgiven
  obtain ⟨r, u⟩ := r
  cases hgiven with
  | @text x id k t =>
    obtain rfl := of_decide_eq_true hvalue
    exact ⟨id, k, u, hrun⟩
  | raised => contradiction
  | exhausted => contradiction

end Cache
end TemplateEngine
