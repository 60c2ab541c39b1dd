import TemplateEngine.Proofs.Cache.Interpreting

set_option autoImplicit false

/-!
# Templates of one expression

The text of a directive is put between the brackets of a call. So it shows the value that it has by itself
as long as it has no comma outside brackets, which would part arguments, and does not end in a comment,
which would hide the closing bracket.
-/
namespace TemplateEngine

open Script TemplateEngine.Action

/-- The value of an expression for a context, which is the only variable. Two steps leave out what the
function of a template takes for its output, so that all that is made later has the same place. -/
def Script.Expr.evaluate (e : Expr) (context : Data) : Run Value := do
  let vs ← Value.ofAllData [context]
  Run.deeper do
    let f ← Frame.enter none [("arg".toList, some (vs.headD .none))]
    let _ ← Run.make (.list #[])
    Element.reserve
    eval (maxSteps - 10) f e

namespace Cache

open Generated Element

variable {w : Workspace} {n : Nat} {c : Cache} {location : Path} {place : Place} {t : Text}
  {ts : List Token} {e : Expr} {escaped : Bool}

def expressionTemplate (escaped : Bool) (t : Text) : Text :=
  "<?".toList ++ (if escaped then '=' else '-') :: (t ++ "?>".toList)

theorem source_output (p : Phrase) :
    Element.source [.output escaped p] = expressionTemplate escaped p.text := by
  cases escaped <;>
    simp [Element.source, parts, part, Part.source, Part.allSegments, Part.segments, expressionTemplate,
      Segment.sourceOf, Segment.source, Delimiters.standard]

/-- How the value of the only expression is shown. -/
theorem render_output {p : Phrase} (escaped : Bool) {context : Data} {s s' : State} {v : Value}
    (h : p.value.evaluate context s = .done v s') :
    ∃ t, Element.render [.output escaped p] context s =
      match calledText escaped s' v with
      | .ok x => .done x t
      | .error r => .raised r t := by
  obtain ⟨vs, s₁, hvs, h⟩ := Run.bind_eq_done h
  simp only [Run.deeper] at h
  split at h
  · next hroom =>
    split at h
    · next v' s₂ hbody =>
      obtain ⟨rfl, rfl⟩ := Outcome.done.inj h
      obtain ⟨f, s₃, hf, hbody⟩ := Run.bind_eq_done hbody
      obtain ⟨b, s₄, hb, hbody⟩ := Run.bind_eq_done hbody
      obtain ⟨u, s₅, hu, heval⟩ := Run.bind_eq_done hbody
      have hsteps : maxSteps - 34 = maxSteps - 36 + 1 + 1 := by decide +kernel
      have hmore : maxSteps - 10 = maxSteps - 36 + 26 := by decide +kernel
      rw [hmore] at heval
      generalize maxSteps - 36 = k at hsteps heval
      have hone : ∃ t, interpret (k + 1) f (.output escaped p) s₄ =
          match calledText escaped s₂ v' with
          | .ok x => .done x t
          | .error r => .raised r t := by
        rw [interpret, Run.bind_done hu, Run.bind_done heval]
        cases hcalled : calledText escaped s₂ v' <;> exact ⟨_, by simp only [showing, hcalled]; rfl⟩
      have hall : ∃ t, interpretAll (k + 1 + 1) f [.output escaped p] s₄ =
          match calledText escaped s₂ v' with
          | .ok x => .done x t
          | .error r => .raised r t := by
        obtain ⟨t, hone⟩ := hone
        refine ⟨t, ?_⟩
        rw [interpretAll]
        cases hcalled : calledText escaped s₂ v' with
        | ok x =>
          rw [hcalled] at hone
          rw [Run.bind_done hone, interpretAll]
          exact congrArg (Outcome.done · t) (List.append_nil x)
        | error r =>
          rw [hcalled] at hone
          exact Run.bind_raised hone
      obtain ⟨t, hall⟩ := hall
      have hbindings : bindings [.output escaped p] (vs.headD .none) =
          [("arg".toList, some (vs.headD .none))] := rfl
      have hdepth : calledText escaped (s₂.withDepth s₁.heap.depth) v' = calledText escaped s₂ v' := rfl
      refine ⟨t.withDepth s₁.heap.depth, ?_⟩
      rw [Element.render, Run.bind_done hvs]
      simp only [Run.deeper, if_pos hroom, hbindings]
      rw [Run.bind_done hf, Run.bind_done hb, hsteps, hall, hdepth]
      cases calledText escaped s₂ v' <;> rfl
    · contradiction
    · contradiction
  · contradiction

/-- A directive shows the value that its expression has by itself, whatever the context. The expression is
without commas outside brackets and does not end in a comment, does not name what generated code is made of,
and leaves room for the brackets around it. -/
theorem renders_expression (h : Loadable w n c location place (expressionTemplate escaped t))
    (hhere : ∀ x ∈ w.here, '\x00' ∉ x) (hstandard : c.delimiters = .standard) (halone : Expr.Alone t ts e)
    (hcomment : ¬ Outline.EndsInComment t) (hmarker : ¬ "?>".toList <:+: t) (hnull : '\x00' ∉ t)
    (hbrackets : Outline.bracketsFit 2 ts = true) (hnesting : Fits [outputStatement escaped e])
    (hnames : Avoids ownNames e.fold.names) :
    ∃ ref, KeptUnder w c place (expressionTemplate escaped t) ref ∧ ∀ context v s,
      e.fold.evaluate context (loaded (c.store.globals ref) "arg".toList []) = .done v s →
        ∀ x, Renders w n location context x ↔ calledText escaped s v = .ok x := by
  obtain ⟨p, rfl, rfl, rfl⟩ := exists_phrase halone hcomment hnull
  have hwritten : Written [.output escaped p] :=
    ⟨⟨trivial, by simp [isLiteral], trivial⟩, by simpa [allPhrases, phrases] using hmarker⟩
  have hlimits : WithinLimits [.output escaped p] :=
    ⟨by simpa [allPhrases, phrases] using hbrackets,
      by simp [allOutlines, Element.outlines, Outline.allHeight, Outline.height, Outline.maxColumns], hnesting⟩
  rw [← source_output] at h ⊢
  obtain ⟨ref, u, hkept, hload, hholds⟩ := load_source h hhere hstandard hwritten hlimits
  refine ⟨ref, hkept, fun context v s hvalue x => ?_⟩
  have hends := @call_source [.output escaped p]
    (by simpa [Element.allNames, names, Phrase.value] using hnames) (by simp [allBound, bound, Avoids])
    c.store ref context
  obtain ⟨t, hrender⟩ := render_output (p := p) escaped hvalue
  rw [hrender] at hends
  have hshows : Shows ((Script.Module.mk (loaded (c.store.globals ref) "arg".toList
      (statements Phrase.value [.output escaped p]))).call (.function 0) [context])
      (calledText escaped s v) := by
    generalize Script.Module.call _ _ _ = r at hends
    cases hcalled : calledText escaped s v with
    | ok y =>
      rw [hcalled] at hends
      cases hends
      exact ⟨_, _, rfl⟩
    | error r =>
      rw [hcalled] at hends
      cases hends
      exact ⟨_, rfl⟩
  rw [renders_iff_of_shows hload hholds hshows]
  cases calledText escaped s v <;> simp [Except.toOption]

/-- An expression may stand on several lines. -/
theorem renders_expression_lines :
    Renders (alone (single .standard "<?=(arg\n  )\n?>".toList)) 0 (Path.ofText ['t'])
      (.text [.char 'a']) [.char 'a'] := by
  obtain ⟨ref, -, h⟩ := @renders_expression _ _ _ _ _ "(arg\n  )\n".toList
    [⟨.operator, ['('], 0, 0⟩, ⟨.name, "arg".toList, 0, 1⟩, ⟨.operator, [')'], 1, 2⟩]
    (.grouped (.name "arg".toList)) true
    (loadable_single .standard "<?=(arg\n  )\n?>".toList) (by simp [alone]) rfl
    ⟨⟨[], by decide +kernel⟩, [.symbol .parenOpen, .name "arg".toList, .symbol .parenClose],
      by decide +kernel, rfl⟩
    (by unfold Outline.EndsInComment; decide +kernel) (by decide) (by decide) (by decide +kernel)
    ⟨by decide, by decide, rfl⟩ (by unfold Avoids; decide)
  have hvalue : ∃ v s, (Expr.grouped (.name "arg".toList)).fold.evaluate (.text [.char 'a'])
      (loaded ((single .standard "<?=(arg\n  )\n?>".toList).store.globals ref) "arg".toList []) = .done v s ∧
        calledText true s v = .ok [.char 'a'] := ⟨_, _, rfl, rfl⟩
  obtain ⟨v, s, hvalue, htext⟩ := hvalue
  exact (h _ v s hvalue _).2 htext

end Cache
end TemplateEngine
