import TemplateEngine.Proofs.Cache.LiteralText
import TemplateEngine.Proofs.Template.Compiling
import TemplateEngine.Proofs.Template.Start

set_option autoImplicit false

/-!
# Rendering templates

A template of literals, expressions, conditions and loops is compiled to a module whose function gives
what the interpretation of the template gives, for every context: the same text, or the same exception.
The names by which generated code finds what it uses must not stand in the template.
-/
namespace TemplateEngine

open Script Generated

namespace Element

variable {es : List Element} {globals : Table Text Value}

theorem length_statements (value : Phrase → Expr) (es : List Element) :
    (statements value es).length = es.length := by
  induction es with
  | nil => rfl
  | cons e es ih => rw [statements, List.length_cons, List.length_cons, ih]

theorem length_lt_of_interpretAll {n : Nat} {f : Frame} {s t : State} {x : Str}
    (h : interpretAll n f es s = .done x t) : es.length < n := by
  induction n generalizing es s x with
  | zero => cases h
  | succ n ih =>
    cases es with
    | nil => exact Nat.succ_pos n
    | cons e es =>
      rw [interpretAll] at h
      obtain ⟨y, u, -, h⟩ := Run.bind_eq_done h
      obtain ⟨z, w, hz, h⟩ := Run.bind_eq_done h
      obtain ⟨-, rfl⟩ := Outcome.done.inj h
      exact Nat.succ_lt_succ (ih hz)

/-- A call has ended as the interpretation has: with the same text or the same exception, and with the
same text printed. -/
inductive EndsAs : Outcome Value → Outcome Str → Prop
  | done {x : Str} {id : Identity} {t t' : State} (h : t'.printed = t.printed) :
      EndsAs (.done (.text x id) t) (.done x t')
  | raised {e : Raised} {t t' : State} (h : t'.printed = t.printed) : EndsAs (.raised e t) (.raised e t')
  | exhausted (o : Outcome Value) : EndsAs o .exhausted

theorem render_eq_renderBehind (es : List Element) : render es = renderBehind [] es := by
  have hsteps := maxSteps_eq 4 (by omega)
  obtain ⟨n, hn⟩ : ∃ n, maxSteps - 4 = n + 1 := ⟨maxSteps - 4 - 1, by
    have := maxSteps_eq 5 (by omega)
    omega⟩
  funext context
  rw [renderBehind, hn]
  rfl

theorem renderBehind_eq {ss : List Stmt} {context : Data} {v : Value} {s s' : State}
    (hv : Value.ofAllData [context] s = .done [v] s') (hdepth : s'.heap.depth = 0) :
    renderBehind ss es context s =
      match (do
        let _ ← runAll (maxSteps - 4) ⟨some s'.heap.objects.size⟩ ss
        interpretAll (maxSteps - 34 - ss.length) ⟨some s'.heap.objects.size⟩ es : Run Str)
          (startState s' (Stmt.boundAll ss ++ allBound es) v) with
      | .done x t => .done x (t.withDepth 0)
      | .raised e t => .raised e (t.withDepth 0)
      | .exhausted => .exhausted := by
  have hstart : ∀ r : Frame → Run Str, (do
      let f ← Frame.enter none (startBindings (Stmt.boundAll ss ++ allBound es) v)
      let _ ← Run.make (.list #[])
      r f : Run Str) (s'.withDepth (0 + 1)) =
        r ⟨some s'.heap.objects.size⟩ (startState s' (Stmt.boundAll ss ++ allBound es) v) := by
    intro r
    rw [startState, hdepth]
    rfl
  have hfirst : [v].headD .none = v := rfl
  rw [renderBehind, Run.bind_done hv]
  simp only [Run.deeper, hdepth, hfirst, hstart]
  rw [if_pos (by decide)]
  generalize (do
    let _ ← runAll (maxSteps - 4) _ ss
    interpretAll (maxSteps - 34 - ss.length) _ es : Run Str) _ = o
  cases o <;> rfl

theorem length_lt_of_runAll {n : Nat} {f : Frame} {ss : List Stmt} {s t : State}
    (h : runAll n f ss s = .done .normal t) : ss.length < n := by
  induction n generalizing ss s with
  | zero => cases h
  | succ n ih =>
    cases ss with
    | nil => exact Nat.succ_pos n
    | cons c ss =>
      rw [runAll] at h
      obtain ⟨flow, u, -, h⟩ := Run.bind_eq_done h
      cases flow with
      | normal => exact Nat.succ_lt_succ (ih h)
      | leave | next | give v => cases (Outcome.done.inj h).1

theorem allUnaware_outputReserved {ss : List Stmt} (h : Stmt.AllUnaware ownReserved ss) :
    Stmt.AllUnaware outputReserved ss := ⟨fun n hn => not_mem_outputNames (h.names n hn), h.unnamed⟩

/-- Statements in front of those of the elements run alike with and without the list. -/
theorem follows_behind {b : Address} {ss : List Stmt} (n : Nat) (hss : Stmt.AllUnaware ownReserved ss)
    (hnormal : ∀ n f, ∀ {s flow t}, runAll n f ss s = .done flow t → flow = .normal)
    (hes : Avoids ownNames (allNames es)) (hbound : Avoids calledNames (Stmt.boundAll ss ++ allBound es)) :
    Follows b (runAll n ⟨some b⟩ (ss ++ statements Phrase.value es)) (do
      let _ ← runAll n ⟨some b⟩ ss
      interpretAll (n - 30 - ss.length) ⟨some b⟩ es) := by
  rw [avoids_append] at hbound
  intro x s s' hpaired
  have hadmits : Frame.Admits outputReserved (outputObjects b) (Stmt.boundAll ss) ⟨some b⟩ :=
    ⟨b, rfl, fun _ m hm => not_mem_outputNames (not_mem_ownNames (hbound.1 m hm))⟩
  have hadmits' : Frame.Admits ownReserved (ownObjects b) (Stmt.boundAll ss) ⟨some b⟩ :=
    ⟨b, rfl, fun _ => hbound.1⟩
  rcases hpaired.confined ((confinedAt n).runAll _ ss hadmits (allUnaware_outputReserved hss))
      ((confinedAt n).runAll _ ss hadmits' hss) with
    ⟨flow, t, t', hr, hr', -, -, hpaired'⟩ | ⟨e, t, t', hr, hr', ht⟩ | ⟨-, hr'⟩
  · obtain rfl := hnormal _ _ hr
    have hlength := length_lt_of_runAll hr
    rw [Run.bind_done hr']
    rcases Nat.lt_or_ge (n - 30) ss.length with hlt | hle
    · rw [Nat.sub_eq_zero_of_le (Nat.le_of_lt hlt)]
      exact .exhausted _
    by_cases hn : 30 ≤ n
    · have hsplit : n = n - 30 - ss.length + 30 + ss.length := by omega
      rw [hsplit] at hr
      have happend := @runAll_append _ _ _ _ _ (statements Phrase.value es) hr
      rw [← hsplit] at happend
      rw [happend]
      exact (followsAt b _).all es hes hbound.2 _ _ _ hpaired'
    · rw [show n - 30 - ss.length = 0 by omega]
      exact .exhausted _
  · rw [runAll_append_raised hr, Run.bind_raised hr']
    exact .raised ht
  · rw [Run.bind_exhausted hr']
    exact .exhausted _

/-- Calling the function of a module whose function starts with statements gives what the interpretation
behind these gives. -/
theorem call_loaded_behind {ss : List Stmt} (hg : LeadsNowhere globals)
    (hstr : globals.find? "str".toList = none) (hisinstance : globals.find? "isinstance".toList = none)
    (hss : Stmt.AllUnaware ownReserved ss)
    (hnormal : ∀ n f, ∀ {s flow t}, runAll n f ss s = .done flow t → flow = .normal)
    (hes : Avoids ownNames (allNames es)) (hbound : Avoids calledNames (Stmt.boundAll ss ++ allBound es))
    (context : Data) :
    EndsAs ((Script.Module.mk (loaded globals "arg".toList (ss ++ statements Phrase.value es))).call
      (.function 0) [context]) (renderBehind ss es context (loaded globals "arg".toList [])) := by
  obtain ⟨v, s', hv', hgrown⟩ := ofAllData_singleton 4 context (loaded globals "arg".toList [])
    (Nat.le_refl 4)
  have hdepth : s'.heap.depth = 0 := hgrown.depth
  have hsame := Value.confined_ofAllData [context] _ _
    (@matches_loaded _ "arg".toList (ss ++ statements Phrase.value es) hg [])
  have hself := Value.confined_ofAllData [context] _ _
    (@sealed_loaded _ "arg".toList [] hg)
  have hbounded := Value.stays_ofAllData (n := 0) [context] _ (Nat.zero_le _)
    (@bounded_loaded _ "arg".toList (ss ++ statements Phrase.value es) hg)
  have hbounded' := Value.stays_ofAllData (n := 0) [context] _ (Nat.zero_le _)
    (@bounded_loaded _ "arg".toList [] hg) _ _ hv'
  rw [hv'] at hsame hself
  generalize ho : Value.ofAllData [context]
    (loaded globals "arg".toList (ss ++ statements Phrase.value es)) = o at hsame hbounded
  cases hsame with
  | @done s _ _ hapart hmatches hkeeps =>
  cases hself with
  | done _ hapart' hsealed _ =>
  obtain ⟨-, hs, hwithin⟩ := hbounded _ _ rfl
  have hnames : Stmt.boundAll (ss ++ statements Phrase.value es) = Stmt.boundAll ss ++ allBound es := by
    rw [boundAll_append, boundAll_statements]
  have hpaired := @Paired.start _ _ (ss ++ statements Phrase.value es) _ hmatches hsealed hs hbounded'.2.1
    ((escapes_loaded hstr hisinstance _ _).grown (by decide) hgrown) hdepth
    (hmatches.heap.size ▸ hgrown.size) (hapart v (by simp)) (hapart' v (by simp))
    (hwithin v (by simp)) (hnames ▸ hbound)
  have hclosure : s.heap.object? 0 =
      some (.function (renderClosure "arg".toList (ss ++ statements Phrase.value es))) :=
    hkeeps.object? List.mem_cons_self rfl nofun
  have hroom : s.heap.depth < maxCalls := by
    rw [hmatches.heap.depth.symm.trans hdepth]
    decide
  have hsteps := maxSteps_eq 34 (by omega)
  have hfollows := follows_behind (maxSteps - 4) hss hnormal hes hbound _ _ _ hpaired
  rw [renderBehind_eq hv' hdepth, hmatches.heap.size, Module.call, Module.callWithin, Run.bind_done ho]
  rw [show maxSteps - 4 - 30 = maxSteps - 34 by omega, hnames] at hfollows
  generalize hr : runAll (maxSteps - 4) _ (ss ++ _) _ = r at hfollows
  generalize hi : (Bind.bind _ _ : Run Str) _ = i at hfollows ⊢
  cases hfollows with
  | @done x t t' ht =>
    obtain ⟨items, ts, hcollecting, hts, rfl⟩ := ht.collecting
    obtain ⟨_, _, -, hi⟩ := Run.bind_eq_done hi
    have hlength := length_lt_of_interpretAll hi
    have hn : maxSteps - 4 =
        maxSteps - 11 - (ss.length + es.length) + 7 + (ss ++ statements Phrase.value es).length := by
      rw [List.length_append, length_statements]
      omega
    rw [hn] at hr
    obtain ⟨id, u, happly⟩ := apply_renderClosure hclosure hroom hr hcollecting hts
    rw [← hn, show maxSteps - 4 + 4 = maxSteps by omega] at happly
    rw [happly]
    exact .done ht.alike.printed
  | raised ht =>
    rw [show maxSteps - 4 = maxSteps - 8 + 4 by omega] at hr
    have happly := apply_renderClosure_raised hclosure hroom hr
    rw [show maxSteps - 8 + 8 = maxSteps by omega] at happly
    rw [happly]
    exact .raised ht.printed
  | exhausted => exact .exhausted _

/-- Calling the function of a module gives what the interpretation gives. -/
theorem call_loaded (hg : LeadsNowhere globals) (hstr : globals.find? "str".toList = none)
    (hisinstance : globals.find? "isinstance".toList = none) (hes : Avoids ownNames (allNames es))
    (hbound : Avoids calledNames (allBound es)) (context : Data) :
    EndsAs ((Script.Module.mk (loaded globals "arg".toList (statements Phrase.value es))).call
      (.function 0) [context]) (render es context (loaded globals "arg".toList [])) := by
  rw [render_eq_renderBehind]
  refine @call_loaded_behind _ _ [] hg hstr hisinstance ⟨nofun, rfl⟩ ?_ hes hbound context
  intro n f s flow t h
  cases n <;> cases h
  rfl

end Element
end TemplateEngine
