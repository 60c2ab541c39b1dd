import TemplateEngine.Proofs.Script.Running
import TemplateEngine.Script.Folding
import TemplateEngine.Script.Grammar.Placement

set_option autoImplicit false

/-!
# How statements end where they stand

A statement that stands where it may leaves no loop and gives nothing but where there is a loop or a
function around it. So the statements of a program end normally if they end.
-/
namespace TemplateEngine.Script

open Grammar

variable {α β : Type}

def Run.Ensures (P : α → Prop) (x : Run α) : Prop := ∀ s a t, x s = .done a t → P a

namespace Run.Ensures

variable {P : α → Prop} {Q : β → Prop} {x : Run α} {f : α → Run β}

theorem pure {a : α} (ha : P a) : Ensures P (Pure.pure a : Run α) := by
  intro s b t h
  obtain ⟨rfl, -⟩ := Outcome.done.inj h
  exact ha

theorem bind (hf : ∀ a, Ensures Q (f a)) : Ensures Q (x >>= f) := by
  intro s b t h
  obtain ⟨a, u, -, h⟩ := Run.bind_eq_done h
  exact hf a u b t h

/-- What the first run ensures may be used of what comes behind it. -/
theorem bind_of (hx : Ensures P x) (hf : ∀ a, P a → Ensures Q (f a)) : Ensures Q (x >>= f) := by
  intro s b t h
  obtain ⟨a, u, ha, h⟩ := Run.bind_eq_done h
  exact hf a (hx s a u ha) u b t h

theorem raise (c : ExceptionClass) (arguments : List Value) : Ensures P (Run.raise c arguments : Run α) :=
  fun _ _ _ h => by cases h

theorem raised (e : Raised) : Ensures P (fun s => .raised e s : Run α) := fun _ _ _ h => by cases h

theorem exhausted : Ensures P (Run.exhausted : Run α) := fun _ _ _ h => by cases h

theorem whileHandling (e : Raised) (hx : Ensures P x) : Ensures P (whileHandling e x) := by
  intro s a t h
  unfold Script.whileHandling at h
  cases hr : x { s with handled := some e } with
  | done b u =>
    rw [hr] at h
    obtain ⟨rfl, -⟩ := Outcome.done.inj h
    exact hx _ _ _ hr
  | raised r u =>
    rw [hr] at h
    cases h
  | exhausted =>
    rw [hr] at h
    cases h

theorem orElse {R : Flow → Prop} {x y : Run Flow} {r : Raised → Run Flow} (hx : Ensures R x) (hy : Ensures R y)
    (hr : ∀ e, Ensures R (r e)) : Ensures R fun s =>
      match x s with
      | .done .normal s => y s
      | .raised e s => r e s
      | o => o := by
  intro s flow t h
  dsimp only at h
  cases hxs : x s with
  | done a u =>
    rw [hxs] at h
    cases a with
    | normal => exact hy u flow t h
    | _ =>
      obtain ⟨rfl, rfl⟩ := Outcome.done.inj h
      exact hx s _ _ hxs
  | raised e u =>
    rw [hxs] at h
    exact hr e u flow t h
  | exhausted =>
    rw [hxs] at h
    cases h

theorem finally_ {R : Flow → Prop} {x y : Run Flow} (hx : Ensures R x) (hy : Ensures R y) :
    Ensures R fun s =>
      match x s with
      | .exhausted => .exhausted
      | .done flow s =>
        match y s with
        | .done .normal s => .done flow s
        | r => r
      | .raised e s =>
        match Script.whileHandling e y s with
        | .done .normal s => .raised e s
        | r => r := by
  intro s flow t h
  dsimp only at h
  cases hxs : x s with
  | done a u =>
    rw [hxs] at h
    dsimp only at h
    split at h
    · obtain ⟨rfl, -⟩ := Outcome.done.inj h
      exact hx s _ _ hxs
    · exact hy u flow t h
  | raised e u =>
    rw [hxs] at h
    dsimp only at h
    split at h
    · cases h
    · exact whileHandling e hy u flow t h
  | exhausted =>
    rw [hxs] at h
    cases h

end Run.Ensures

open Run (Ensures)

/-- The end is one that a statement at a place may have. -/
def Flow.MayEnd (p : Grammar.Place) : Flow → Prop
  | .normal => True
  | .leave | .next => p.inLoop = true
  | .give _ => p.inFunction = true

theorem Grammar.Place.of_nest? {p q : Grammar.Place} {n : Nat} (h : p.nest? n = some q) :
    q.inLoop = p.inLoop ∧ q.inFunction = p.inFunction := by
  unfold Grammar.Place.nest? at h
  split at h
  · obtain rfl := Option.some.inj h
    exact ⟨rfl, rfl⟩
  · contradiction

theorem Flow.MayEnd.of_nest? {p q : Grammar.Place} {n : Nat} {flow : Flow} (h : p.nest? n = some q)
    (hflow : flow.MayEnd q) : flow.MayEnd p := by
  obtain ⟨hloop, hfunction⟩ := Grammar.Place.of_nest? h
  cases flow with
  | normal => trivial
  | leave | next => exact hloop.symm.trans hflow
  | give v => exact hfunction.symm.trans hflow

theorem Run.Ensures.of_nest? {p q : Grammar.Place} {n : Nat} {x : Run Flow} (h : p.nest? n = some q)
    (hx : Ensures (Flow.MayEnd q) x) : Ensures (Flow.MayEnd p) x :=
  fun s flow t ht => (hx s flow t ht).of_nest? h

structure EndsAt (n : Nat) : Prop where
  run : ∀ p f s, fits p s = true → Ensures (Flow.MayEnd p) (run n f s)
  runAll : ∀ p f ss, allFit p ss = true → Ensures (Flow.MayEnd p) (runAll n f ss)
  runLoop : ∀ (p q : Grammar.Place) f test body otherwise, q.inFunction = p.inFunction →
    allFit { q with inLoop := true } body = true → allFit p otherwise = true →
    Ensures (Flow.MayEnd p) (runLoop n f test body otherwise)
  runEach : ∀ (p q : Grammar.Place) f c target body otherwise, q.inFunction = p.inFunction →
    allFit { q with inLoop := true } body = true → allFit p otherwise = true →
    Ensures (Flow.MayEnd p) (runEach n f c target body otherwise)
  handle : ∀ p f e hs, handlersFit p hs = true → Ensures (Flow.MayEnd p) (handle n f e hs)

namespace EndsAt

theorem zero : EndsAt 0 := by
  constructor <;> intros <;> exact .exhausted

variable {n : Nat} (h : EndsAt n)
include h

theorem run_succ (p : Grammar.Place) (f : Frame) (s : Stmt) (hs : fits p s = true) :
    Ensures (Flow.MayEnd p) (Script.run (n + 1) f s) := by
  have hnormal : ∀ {x : Run Unit}, Ensures (Flow.MayEnd p) (x >>= fun _ => Pure.pure .normal) :=
    .bind fun _ => .pure trivial
  cases s with
  | attempt body handlers otherwise finally_ =>
    simp only [fits] at hs
    split at hs
    · next q r hq hr =>
      simp only [Bool.and_eq_true] at hs
      obtain ⟨⟨⟨hbody, hotherwise⟩, hhandlers⟩, hfinally⟩ := hs
      exact .finally_ (.orElse (.of_nest? hr (h.runAll r f body hbody))
        (.of_nest? hq (h.runAll q f otherwise hotherwise)) fun e => .bind fun e =>
          .of_nest? hq (h.handle q f e handlers hhandlers)) (.of_nest? hq (h.runAll q f finally_ hfinally))
    · contradiction
  | expression e => exact .bind fun _ => .pure trivial
  | assign targets e => exact .bind fun _ => hnormal
  | update target op e => exact hnormal
  | declare _ | pass => exact .pure trivial
  | leave | next => exact .pure hs
  | give e? =>
    cases e? with
    | none => exact .pure hs
    | some e => exact .bind fun _ => .pure hs
  | raise e cause =>
    refine .bind fun v => ?_
    have hend : ∀ c : Value, Ensures (Flow.MayEnd p)
        (if c.isCause then Run.ofResult (.error v.toRaised) else Run.raise .typeError) := by
      intro c
      split
      · exact .raised _
      · exact .raise _ _
    cases cause with
    | none => exact .bind fun c => hend c
    | some c => exact .bind fun c => hend c
  | raiseAgain =>
    intro s flow t hrun
    simp only [Script.run, raiseAgain] at hrun
    split at hrun <;> cases hrun
  | assert test message =>
    refine .bind fun v => .bind fun b => ?_
    split
    · exact .pure trivial
    · cases message with
      | none => exact .raise _ _
      | some e => exact .bind fun _ => .raise _ _
  | delete targets => exact hnormal
  | branch test yes no =>
    simp only [fits, Bool.and_eq_true] at hs
    refine .bind fun v => .bind fun b => ?_
    split
    · exact h.runAll p f yes hs.1
    · exact h.runAll p f no hs.2
  | loop test body otherwise =>
    simp only [fits] at hs
    split at hs
    · contradiction
    · next q hq =>
      simp only [Bool.and_eq_true] at hs
      exact h.runLoop p q f test body otherwise (Grammar.Place.of_nest? hq).2 hs.1 hs.2
  | each target items body otherwise =>
    simp only [fits] at hs
    split at hs
    · contradiction
    · next q hq =>
      simp only [Bool.and_eq_true] at hs
      exact .bind fun v => .bind fun c =>
        h.runEach p q f c target body otherwise (Grammar.Place.of_nest? hq).2 hs.1 hs.2
  | define x ps body => exact .bind fun _ => hnormal

theorem runAll_succ (p : Grammar.Place) (f : Frame) (ss : List Stmt) (hss : allFit p ss = true) :
    Ensures (Flow.MayEnd p) (Script.runAll (n + 1) f ss) := by
  cases ss with
  | nil => exact .pure trivial
  | cons s ss =>
    simp only [allFit, Bool.and_eq_true] at hss
    rw [Script.runAll]
    refine .bind_of (h.run p f s hss.1) fun flow hflow => ?_
    split
    · exact h.runAll p f ss hss.2
    · exact .pure hflow

theorem runLoop_succ (p q : Grammar.Place) (f : Frame) (test : Expr) (body otherwise : List Stmt)
    (hq : q.inFunction = p.inFunction) (hbody : allFit { q with inLoop := true } body = true)
    (hotherwise : allFit p otherwise = true) :
    Ensures (Flow.MayEnd p) (Script.runLoop (n + 1) f test body otherwise) := by
  rw [Script.runLoop]
  refine .bind fun v => .bind fun b => ?_
  split
  · refine .bind_of (h.runAll _ f body hbody) fun flow hflow => ?_
    cases flow with
    | normal | next => exact h.runLoop p q f test body otherwise hq hbody hotherwise
    | leave => exact .pure trivial
    | give v => exact .pure (hq.symm.trans hflow)
  · exact h.runAll p f otherwise hotherwise

theorem runEach_succ (p q : Grammar.Place) (f : Frame) (c : Cursor) (target : Expr)
    (body otherwise : List Stmt)
    (hq : q.inFunction = p.inFunction) (hbody : allFit { q with inLoop := true } body = true)
    (hotherwise : allFit p otherwise = true) :
    Ensures (Flow.MayEnd p) (Script.runEach (n + 1) f c target body otherwise) := by
  rw [Script.runEach]
  refine .bind fun r => ?_
  split
  · exact h.runAll p f otherwise hotherwise
  · refine .bind fun _ => .bind_of (h.runAll _ f body hbody) fun flow hflow => ?_
    cases flow with
    | normal | next => exact h.runEach p q f _ target body otherwise hq hbody hotherwise
    | leave => exact .pure trivial
    | give v => exact .pure (hq.symm.trans hflow)

theorem handle_taken (p : Grammar.Place) (f : Frame) (e : Raised) (name : Option Text) {body : List Stmt}
    {hs : List Handler}
    (hbody : Ensures (Flow.MayEnd p) (whileHandling e (Script.runAll n f body)))
    (hhs : handlersFit p hs = true) (taken : Bool) :
    Ensures (Flow.MayEnd p) (if taken then
        match name with
        | none => whileHandling e (Script.runAll n f body)
        | some x => do
          f.write x (.exception e.cls e.arguments e.id)
          fun s =>
            match whileHandling e (Script.runAll n f body) s with
            | .exhausted => .exhausted
            | .done flow s => (do f.forget x; return flow : Run Flow) s
            | .raised r s => (do f.forget x; fun s => .raised r s : Run Flow) s
      else Script.handle n f e hs) := by
  split
  · cases name with
    | none => exact hbody
    | some x =>
      refine .bind fun _ s flow t hdone => ?_
      cases hr : whileHandling e (Script.runAll n f body) s with
      | exhausted =>
        rw [hr] at hdone
        cases hdone
      | done a u =>
        rw [hr] at hdone
        exact Ensures.bind (fun _ => .pure (hbody s a u hr)) u flow t hdone
      | raised r u =>
        rw [hr] at hdone
        exact Ensures.bind (fun _ => .raised r) u flow t hdone
  · exact h.handle p f e hs hhs

theorem handle_succ (p : Grammar.Place) (f : Frame) (e : Raised) (hs : List Handler)
    (hhs : handlersFit p hs = true) :
    Ensures (Flow.MayEnd p) (Script.handle (n + 1) f e hs) := by
  cases hs with
  | nil => exact .raised e
  | cons handler hs =>
    obtain ⟨classes, name, body⟩ := handler
    simp only [handlersFit, Bool.and_eq_true] at hhs
    obtain ⟨hhead, hrest⟩ := hhs
    split at hhead
    · contradiction
    · next q hq =>
      have hbody : Ensures (Flow.MayEnd p) (whileHandling e (Script.runAll n f body)) :=
        .whileHandling e (.of_nest? hq (h.runAll q f body hhead))
      have htaken := h.handle_taken p f e name hbody hrest
      unfold Script.handle
      cases classes with
      | none => exact .bind htaken
      | some c => exact .bind fun v => .bind fun cs => .bind htaken

end EndsAt

theorem endsAt (n : Nat) : EndsAt n := by
  induction n with
  | zero => exact .zero
  | succ n ih => exact {
      run := ih.run_succ
      runAll := ih.runAll_succ
      runLoop := ih.runLoop_succ
      runEach := ih.runEach_succ
      handle := ih.handle_succ }

/-- The statements of a program end normally if they end. -/
theorem ensures_normal {ss : List Stmt} (h : allFit {} ss = true) (n : Nat) (f : Frame) :
    Ensures (· = .normal) (runAll n f ss) := by
  intro s flow t hdone
  have hflow := (endsAt n).runAll {} f ss h s flow t hdone
  cases flow with
  | normal => rfl
  | leave | next | give v => cases hflow

theorem isEmpty_foldAll (ss : List Stmt) : (Stmt.foldAll ss).isEmpty = ss.isEmpty := by
  cases ss <;> rfl

theorem isEmpty_foldHandlers (hs : List Handler) : (Stmt.foldHandlers hs).isEmpty = hs.isEmpty := by
  rcases hs with _ | ⟨⟨classes, name, body⟩, hs⟩ <;> rfl

mutual

theorem fits_fold (p : Grammar.Place) (s : Stmt) : fits p s.fold = fits p s := by
  cases s with
  | branch test yes no => simp only [Stmt.fold, fits, allFit_foldAll]
  | loop test body otherwise | each target items body otherwise =>
    simp only [Stmt.fold, fits, allFit_foldAll]
  | attempt body handlers otherwise finally_ =>
    simp only [Stmt.fold, fits, isEmpty_foldAll, isEmpty_foldHandlers, allFit_foldAll, handlersFit_foldHandlers]
  | define x ps body => simp only [Stmt.fold, fits, allFit_foldAll]
  | _ => rfl

theorem allFit_foldAll (p : Grammar.Place) (ss : List Stmt) : allFit p (Stmt.foldAll ss) = allFit p ss := by
  cases ss with
  | nil => rfl
  | cons s ss => rw [Stmt.foldAll, allFit, allFit, fits_fold p s, allFit_foldAll p ss]

theorem handlersFit_foldHandlers (p : Grammar.Place) (hs : List Handler) :
    handlersFit p (Stmt.foldHandlers hs) = handlersFit p hs := by
  rcases hs with _ | ⟨⟨classes, name, body⟩, hs⟩
  · rfl
  · simp only [Stmt.foldHandlers, handlersFit, allFit_foldAll, handlersFit_foldHandlers p hs]

end

end TemplateEngine.Script
