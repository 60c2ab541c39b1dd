import TemplateEngine.Script.Evaluate

set_option autoImplicit false

namespace TemplateEngine.Script

namespace Run

variable {α β : Type} {x : Run α} {f : α → Run β} {s t : State}

theorem bind_done {a : α} (h : x s = .done a t) : (x >>= f) s = f a t := by
  change Run.bind x f s = _
  simp only [Run.bind, h]

theorem bind_raised {e : Raised} (h : x s = .raised e t) : (x >>= f) s = .raised e t := by
  change Run.bind x f s = _
  simp only [Run.bind, h]

theorem bind_exhausted (h : x s = .exhausted) : (x >>= f) s = .exhausted := by
  change Run.bind x f s = _
  simp only [Run.bind, h]

theorem bind_eq_done {b : β} (h : (x >>= f) s = .done b t) :
    ∃ a u, x s = .done a u ∧ f a u = .done b t := by
  change Run.bind x f s = _ at h
  rw [Run.bind] at h
  split at h
  · next a u hx => exact ⟨a, u, hx, h⟩
  · cases h
  · cases h

theorem deeper_done {a : α} (hs : s.heap.depth < maxCalls)
    (h : x (s.withDepth (s.heap.depth + 1)) = .done a t) :
    deeper x s = .done a (t.withDepth s.heap.depth) := by
  simp only [deeper, if_pos hs, h]

theorem deeper_raised {e : Raised} (hs : s.heap.depth < maxCalls)
    (h : x (s.withDepth (s.heap.depth + 1)) = .raised e t) :
    deeper x s = .raised e (t.withDepth s.heap.depth) := by
  simp only [deeper, if_pos hs, h]

theorem settled_bind_done {f : α → Run Value} {a : α} (h : x s = .done a t) :
    settled (x >>= f) s = settled (f a) t := by
  change Run.bind (Run.bind x f) settle s = Run.bind (f a) settle t
  simp only [Run.bind, h]

end Run

variable {n : Nat} {f : Frame} {s t : State}

theorem Frame.read_builtin {x : Text} {v : Value}
    (h : findVariable s.heap x (s.heap.objects.size + 1) f.scope = none)
    (hg : s.globals.find? x = none) (hv : Value.builtin? x = some v) :
    f.read x s = .done v s := by
  simp only [Frame.read, h, hg, hv]

theorem eval_call {e : Expr} {es : List Argument} {v : Value} (h : eval n f e s = .done v t) :
    eval (n + 1) f (.call e es) s = (evalArguments n f es {} >>= fun a => apply n v a) t := by
  rw [eval]
  exact Run.bind_done h

theorem applyWithin_function {a : Address} {c : Closure} {args : Arguments}
    (h : s.heap.object? a = some (.function c)) :
    applyWithin (n + 1) (.function a) args s = call n c args s := by
  have hclosure : Run.look (·.closure? a) s = .done (some c) s := by
    have : s.heap.closure? a = some c := by simp only [Heap.closure?, h]
    exact congrArg (Outcome.done · s) this
  rw [applyWithin, Run.bind_done hclosure]

theorem run_assign {targets : List Expr} {e : Expr} {v : Value} (h : eval n f e s = .done v t) :
    run (n + 1) f (.assign targets e) s =
      (assignAll n f (targets.map fun x => (x, v)) >>= fun _ => pure .normal) t := by
  rw [run]
  exact Run.bind_done h

theorem runAll_cons {c : Stmt} {ss : List Stmt} (h : run n f c s = .done .normal t) :
    runAll (n + 1) f (c :: ss) s = runAll n f ss t := by
  rw [runAll, Run.bind_done h]

theorem runAll_cons_raised {c : Stmt} {ss : List Stmt} {e : Raised}
    (h : run n f c s = .raised e t) : runAll (n + 1) f (c :: ss) s = .raised e t := by
  rw [runAll, Run.bind_raised h]

theorem runAll_append {ss ts : List Stmt} (h : runAll (n + ss.length) f ss s = .done .normal t) :
    runAll (n + ss.length) f (ss ++ ts) s = runAll n f ts t := by
  induction ss generalizing s with
  | nil =>
    cases n with
    | zero => contradiction
    | succ n =>
      obtain ⟨-, rfl⟩ := Outcome.done.inj h
      rfl
  | cons c ss ih =>
    rw [List.length_cons, ← Nat.add_assoc] at h ⊢
    rw [List.cons_append]
    cases hc : run (n + ss.length) f c s with
    | done flow u =>
      cases flow with
      | normal =>
        rw [runAll_cons hc] at h ⊢
        exact ih h
      | leave =>
        rw [runAll, Run.bind_done hc] at h
        cases (Outcome.done.inj h).1
      | next =>
        rw [runAll, Run.bind_done hc] at h
        cases (Outcome.done.inj h).1
      | give v =>
        rw [runAll, Run.bind_done hc] at h
        cases (Outcome.done.inj h).1
    | raised e u =>
      rw [runAll_cons_raised hc] at h
      contradiction
    | exhausted =>
      rw [runAll, Run.bind_exhausted hc] at h
      contradiction

theorem runAll_append_raised {ss ts : List Stmt} {e : Raised} (h : runAll n f ss s = .raised e t) :
    runAll n f (ss ++ ts) s = .raised e t := by
  induction ss generalizing n s with
  | nil => cases n <;> cases h
  | cons c ss ih =>
    cases n with
    | zero => cases h
    | succ n =>
      rw [List.cons_append]
      cases hc : run n f c s with
      | done flow u =>
        cases flow with
        | normal =>
          rw [runAll_cons hc] at h ⊢
          exact ih h
        | leave | next | give v =>
          rw [runAll, Run.bind_done hc] at h
          cases h
      | raised e' u =>
        rw [runAll_cons_raised hc] at h ⊢
        exact h
      | exhausted =>
        rw [runAll, Run.bind_exhausted hc] at h
        cases h

end TemplateEngine.Script
