import TemplateEngine.Proofs.Confined.Evaluate

set_option autoImplicit false

/-!
# Statements do not get at secret objects

Statements that mention no hidden name are confined as well, where the variables that they bind may change.
Exceptions go through them as they are; none may be bound to a variable, since what it holds need not be
apart from secrets.
-/
namespace TemplateEngine.Script

open Run

variable {hidden : Reserved} {secret : List Address}

namespace Run.Confined

variable {α : Type} {P : α → Prop} {x : Run α}

theorem whileHandling (e : Raised) (hx : Confined hidden secret P x) :
    Confined hidden secret P (whileHandling e x) := by
  intro s s' h
  have hxs := hx { s with handled := some e } { s' with handled := some e }
    ⟨h.heap, rfl, h.printed, h.globals, h.apart⟩
  simp only [Script.whileHandling]
  generalize x { s with handled := some e } = o at hxs ⊢
  generalize x { s' with handled := some e } = o' at hxs ⊢
  cases hxs with
  | done a ha ht hkeeps =>
    exact .done a ha ⟨ht.heap, h.handled, ht.printed, ht.globals, ht.apart⟩ ⟨hkeeps.heap, rfl, hkeeps.globals⟩
  | raised r ht hkeeps =>
    exact .raised r ⟨ht.heap, h.handled, ht.printed, ht.globals, ht.apart⟩ ⟨hkeeps.heap, rfl, hkeeps.globals⟩
  | exhausted => exact .exhausted

theorem raiseAgain : Confined hidden secret P (raiseAgain : Run α) := by
  intro s s' h
  simp only [Script.raiseAgain, h.handled]
  split
  · exact .raised _ h (.refl s)
  · exact .raised _ h (.refl s)

theorem settleRaised (e : Raised) : Confined hidden secret (fun _ => True) e.settle := by
  refine bind (P := fun _ => True) (fun s s' h => ?_) fun _ _ => pure trivial
  simp only [Run.settle, h.heap.unused]
  split
  · exact .done _ trivial h (.refl s)
  · exact .done _ trivial (h.withHeap (h.heap.withUnused _)) (.withHeap (.of_objects rfl fun _ _ => rfl))

theorem orElse {y : Run Flow} {r : Raised → Run Flow} {x : Run Flow}
    (hx : Confined hidden secret (Flow.Apart secret) x) (hy : Confined hidden secret (Flow.Apart secret) y)
    (hr : ∀ e, Confined hidden secret (Flow.Apart secret) (r e)) :
    Confined hidden secret (Flow.Apart secret) fun s =>
      match x s with
      | .done .normal s => y s
      | .raised e s => r e s
      | o => o := by
  intro s s' h
  have hxs := hx s s' h
  dsimp only
  generalize x s = o at hxs
  generalize x s' = o' at hxs
  cases hxs with
  | done flow hflow ht hkeeps =>
    cases flow with
    | normal => exact (hy _ _ ht).behind hkeeps
    | _ => exact .done _ hflow ht hkeeps
  | raised e ht hkeeps => exact (hr e _ _ ht).behind hkeeps
  | exhausted => exact .exhausted

/-- A run that is followed by another one in any case, which decides what is given unless it ends
normally. -/
theorem finally_ {x y : Run Flow} (hx : Confined hidden secret (Flow.Apart secret) x)
    (hy : Confined hidden secret (Flow.Apart secret) y) :
    Confined hidden secret (Flow.Apart secret) fun s =>
      match x s with
      | .exhausted => .exhausted
      | .done flow s =>
        match y s with
        | .done .normal s => .done flow s
        | r => r
      | .raised e s =>
        match Script.whileHandling e y s with
        | .done .normal s => .raised e s
        | r => r := by
  intro s s' h
  have hxs := hx s s' h
  dsimp only
  generalize x s = o at hxs
  generalize x s' = o' at hxs
  cases hxs with
  | @done t t' flow hflow ht hkeeps =>
    have hend := (hy t t' ht).behind hkeeps
    dsimp only
    generalize y t = o at hend
    generalize y t' = o' at hend
    cases hend with
    | done last hlast hu hkeeps =>
      cases last with
      | normal => exact .done flow hflow hu hkeeps
      | _ => exact .done _ hlast hu hkeeps
    | raised e hu hkeeps => exact .raised e hu hkeeps
    | exhausted => exact .exhausted
  | @raised t t' e ht hkeeps =>
    have hend := (whileHandling e hy t t' ht).behind hkeeps
    dsimp only
    generalize Script.whileHandling e y t = o at hend
    generalize Script.whileHandling e y t' = o' at hend
    cases hend with
    | done last hlast hu hkeeps =>
      cases last with
      | normal => exact .raised e hu hkeeps
      | _ => exact .done _ hlast hu hkeeps
    | raised e hu hkeeps => exact .raised e hu hkeeps
    | exhausted => exact .exhausted
  | exhausted => exact .exhausted

end Run.Confined

theorem Value.yields_handledClasses (v : Value) : Yields (fun _ => True) v.handledClasses := fun _ _ => trivial

theorem Expr.bound_unstarred (e : Expr) : e.unstarred.bound = e.bound := by
  cases e <;> rfl

theorem Expr.bound_subset {e : Expr} {es : List Expr} (he : e ∈ es) : e.bound ⊆ Expr.boundAll es := by
  induction es with
  | nil => contradiction
  | cons d es ih =>
    rw [Expr.boundAll]
    obtain rfl | he := List.mem_cons.1 he
    · exact List.subset_append_left _ _
    · exact List.Subset.trans (ih he) (List.subset_append_right _ _)

namespace ConfinedAt

variable {n : Nat} (h : ConfinedAt hidden secret n)
include h

theorem assign_succ (f : Frame) (target : Expr) (v : Value) (hf : f.Admits hidden secret target.bound)
    (ht : Avoids hidden.unread target.names) (hv : v.Apart secret) :
    Confined hidden secret (fun _ => True) (Script.assign (n + 1) f target v) := by
  -- A list and a tuple of targets take their values alike.
  have hunpack : ∀ ts, f.Admits hidden secret (Expr.boundAll ts) → Avoids hidden.unread (Expr.namesOfAll ts) →
      Confined hidden secret (fun _ => True) (do
        let vs ← v.unpack (ts.findIdx? Expr.isStarred) ts.length
        Script.assignAll n f ((ts.map Expr.unstarred).zip vs)) := by
    intro ts hfs hts
    refine .bind (v.confined_unpack _ _ hv) fun vs hvs => h.assignAll f _ fun p hp => ?_
    obtain ⟨hp, hpv⟩ := List.of_mem_zip hp
    obtain ⟨e, he, hep⟩ := List.mem_map.1 hp
    rw [← hep, e.bound_unstarred]
    exact ⟨hfs.of_subset (Expr.bound_subset he), avoids_unstarred (avoids_of_mem hts he), hvs _ hpv⟩
  unfold Script.assign
  split
  · exact hf.confined_write hv
  · simp only [Expr.names, avoids_append] at ht
    exact .bind (h.eval f _ ht.1) fun w hw => .bind (h.eval f _ ht.2) fun i hi =>
      w.confined_setItem hw hi hv
  · exact .bind (h.eval f _ ht) fun _ _ => .raise _ _
  · exact hunpack _ hf ht
  · exact hunpack _ hf ht
  · exact h.assign f _ v hf ht hv
  · exact .raise _ _

theorem assignAll_succ (f : Frame) (pairs : List (Expr × Value))
    (hp : ∀ p ∈ pairs, f.Admits hidden secret p.1.bound ∧ Avoids hidden.unread p.1.names ∧ p.2.Apart secret) :
    Confined hidden secret (fun _ => True) (Script.assignAll (n + 1) f pairs) := by
  cases pairs with
  | nil => exact .pure trivial
  | cons p pairs =>
    obtain ⟨⟨hf, ht, hv⟩, hrest⟩ := List.forall_mem_cons.1 hp
    exact .bind (h.assign f _ _ hf ht hv) fun _ _ => h.assignAll f pairs hrest

theorem update_succ (f : Frame) (target : Expr) (op : BinaryOp) (e : Expr)
    (hf : f.Admits hidden secret target.bound) (ht : Avoids hidden.unread target.names)
    (he : Avoids hidden.unread e.names) :
    Confined hidden secret (fun _ => True) (Script.update (n + 1) f target op e) := by
  unfold Script.update
  split
  · exact .bind (f.confined_read (ht _ (by simp [Expr.names]))) fun old hold =>
      .bind (h.eval f e he) fun new hnew =>
        .bind (.settled (Value.confined_operateInPlace op hold hnew)) fun _ hv => hf.confined_write hv
  · simp only [Expr.names, avoids_append] at ht
    exact .bind (h.eval f _ ht.1) fun v hv => .bind (h.eval f _ ht.2) fun w hw =>
      .bind (Value.confined_getItem hv hw) fun old hold => .bind (h.eval f e he) fun new hnew =>
        .bind (.settled (Value.confined_operateInPlace op hold hnew)) fun _ hu => v.confined_setItem hv hw hu
  · exact .bind (h.eval f _ ht) fun v hv =>
      .bind (.withHeap fun _ _ hh => Value.getAttribute_alike hh _ hv) fun old hold =>
        .bind (h.eval f e he) fun new hnew => .bind (Value.confined_operateInPlace op hold hnew) fun _ _ =>
          .raise _ _
  · exact h.update f _ op e hf ht he
  · exact .raise _ _

theorem deleteAll_succ (f : Frame) (ts : List Expr) (hf : f.Admits hidden secret (Expr.boundAll ts))
    (hts : Avoids hidden.unread (Expr.namesOfAll ts)) :
    Confined hidden secret (fun _ => True) (Script.deleteAll (n + 1) f ts) := by
  cases ts with
  | nil => exact .pure trivial
  | cons t ts =>
    simp only [Expr.namesOfAll, avoids_append] at hts
    obtain ⟨ht, hts⟩ := hts
    have hrest := h.deleteAll f ts hf.right hts
    have hfirst := hf.left
    unfold Script.deleteAll
    dsimp only
    split
    · next x =>
      have hx : x ∉ hidden.unread := ht x (by simp [Expr.names])
      exact .bind (hfirst.confined_readOwn hx) fun _ _ => .bind hfirst.confined_forget fun _ _ => hrest
    · simp only [Expr.names, avoids_append] at ht
      exact .bind (h.eval f _ ht.1) fun v hv => .bind (h.eval f _ ht.2) fun i hi =>
        .bind (v.confined_deleteItem hv hi) fun _ _ => hrest
    · exact .bind (h.eval f _ ht) fun _ _ => .bind (P := fun _ => True) (.raise _ _) fun _ _ => hrest
    · exact .bind (h.deleteAll f _ hfirst ht) fun _ _ => hrest
    · exact .bind (h.deleteAll f _ hfirst ht) fun _ _ => hrest
    · next e =>
      have hgrouped : f.Admits hidden secret (Expr.boundAll [e]) := by
        simpa [Expr.boundAll, Expr.bound] using hfirst
      exact .bind (h.deleteAll f [e] hgrouped (by simpa [Expr.namesOfAll, Expr.names] using ht)) fun _ _ => hrest
    · exact .bind (P := fun _ => True) (.raise _ _) fun _ _ => hrest

theorem run_succ (f : Frame) (st : Stmt) (hf : f.Admits hidden secret st.bound) (hst : st.Unaware hidden) :
    Confined hidden secret (Flow.Apart secret) (Script.run (n + 1) f st) := by
  have hnormal : ∀ {x : Run Unit}, Confined hidden secret (fun _ => True) x →
      Confined hidden secret (Flow.Apart secret) (x >>= fun _ => Pure.pure .normal) :=
    fun hx => .bind hx fun _ _ => .pure trivial
  have hnames := hst.names
  unfold Script.run
  cases st with
  | expression e => exact .bind (h.eval f e hnames) fun _ _ => .pure trivial
  | assign targets e =>
    simp only [Stmt.names, avoids_append] at hnames
    refine .bind (h.eval f e hnames.2) fun v hv => hnormal (h.assignAll f _ fun p hp => ?_)
    obtain ⟨t, ht, rfl⟩ := List.mem_map.1 hp
    exact ⟨hf.of_subset (Expr.bound_subset ht), avoids_of_mem hnames.1 ht, hv⟩
  | update target op e =>
    simp only [Stmt.names, avoids_append] at hnames
    exact hnormal (h.update f target op e hf hnames.1 hnames.2)
  | declare _ | pass | leave | next => exact .pure trivial
  | give e? =>
    cases e? with
    | none => exact .pure trivial
    | some e => exact .bind (h.eval f e hnames) fun _ hv => .pure hv
  | raise e cause =>
    simp only [Stmt.names, avoids_append] at hnames
    have hend : ∀ v c : Value, Confined hidden secret (Flow.Apart secret)
        (if c.isCause then Run.ofResult (.error v.toRaised) else Run.raise .typeError) := by
      intro v c
      split
      · exact .ofResult (.error _)
      · exact .raise _ _
    refine .bind (h.eval f e hnames.1) fun v hv => ?_
    cases cause with
    | none => exact .bind (P := fun _ => True) (.pure trivial) fun c _ => hend v c
    | some c => exact .bind (h.eval f c hnames.2) fun c _ => hend v c
  | raiseAgain => exact .raiseAgain
  | assert test message =>
    simp only [Stmt.names, avoids_append] at hnames
    refine .bind (h.eval f test hnames.1) fun v hv => .bind (confined_holds hv) fun b _ => ?_
    split
    · exact .pure trivial
    · cases message with
      | none => exact .raise _ _
      | some e => exact .bind (h.eval f e hnames.2) fun _ _ => .raise _ _
  | delete targets => exact hnormal (h.deleteAll f targets hf hnames)
  | branch test yes no =>
    obtain ⟨htest, hyes, hno⟩ := hst.branch
    refine .bind (h.eval f test htest) fun v hv => .bind (confined_holds hv) fun b _ => ?_
    split
    · exact h.runAll f yes hf.left hyes
    · exact h.runAll f no hf.right hno
  | loop test body otherwise =>
    obtain ⟨htest, hbody, hotherwise⟩ := hst.loop
    exact h.runLoop f test body otherwise hf htest hbody hotherwise
  | each target items body otherwise =>
    obtain ⟨htarget, hitems, hbody, hotherwise⟩ := hst.each
    exact .bind (h.eval f items hitems) fun v hv => .bind (Value.confined_cursor hv) fun c hc =>
      h.runEach f c target body otherwise hf hc htarget hbody hotherwise
  | attempt body handlers otherwise finally_ =>
    obtain ⟨hbody, hhandlers, hotherwise, hfinally⟩ := hst.attempt
    exact .finally_ (.orElse (h.runAll f body hf.left.left.left hbody)
      (h.runAll f otherwise hf.left.right hotherwise) fun e => .bind (.settleRaised e) fun r _ =>
        h.handle f r handlers hf.left.left.right hhandlers) (h.runAll f finally_ hf.right hfinally)
  | define x ps body =>
    obtain ⟨hps, hbody⟩ := hst.define
    exact .bind (h.makeFunction f x ps body hps hbody) fun v hv => hnormal (hf.confined_write hv)

theorem runAll_succ (f : Frame) (ss : List Stmt) (hf : f.Admits hidden secret (Stmt.boundAll ss))
    (hss : Stmt.AllUnaware hidden ss) :
    Confined hidden secret (Flow.Apart secret) (Script.runAll (n + 1) f ss) := by
  cases ss with
  | nil => exact .pure trivial
  | cons st ss =>
    obtain ⟨hst, hss⟩ := Stmt.allUnaware_cons.1 hss
    rw [Script.runAll]
    refine .bind (h.run f st hf.left hst) fun flow hflow => ?_
    split
    · exact h.runAll f ss hf.right hss
    · exact .pure hflow

theorem runLoop_succ (f : Frame) (test : Expr) (body otherwise : List Stmt)
    (hf : f.Admits hidden secret (Stmt.boundAll body ++ Stmt.boundAll otherwise))
    (htest : Avoids hidden.unread test.names) (hbody : Stmt.AllUnaware hidden body)
    (hotherwise : Stmt.AllUnaware hidden otherwise) :
    Confined hidden secret (Flow.Apart secret) (Script.runLoop (n + 1) f test body otherwise) := by
  rw [Script.runLoop]
  refine .bind (h.eval f test htest) fun v hv => .bind (confined_holds hv) fun b _ => ?_
  split
  · refine .bind (h.runAll f body hf.left hbody) fun flow hflow => ?_
    split
    · exact h.runLoop f test body otherwise hf htest hbody hotherwise
    · exact h.runLoop f test body otherwise hf htest hbody hotherwise
    · exact .pure trivial
    · exact .pure hflow
  · exact h.runAll f otherwise hf.right hotherwise

theorem runEach_succ (f : Frame) (c : Cursor) (target : Expr) (body otherwise : List Stmt)
    (hf : f.Admits hidden secret (target.bound ++ Stmt.boundAll body ++ Stmt.boundAll otherwise))
    (hc : c.Apart secret) (htarget : Avoids hidden.unread target.names)
    (hbody : Stmt.AllUnaware hidden body) (hotherwise : Stmt.AllUnaware hidden otherwise) :
    Confined hidden secret (Flow.Apart secret) (Script.runEach (n + 1) f c target body otherwise) := by
  rw [Script.runEach]
  refine .bind (Cursor.confined_next hc) fun r hr => ?_
  have hmore := h.runEach f r.2 target body otherwise hf hr.2 htarget hbody hotherwise
  split
  · exact h.runAll f otherwise hf.right hotherwise
  · refine .bind (h.assign f target _ hf.left.left htarget (hr.1 _ rfl)) fun _ _ =>
      .bind (h.runAll f body hf.left.right hbody) fun flow hflow => ?_
    split
    · exact hmore
    · exact hmore
    · exact .pure trivial
    · exact .pure hflow

theorem handle_succ (f : Frame) (e : Raised) (hs : List Handler)
    (hf : f.Admits hidden secret (Handler.boundAll hs)) (hhs : Handler.AllUnaware hidden hs) :
    Confined hidden secret (Flow.Apart secret) (Script.handle (n + 1) f e hs) := by
  cases hs with
  | nil => exact fun s _ hs => .raised e hs (.refl s)
  | cons handler hs =>
    obtain ⟨classes, name, body⟩ := handler
    obtain ⟨hnames, hunnamed⟩ := hhs
    simp only [Handler.namesOfAll, avoids_append, Handler.allUnnamed, Bool.and_eq_true] at hnames hunnamed
    obtain ⟨hclasses, -, hbody, hrest⟩ := hnames
    obtain ⟨hname, hbody', hrest'⟩ := hunnamed
    obtain rfl := Option.isNone_iff_eq_none.1 hname
    have hbody := h.runAll f body hf.left.right ⟨hbody, hbody'⟩
    have hmore := h.handle f e hs hf.right ⟨hrest, hrest'⟩
    have htaken : ∀ taken : Bool, Confined hidden secret (Flow.Apart secret)
        (if taken then Script.whileHandling e (Script.runAll n f body) else Script.handle n f e hs) := by
      intro taken
      split
      · exact .whileHandling e hbody
      · exact hmore
    unfold Script.handle
    cases classes with
    | none => exact .bind (P := fun _ => True) (.pure trivial) fun taken _ => htaken taken
    | some c =>
      exact .bind (.whileHandling e (h.eval f c hclasses)) fun v _ =>
        .bind (.ofResult v.yields_handledClasses) fun cs _ =>
          .bind (P := fun _ => True) (.pure trivial) fun taken _ => htaken taken

end ConfinedAt

theorem confinedAt (n : Nat) : ConfinedAt hidden secret n := by
  induction n with
  | zero => exact confinedAt_zero
  | succ n ih => exact {
      eval := ih.eval_succ
      evalItems := ih.evalItems_succ
      evalEntries := ih.evalEntries_succ
      makeFunction := ih.makeFunction_succ
      compareAll := ih.compareAll_succ
      evalArguments := ih.evalArguments_succ
      apply := ih.apply_succ
      applyWithin := ih.applyWithin_succ
      keyed := ih.keyed_succ
      sort := ih.sort_succ
      best := ih.best_succ
      call := ih.call_succ
      collect := ih.collect_succ
      collectRest := ih.collectRest_succ
      allHold := ih.allHold_succ
      assign := ih.assign_succ
      assignAll := ih.assignAll_succ
      update := ih.update_succ
      deleteAll := ih.deleteAll_succ
      run := ih.run_succ
      runAll := ih.runAll_succ
      runLoop := ih.runLoop_succ
      runEach := ih.runEach_succ
      handle := ih.handle_succ }

end TemplateEngine.Script
