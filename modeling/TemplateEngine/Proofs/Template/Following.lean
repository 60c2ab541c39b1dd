import TemplateEngine.Proofs.Template.Interpretation
import TemplateEngine.Proofs.Template.Pairing

set_option autoImplicit false

/-!
# Generated code follows the interpretation

From paired states the statements of a template do what its interpretation does: where that ends with a
text, the text has been added to the output, and where that ends with an exception, the same one has been
raised. Where the interpretation runs out of steps nothing is said.
-/
namespace TemplateEngine

open Script

namespace Generated

/-- How the function has ended where the interpretation has ended like this, the text in front being
what had been collected before. -/
inductive Agrees (b : Address) (x : Str) : Outcome Flow → Outcome Str → Prop
  | done {y : Str} {t t' : State} (h : Paired b (x ++ y) t t') :
      Agrees b x (.done .normal t) (.done y t')
  | raised {e : Raised} {t t' : State} (h : t.Matches outputReserved (outputObjects b) t') :
      Agrees b x (.raised e t) (.raised e t')
  | exhausted (o : Outcome Flow) : Agrees b x o .exhausted

def Follows (b : Address) (r : Run Flow) (y : Run Str) : Prop :=
  ∀ x s s', Paired b x s s' → Agrees b x (r s) (y s')

variable {b : Address} {x : Str} {s s' : State}

/-- What does not get at secrets goes the same way in paired states. -/
theorem Paired.confined {α : Type} {P Q : α → Prop} {z : Run α} (h : Paired b x s s')
    (hz : z.Confined outputReserved (outputObjects b) P) (hz' : z.Confined ownReserved (ownObjects b) Q) :
    (∃ v t t', z s = .done v t ∧ z s' = .done v t' ∧ P v ∧ Q v ∧ Paired b x t t') ∨
      (∃ e t t', z s = .raised e t ∧ z s' = .raised e t' ∧
        t.Matches outputReserved (outputObjects b) t') ∨
      z s = .exhausted ∧ z s' = .exhausted := by
  have hsame := hz s s' h.alike
  have hsealed := hz' s' s' h.sealed
  generalize z s = o at hsame
  generalize z s' = o' at hsame hsealed
  cases hsame with
  | done v hP halike hkeeps =>
    cases hsealed with
    | done _ hQ hself hkeeps' =>
      exact .inl ⟨v, _, _, rfl, rfl, hP, hQ, h.step halike hkeeps hself hkeeps'⟩
  | raised e halike => exact .inr (.inl ⟨e, _, _, rfl, rfl, halike⟩)
  | exhausted => exact .inr (.inr ⟨rfl, rfl⟩)

namespace Follows

variable {r : Run Flow} {y y' : Run Str}

theorem nothing : Follows b (pure .normal) (pure []) := by
  intro x s s' h
  exact .done (by rwa [List.append_nil])

theorem bind {α : Type} {P Q : α → Prop} {z : Run α} {r : α → Run Flow} {y : α → Run Str}
    (hz : z.Confined outputReserved (outputObjects b) P) (hz' : z.Confined ownReserved (ownObjects b) Q)
    (h : ∀ v, P v → Q v → Follows b (r v) (y v)) : Follows b (z >>= r) (z >>= y) := by
  intro x s s' hs
  obtain ⟨v, t, t', hv, hv', hP, hQ, ht⟩ | ⟨e, t, t', he, he', ht⟩ | ⟨-, hno⟩ := hs.confined hz hz'
  · rw [Run.bind_done hv, Run.bind_done hv']
    exact h v hP hQ x t t' ht
  · rw [Run.bind_raised he, Run.bind_raised he']
    exact .raised ht
  · rw [Run.bind_exhausted hno]
    exact .exhausted _

theorem append {k : Flow → Run Flow} (hr : Follows b r y) (hk : Follows b (k .normal) y') :
    Follows b (r >>= k) (y >>= fun t => y' >>= fun u => pure (t ++ u)) := by
  intro x s s' hs
  have hfirst := hr x s s' hs
  generalize hro : r s = o at hfirst
  generalize hyo : y s' = o' at hfirst
  cases hfirst with
  | @done w t t' ht =>
    rw [Run.bind_done hro, Run.bind_done hyo]
    have hrest := hk _ t t' ht
    generalize k .normal t = o at hrest
    generalize hyo' : y' t' = o' at hrest
    cases hrest with
    | done hu =>
      rw [Run.bind_done hyo']
      exact .done (by rwa [List.append_assoc] at hu)
    | raised hu =>
      rw [Run.bind_raised hyo']
      exact .raised hu
    | exhausted =>
      rw [Run.bind_exhausted hyo']
      exact .exhausted _
  | raised ht =>
    rw [Run.bind_raised hro, Run.bind_raised hyo]
    exact .raised ht
  | exhausted =>
    rw [Run.bind_exhausted hyo]
    exact .exhausted _

end Follows

theorem Paired.eval_callName (h : Paired b x s s') (n : Nat) (escaped : Bool) :
    eval (n + 1) ⟨some b⟩ (.name (callName escaped)) s = .done (callee escaped) s := by
  have hhidden := not_mem_outputNames_callName escaped
  obtain ⟨c', hc', houter', hfree⟩ := h.free
  have hscopes := h.alike.heap.scope? b
  rw [hc'] at hscopes
  obtain ⟨c, hc, hsame⟩ : ∃ c, s.heap.scope? b = some c ∧
      c.Alike outputReserved (outputObjects b) c' := by
    cases hc : s.heap.scope? b with
    | none =>
      rw [hc] at hscopes
      cases hscopes
    | some c =>
      rw [hc] at hscopes
      cases hscopes with
      | some hsame => exact ⟨c, rfl, hsame⟩
  have hfind : findVariable s.heap (callName escaped) (s.heap.objects.size + 1) (some b) = none := by
    have hnone : c.bindings.find? (callName escaped) = none :=
      (hsame.bindings _ hhidden).symm.trans (hfree escaped)
    have houter : c.outer = none := hsame.outer.symm.trans houter'
    simp only [findVariable, hc, hnone, houter]
    cases s.heap.objects.size <;> rfl
  have hglobal := h.alike.globals _ hhidden
  cases escaped with
  | true =>
    have hescape : s.globals.find? escapeName = some (.function 1) :=
      hglobal.symm.trans h.escapes.escape
    have hread : Frame.read ⟨some b⟩ escapeName s = .done (.function 1) s := by
      simp only [Frame.read, show findVariable s.heap escapeName _ (some b) = none from hfind, hescape]
    exact hread
  | false => exact Frame.read_builtin hfind (hglobal.symm.trans h.escapes.str) rfl

theorem Paired.apply_callee (h : Paired b x s s') (n : Nat) (escaped : Bool) {v : Value}
    (hv : v.Apart (outputObjects b)) (hv' : v.Apart (ownObjects b)) :
    match calledText escaped s' v with
    | .ok y => ∃ id t t', apply (n + 25) (callee escaped) { positional := [v] } s =
        .done (.text y id) t ∧ apply (n + 25) (callee escaped) { positional := [v] } s' =
        .done (.text y id) t' ∧ Paired b x t t'
    | .error e => ∃ t t', apply (n + 25) (callee escaped) { positional := [v] } s = .raised e t ∧
        apply (n + 25) (callee escaped) { positional := [v] } s' = .raised e t' ∧
        t.Matches outputReserved (outputObjects b) t' := by
  have hcallee : (callee escaped).Apart (outputObjects b) := by
    cases escaped with
    | true =>
      have hlt : 1 < b := Nat.lt_of_lt_of_le (by decide) h.place
      have hmem : 1 ∉ outputObjects b := by
        simp [outputObjects, Nat.ne_of_lt hlt, Nat.ne_of_gt (Nat.lt_of_succ_lt hlt)]
      exact hmem
    | false => trivial
  have hgives := @gives_callee _ _ escaped (Value.Apart (ownObjects b))
    (fun _ _ => trivial) n h.escapes h.depth hv'.isPlain hv'
  have hsame := (confinedAt (n + 25)).apply (callee escaped) { positional := [v] } hcallee
    ⟨by simpa using hv, by simp⟩ s s' h.alike
  cases hr : calledText escaped s' v with
  | ok y =>
    rw [hr] at hgives
    obtain ⟨id, t', ht', hextended⟩ := hgives
    rw [ht'] at hsame
    generalize ho : apply (n + 25) (callee escaped) { positional := [v] } s = o at hsame
    cases hsame with
    | @done t _ _ _ halike hkeeps =>
      exact ⟨id, t, t', rfl, ht', h.step halike hkeeps (hextended.matches h.sealed)
        (hextended.keeps h.sealed.heap.known)⟩
  | error e =>
    rw [hr] at hgives
    obtain ⟨t', ht'⟩ := hgives
    rw [ht'] at hsame
    generalize ho : apply (n + 25) (callee escaped) { positional := [v] } s = o at hsame
    cases hsame with
    | @raised t _ _ halike => exact ⟨t, t', rfl, ht', halike⟩

open Element in
theorem follows_output (n : Nat) (escaped : Bool) {e : Expr} (he : Avoids ownNames e.names) :
    Follows b (run (n + 31) ⟨some b⟩ (outputStatement escaped e))
      (reserve >>= fun _ => eval (n + 26) ⟨some b⟩ e >>= showing (n + 27) escaped) := by
  intro x s s' h
  obtain ⟨items, ts, hcollecting, -⟩ := h.collecting
  have hcallee := @eval_call (n + 27) _ _ _ _ [.positional e] _ (h.spend.eval_callName (n + 26) escaped)
  have heval (m : Nat) : ∀ {v : Value} {t : State}, eval (m + 1) ⟨some b⟩ e s.spend = .done v t →
      evalArguments (m + 2) ⟨some b⟩ [.positional e] {} s.spend = .done { positional := [v] } t :=
    fun hv => evalArguments_one hv
  rw [Run.bind_done (show reserve s' = .done () s'.spend from rfl)]
  obtain ⟨v, t, t', hv, hv', hP, hQ, ht⟩ | ⟨r, t, t', hr, hr', ht⟩ | ⟨-, hno⟩ :=
    h.spend.confined ((confinedAt (n + 26)).eval ⟨some b⟩ e fun m hm => not_mem_outputNames (he m hm))
      ((confinedAt (n + 26)).eval ⟨some b⟩ e he)
  · rw [Run.bind_done hv']
    have hcall := hcallee.trans (Run.bind_done (heval (n + 25) hv))
    have hshown := ht.apply_callee (n + 2) escaped hP hQ
    unfold showing
    cases hr : calledText escaped t' v with
    | ok y =>
      rw [hr] at hshown
      obtain ⟨id, u, u', hu, hu', hpaired⟩ := hshown
      have hdepth : u.heap.depth < maxCalls := by
        obtain ⟨_, _, hroom, -⟩ := hpaired.collecting
        exact hroom.room
      have hrun : run (n + 31) ⟨some b⟩ (outputStatement escaped e) s =
          .done .normal (u.collect (b + 1) (.text y id)) :=
        run_appendStatement hcollecting (hcall.trans hu) hdepth
      simp only [hrun, hu', Outcome.stateFrom]
      exact .done (hpaired.collect y id)
    | error r =>
      rw [hr] at hshown
      obtain ⟨u, u', hu, hu', hmatches⟩ := hshown
      have hrun : run (n + 31) ⟨some b⟩ (outputStatement escaped e) s = .raised r u :=
        run_appendStatement_raised hcollecting (hcall.trans hu)
      simp only [hrun, hu', Outcome.stateFrom]
      exact .raised hmatches
  · have hargument : evalArguments (n + 27) ⟨some b⟩ [.positional e] {} s.spend = .raised r t := by
      rw [evalArguments]
      exact Run.bind_raised hr
    have hrun : run (n + 31) ⟨some b⟩ (outputStatement escaped e) s = .raised r t :=
      run_appendStatement_raised hcollecting (hcallee.trans (Run.bind_raised hargument))
    rw [hrun, Run.bind_raised hr']
    exact .raised ht
  · rw [Run.bind_exhausted hno]
    exact .exhausted _

open Element in
theorem follows_literal (n : Nat) (y : Text) :
    Follows b (run (n + 4) ⟨some b⟩ (appendStatement (.constant (.text y))))
      (reserve >>= fun _ => pure y) := by
  intro x s s' h
  obtain ⟨items, ts, hcollecting, -⟩ := h.collecting
  have hvalue : eval (n + 1) ⟨some b⟩ (.constant (.text y)) s.spend =
      .done (.ofLiteral y) s.spend := rfl
  have hdepth : s.spend.heap.depth < maxCalls := hcollecting.room
  rw [run_appendStatement hcollecting hvalue hdepth]
  exact .done (h.spend.collect y _)

end Generated

namespace Element

open Generated

variable {b : Address}

structure FollowsAt (b : Address) (n : Nat) : Prop where
  one : ∀ e, Avoids ownNames (names e) → Avoids calledNames (bound e) →
    Follows b (run (n + 30) ⟨some b⟩ (statement Phrase.value e)) (interpret n ⟨some b⟩ e)
  all : ∀ es, Avoids ownNames (allNames es) → Avoids calledNames (allBound es) →
    Follows b (runAll (n + 30) ⟨some b⟩ (statements Phrase.value es)) (interpretAll n ⟨some b⟩ es)
  each : ∀ c x body, c.Apart (outputObjects b) → c.Apart (ownObjects b) → x.name ∉ calledNames →
    Avoids ownNames (allNames body) → Avoids calledNames (allBound body) →
    Follows b (runEach (n + 30) ⟨some b⟩ c (.name x.name)
      (filled .pass (statements Phrase.value body)) []) (interpretEach n ⟨some b⟩ c x body)

namespace FollowsAt

variable {n : Nat}

theorem zero : FollowsAt b 0 where
  one _ _ _ _ _ _ _ := .exhausted _
  all _ _ _ _ _ _ _ := .exhausted _
  each _ _ _ _ _ _ _ _ _ _ _ _ := .exhausted _

theorem branch_succ {e : Expr} (he : Avoids ownNames e.names) {yes no : List Stmt} {y y' : Run Str}
    (hyes : Follows b (runAll (n + 30) ⟨some b⟩ yes) y) (hno : Follows b (runAll (n + 30) ⟨some b⟩ no) y') :
    Follows b (run (n + 31) ⟨some b⟩ (.branch e yes no))
      (eval (n + 30) ⟨some b⟩ e >>= fun v => holds v >>= fun c => if c then y else y') := by
  refine .bind ((confinedAt (n + 30)).eval _ e fun x hx => not_mem_outputNames (he x hx))
    ((confinedAt (n + 30)).eval _ e he) fun v hv hv' =>
      .bind (confined_holds hv) (confined_holds hv') fun c _ _ => ?_
  cases c with
  | true => exact hyes
  | false => exact hno

section

variable (h : FollowsAt b n)

include h

theorem all_filled {es : List Element} (hes : Avoids ownNames (allNames es))
    (hbound : Avoids calledNames (allBound es)) :
    Follows b (runAll (n + 30) ⟨some b⟩ (filled .pass (statements Phrase.value es)))
      (interpretAll n ⟨some b⟩ es) := by
  cases es with
  | cons e es => exact h.all (e :: es) hes hbound
  | nil =>
    cases n with
    | zero => exact fun _ _ _ _ => .exhausted _
    | succ n => exact .nothing

theorem choice_succ {test : LinePhrase} {body : List Element} {others : Alternatives}
    (htest : Avoids ownNames test.value.names) (hbody : Avoids ownNames (allNames body))
    (hothers : Avoids ownNames (otherNames others))
    (hbound : Avoids calledNames (bound (.choice test body others))) :
    Follows b (run (n + 31) ⟨some b⟩ (statement Phrase.value (.choice test body others)))
      (interpret (n + 1) ⟨some b⟩ (.choice test body others)) := by
  rw [bound, avoids_append] at hbound
  have hyes := h.all_filled hbody hbound.1
  cases others with
  | none => exact branch_succ htest hyes .nothing
  | otherwise body => exact branch_succ htest hyes (h.all_filled hothers hbound.2)
  | elif test' body' others =>
    have hmore : Avoids ownNames (allNames [.choice test' body' others]) := by
      simpa [allNames, names, otherNames] using hothers
    have hmoreBound : Avoids calledNames (allBound [.choice test' body' others]) := by
      simpa [allBound, bound, otherBound] using hbound.2
    exact branch_succ htest hyes (h.all _ hmore hmoreBound)

theorem one_succ (e : Element) (he : Avoids ownNames (names e)) (hbound : Avoids calledNames (bound e)) :
    Follows b (run (n + 31) ⟨some b⟩ (statement Phrase.value e)) (interpret (n + 1) ⟨some b⟩ e) := by
  cases e with
  | literal y => exact follows_literal (n + 27) y
  | output escaped e => exact follows_output n escaped he
  | choice test body others =>
    simp only [names, avoids_append] at he
    exact h.choice_succ he.1 he.2.1 he.2.2 hbound
  | each x items body =>
    simp only [names, avoids_cons, avoids_append] at he
    simp only [bound, avoids_cons] at hbound
    obtain ⟨-, hitems, hbody⟩ := he
    exact .bind ((confinedAt (n + 30)).eval _ items.value fun x hx => not_mem_outputNames (hitems x hx))
      ((confinedAt (n + 30)).eval _ items.value hitems) fun v hv hv' =>
      .bind (Value.confined_cursor hv) (Value.confined_cursor hv') fun c hc hc' =>
        h.each c x body hc hc' hbound.1 hbody hbound.2

theorem all_succ (es : List Element) (hes : Avoids ownNames (allNames es))
    (hbound : Avoids calledNames (allBound es)) :
    Follows b (runAll (n + 31) ⟨some b⟩ (statements Phrase.value es))
      (interpretAll (n + 1) ⟨some b⟩ es) := by
  cases es with
  | nil => exact .nothing
  | cons e es =>
    simp only [allNames, avoids_append] at hes
    simp only [allBound, avoids_append] at hbound
    exact .append (h.one e hes.1 hbound.1) (h.all es hes.2 hbound.2)

theorem each_succ (c : Cursor) (x : LoopVariable) (body : List Element)
    (hc : c.Apart (outputObjects b)) (hc' : c.Apart (ownObjects b)) (hx : x.name ∉ calledNames)
    (hbody : Avoids ownNames (allNames body)) (hbound : Avoids calledNames (allBound body)) :
    Follows b (runEach (n + 31) ⟨some b⟩ c (.name x.name)
      (filled .pass (statements Phrase.value body)) []) (interpretEach (n + 1) ⟨some b⟩ c x body) := by
  refine .bind (Cursor.confined_next hc) (Cursor.confined_next hc') fun r hr hr' => ?_
  obtain ⟨o, c⟩ := r
  cases o with
  | none => exact .nothing
  | some v =>
    have hadmits : Frame.Admits outputReserved (outputObjects b) [x.name] ⟨some b⟩ :=
      ⟨b, rfl, fun _ => List.forall_mem_singleton.2 (not_mem_outputNames (not_mem_ownNames hx))⟩
    have hadmits' : Frame.Admits ownReserved (ownObjects b) [x.name] ⟨some b⟩ :=
      ⟨b, rfl, fun _ => List.forall_mem_singleton.2 hx⟩
    have hwrite := hadmits.confined_write (hr.1 v rfl)
    have hwrite' := hadmits'.confined_write (hr'.1 v rfl)
    exact .bind hwrite hwrite' fun _ _ _ =>
      .append (h.all_filled hbody hbound) (h.each c x body hr.2 hr'.2 hx hbody hbound)

end

end FollowsAt

theorem followsAt (b : Address) (n : Nat) : FollowsAt b n := by
  induction n with
  | zero => exact .zero
  | succ n ih => exact {
      one := ih.one_succ
      all := ih.all_succ
      each := ih.each_succ }

end Element
end TemplateEngine
