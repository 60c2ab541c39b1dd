import TemplateEngine.Proofs.Script.BlindOperations
import TemplateEngine.Proofs.Script.Running

set_option autoImplicit false

/-!
# Programs look only at variables that they name

Evaluation reads and writes the variables of the module by the names in the program. A program without
some names, in functions that the heap holds as well, runs the same way whatever the variables with these
names are.
-/
namespace TemplateEngine.Script

open Run

variable {hidden : List Text}

theorem CompareOp.blind_holds (op : CompareOp) (v w : Value) : Blind hidden (op.holds v w) := by
  unfold holds
  cases op with
  | same | notSame => exact .pure _
  | member => exact Value.blind_memberOf v w
  | notMember => exact .bind (Value.blind_memberOf v w) fun _ => .pure _
  | _ => exact .withHeap _

theorem blind_raiseAgain {α : Type} : Blind hidden (raiseAgain : Run α) := by
  intro s t h
  simp only [raiseAgain, h.handled]
  split
  · exact .raised _ h
  · exact .raised _ h

theorem blind_whileHandling {α : Type} (e : Raised) {x : Run α} (hx : Blind hidden x) :
    Blind hidden (whileHandling e x) := by
  intro s t h
  have hrun := hx _ _ (h.withHandled (some e))
  simp only [whileHandling, h.handled]
  generalize x { s with handled := some e } = o at hrun
  generalize x { t with handled := some e } = p at hrun
  cases hrun with
  | done a h => exact .done a (h.withHandled _)
  | raised r h => exact .raised r (h.withHandled _)
  | exhausted => exact .exhausted

theorem Collection.blind_gather (kind : Collection) (items : List Value) :
    Blind hidden (kind.gather items) := by
  cases kind with
  | list => exact .makeList _
  | iterator => exact .makeIterator _ _
  | dict => exact .bind (.withHeap _) fun _ => .makeDict _

theorem Value.blind_unpack (before : Option Nat) (targets : Nat) (v : Value) :
    Blind hidden (v.unpack before targets) := by
  cases before with
  | none =>
    refine .bind (v.blind_firstItems _) fun vs => ?_
    split
    · exact .pure _
    · exact .raise _ _
  | some n =>
    refine .bind v.blind_itemsOf fun vs => ?_
    split
    · exact .raise _ _
    · exact .bind (.makeList _) fun _ => .pure _

theorem blind_zip (vs : List Value) : Blind hidden (zip vs) :=
  .bind (.mapM vs fun v _ => v.blind_iteratorOf) fun _ => .makeIterator _ _

theorem Bound.blind_all (b : Bound) : Blind hidden b.all :=
  .bind (.mapM _ fun _ _ => .bind (.settle _) fun _ => .pure _) fun _ =>
    .bind (.mapM _ fun _ _ => .bind (.makeDict _) fun _ => .pure _) fun _ => .pure _

theorem blind_spreadNamed (seen : List (Str × Value)) (v : Value) :
    Blind hidden (spreadNamed seen v) := by
  unfold spreadNamed
  split
  · refine .bind (.look _) fun entries => .foldlM (fun ns e => ?_) entries seen
    split
    · split
      · exact .raise _ _
      · exact .pure _
    · exact .raise _ _
  · exact .raise _ _

theorem Raised.blind_settle (e : Raised) : Blind hidden e.settle :=
  .bind (.settle _) fun _ => .pure _

/-- A handler takes the name of its exception away, however it ends. -/
theorem Frame.blind_thenForget (f : Frame) (x : Text) {y : Run Flow} (hy : Blind hidden y) :
    Blind hidden fun s =>
      match y s with
      | .exhausted => .exhausted
      | .done flow s => (do f.forget x; return flow : Run Flow) s
      | .raised r s => (do f.forget x; fun s => .raised r s : Run Flow) s := by
  intro s t h
  have hrun := hy s t h
  dsimp only
  generalize y s = o at hrun
  generalize y t = p at hrun
  have hforget : ∀ z : Run Flow, Blind hidden z → Blind hidden (do f.forget x; z) :=
    fun z hz => .bind f.blind_forget fun _ => hz
  cases hrun with
  | done flow h => exact hforget _ (.pure flow) _ _ h
  | raised r h => exact hforget _ (fun _ _ h => .raised r h) _ _ h
  | exhausted => exact .exhausted

/-- What comes last runs however the rest ends, and decides if it does not end normally. -/
theorem blind_attempt {body otherwise finally_ : Run Flow} {handle : Raised → Run Flow}
    (hbody : Blind hidden body) (hotherwise : Blind hidden otherwise)
    (hhandle : ∀ e, Blind hidden (handle e)) (hfinally : Blind hidden finally_) :
    Blind hidden fun s =>
      let inner : Outcome Flow :=
        match body s with
        | .done .normal s => otherwise s
        | .raised e s => handle e s
        | r => r
      match inner with
      | .exhausted => .exhausted
      | .done flow s =>
        match finally_ s with
        | .done .normal s => .done flow s
        | r => r
      | .raised e s =>
        match whileHandling e finally_ s with
        | .done .normal s => .raised e s
        | r => r := by
  have hinner : Blind hidden fun s =>
      match body s with
      | .done .normal s => otherwise s
      | .raised e s => handle e s
      | r => r := by
    intro s t h
    have hrun := hbody s t h
    dsimp only
    generalize body s = o at hrun
    generalize body t = p at hrun
    cases hrun with
    | done flow h =>
      cases flow with
      | normal => exact hotherwise _ _ h
      | _ => exact .done _ h
    | raised e h => exact hhandle e _ _ h
    | exhausted => exact .exhausted
  intro s t h
  have hrun := hinner s t h
  dsimp only at hrun ⊢
  revert hrun
  generalize (match body s with
    | .done .normal s => otherwise s
    | .raised e s => handle e s
    | r => r) = o
  generalize (match body t with
    | .done .normal s => otherwise s
    | .raised e s => handle e s
    | r => r) = p
  intro hrun
  cases hrun with
  | @done s t flow h =>
    have hlast := hfinally s t h
    dsimp only
    generalize finally_ s = o at hlast
    generalize finally_ t = p at hlast
    cases hlast with
    | done last h =>
      cases last with
      | normal => exact .done flow h
      | _ => exact .done _ h
    | raised e h => exact .raised e h
    | exhausted => exact .exhausted
  | @raised s t e h =>
    have hlast := blind_whileHandling e hfinally s t h
    dsimp only
    generalize whileHandling e finally_ s = o at hlast
    generalize whileHandling e finally_ t = p at hlast
    cases hlast with
    | done last h =>
      cases last with
      | normal => exact .raised e h
      | _ => exact .done _ h
    | raised e h => exact .raised e h
    | exhausted => exact .exhausted
  | exhausted => exact .exhausted

/-- With this bound every function of the evaluator is blind, if what it evaluates avoids the names. -/
structure BlindAt (hidden : List Text) (n : Nat) : Prop where
  eval : ∀ f e, Avoids hidden e.names → Blind hidden (eval n f e)
  evalItems : ∀ f es, Avoids hidden (Expr.namesOfAll es) → Blind hidden (evalItems n f es)
  evalEntries : ∀ f es pending done, Avoids hidden (Entry.namesOfAll es) →
    Blind hidden (evalEntries n f es pending done)
  makeFunction : ∀ f name ps body, Avoids hidden (Parameter.namesOfAll ps) →
    Avoids hidden (Stmt.namesOfAll body) → Blind hidden (makeFunction n f name ps body)
  compareAll : ∀ f v others, Avoids hidden (Expr.namesOfComparisons others) →
    Blind hidden (compareAll n f v others)
  evalArguments : ∀ f as a, Avoids hidden (Argument.namesOfAll as) →
    Blind hidden (evalArguments n f as a)
  apply : ∀ v a, Blind hidden (apply n v a)
  applyWithin : ∀ v a, Blind hidden (applyWithin n v a)
  keyed : ∀ key items, Blind hidden (keyed n key items)
  sort : ∀ key reverse items, Blind hidden (sort n key reverse items)
  best : ∀ op a, Blind hidden (best n op a)
  call : ∀ c a, Avoids hidden (Stmt.namesOfAll c.body) → Blind hidden (call n c a)
  collect : ∀ f kind item target conditions rest c done, Avoids hidden item.names →
    Avoids hidden target.names → Avoids hidden (Expr.namesOfAll conditions) →
    Avoids hidden (Clause.namesOfAll rest) →
    Blind hidden (collect n f kind item target conditions rest c done)
  collectRest : ∀ f kind item rest done, Avoids hidden item.names →
    Avoids hidden (Clause.namesOfAll rest) → Blind hidden (collectRest n f kind item rest done)
  allHold : ∀ f es, Avoids hidden (Expr.namesOfAll es) → Blind hidden (allHold n f es)
  assign : ∀ f target v, Avoids hidden target.names → Blind hidden (assign n f target v)
  assignAll : ∀ f (pairs : List (Expr × Value)), (∀ p ∈ pairs, Avoids hidden p.1.names) →
    Blind hidden (assignAll n f pairs)
  update : ∀ f target op e, Avoids hidden target.names → Avoids hidden e.names →
    Blind hidden (update n f target op e)
  deleteAll : ∀ f ts, Avoids hidden (Expr.namesOfAll ts) → Blind hidden (deleteAll n f ts)
  run : ∀ f s, Avoids hidden s.names → Blind hidden (run n f s)
  runAll : ∀ f ss, Avoids hidden (Stmt.namesOfAll ss) → Blind hidden (runAll n f ss)
  runLoop : ∀ f test body otherwise, Avoids hidden test.names →
    Avoids hidden (Stmt.namesOfAll body) → Avoids hidden (Stmt.namesOfAll otherwise) →
    Blind hidden (runLoop n f test body otherwise)
  runEach : ∀ f c target body otherwise, Avoids hidden target.names →
    Avoids hidden (Stmt.namesOfAll body) → Avoids hidden (Stmt.namesOfAll otherwise) →
    Blind hidden (runEach n f c target body otherwise)
  handle : ∀ f e hs, Avoids hidden (Handler.namesOfAll hs) → Blind hidden (handle n f e hs)

theorem avoids_of_mem {e : Expr} {es : List Expr} (hes : Avoids hidden (Expr.namesOfAll es))
    (he : e ∈ es) : Avoids hidden e.names := by
  induction es with
  | nil => contradiction
  | cons a es ih =>
    simp only [Expr.namesOfAll, avoids_append] at hes
    obtain rfl | he := List.mem_cons.1 he
    · exact hes.1
    · exact ih hes.2 he

theorem avoids_unstarred {e : Expr} (he : Avoids hidden e.names) :
    Avoids hidden e.unstarred.names := by
  cases e <;> exact he

theorem blindAt_zero : BlindAt hidden 0 := by
  constructor <;> intros <;> exact .exhausted

namespace BlindAt

variable {n : Nat} (h : BlindAt hidden n)
include h

theorem eval_option (f : Frame) (e : Option Expr) (he : Avoids hidden (Expr.namesOfOption e)) :
    Blind hidden (match e with
      | none => return .none
      | some e => Script.eval n f e) := by
  cases e with
  | none => exact .pure _
  | some e => exact h.eval f e he

theorem eval_succ (f : Frame) (e : Expr) (he : Avoids hidden e.names) :
    Blind hidden (Script.eval (n + 1) f e) := by
  unfold Script.eval
  cases e with
  | constant c => exact .pure _
  | name x => exact f.blind_read (he x (by simp [Expr.names]))
  | list es => exact .bind (h.evalItems f es he) fun _ => .makeList _
  | tuple es => exact .settled (.bind (h.evalItems f es he) fun _ => .pure _)
  | dict es => exact .bind (h.evalEntries f es _ _ he) fun _ => .makeDict _
  | starred e => exact .raise _ _
  | grouped e => exact h.eval f e he
  | comprehension kind item clauses =>
    dsimp only
    split
    · exact kind.blind_gather _
    · next target items conditions rest =>
      simp only [Expr.names, Clause.namesOfAll, avoids_append] at he
      obtain ⟨hitem, htarget, hitems, hconditions, hrest⟩ := he
      exact .bind (h.eval f items hitems) fun _ => .bind (.withHeap _) fun _ =>
        .bind (Frame.blind_enter _ _) fun _ =>
        .bind (.deeper (h.collect _ _ _ _ _ _ _ _ hitem htarget hconditions hrest)) fun _ =>
        kind.blind_gather _
  | lambda ps body =>
    simp only [Expr.names, avoids_append] at he
    exact h.makeFunction f _ ps _ he.1 (by simpa [Stmt.namesOfAll, Stmt.names, Expr.namesOfOption] using he.2)
  | call e as =>
    simp only [Expr.names, avoids_append] at he
    exact .bind (h.eval f e he.1) fun _ => .bind (h.evalArguments f as _ he.2) fun _ => h.apply _ _
  | «attribute» e x => exact .settled (.bind (h.eval f e he) fun _ => .withHeap _)
  | subscript e i =>
    simp only [Expr.names, avoids_append] at he
    exact .settled (.bind (h.eval f e he.1) fun _ => .bind (h.eval f i he.2) fun _ =>
      Value.blind_getItem _ _)
  | slice a b c =>
    simp only [Expr.names, avoids_append] at he
    exact .bind (h.eval_option f a he.1) fun _ => .bind (h.eval_option f b he.2.1) fun _ =>
      .bind (h.eval_option f c he.2.2) fun _ => .pure _
  | unary op e => exact .settled (.bind (h.eval f e he) fun _ => .withHeap _)
  | binary op a b =>
    simp only [Expr.names, avoids_append] at he
    exact .settled (.bind (h.eval f a he.1) fun _ => .bind (h.eval f b he.2) fun _ =>
      Value.blind_operate _ _ _)
  | compare e others =>
    simp only [Expr.names, avoids_append] at he
    exact .bind (h.eval f e he.1) fun _ => h.compareAll f _ others he.2
  | both a b =>
    simp only [Expr.names, avoids_append] at he
    refine .bind (h.eval f a he.1) fun v => .bind (.look _) fun c => ?_
    split
    · exact h.eval f b he.2
    · exact .pure _
  | either a b =>
    simp only [Expr.names, avoids_append] at he
    refine .bind (h.eval f a he.1) fun v => .bind (.look _) fun c => ?_
    split
    · exact .pure _
    · exact h.eval f b he.2
  | conditional test yes no =>
    simp only [Expr.names, avoids_append] at he
    refine .bind (h.eval f test he.1) fun v => .bind (.look _) fun c => ?_
    split
    · exact h.eval f yes he.2.1
    · exact h.eval f no he.2.2

theorem evalItems_succ (f : Frame) (es : List Expr) (hes : Avoids hidden (Expr.namesOfAll es)) :
    Blind hidden (Script.evalItems (n + 1) f es) := by
  cases es with
  | nil => exact .pure _
  | cons e es =>
    simp only [Expr.namesOfAll, avoids_append] at hes
    have hrest : ∀ vs : List Value, Blind hidden (do return vs ++ (← Script.evalItems n f es)) :=
      fun _ => .bind (h.evalItems f es hes.2) fun _ => .pure _
    by_cases hstar : ∃ e', e = .starred e'
    · obtain ⟨e', rfl⟩ := hstar
      rw [Script.evalItems]
      exact .bind (h.eval f e' hes.1) fun v => .bind v.blind_itemsOf hrest
    · rw [Script.evalItems]
      · exact .bind (h.eval f e hes.1) fun v => .bind (h.evalItems f es hes.2) fun _ => .pure _
      · exact fun e' he => hstar ⟨e', he⟩

theorem evalEntries_succ (f : Frame) (es : List Entry) (pending : List Item) (done : Dictionary)
    (hes : Avoids hidden (Entry.namesOfAll es)) :
    Blind hidden (Script.evalEntries (n + 1) f es pending done) := by
  cases es with
  | nil =>
    rw [Script.evalEntries]
    exact .withHeap _
  | cons e es =>
    cases e with
    | pair k e =>
      simp only [Entry.namesOfAll, avoids_append] at hes
      rw [Script.evalEntries]
      exact .bind (h.eval f k hes.1) fun _ => .bind (h.eval f e hes.2.1) fun _ =>
        h.evalEntries f es _ _ hes.2.2
    | spread e =>
      simp only [Entry.namesOfAll, avoids_append] at hes
      rw [Script.evalEntries]
      refine .bind (.withHeap _) fun _ => .bind (h.eval f e hes.1) fun v => ?_
      split
      · exact .bind (.look _) fun _ => .bind (.withHeap _) fun _ => h.evalEntries f es _ _ hes.2
      · exact .raise _ _

theorem makeFunction_succ (f : Frame) (name : Text) (ps : List Parameter) (body : List Stmt)
    (hps : Avoids hidden (Parameter.namesOfAll ps)) (hbody : Avoids hidden (Stmt.namesOfAll body)) :
    Blind hidden (Script.makeFunction (n + 1) f name ps body) := by
  have hdefault : ∀ p ∈ ps, Avoids hidden (Expr.namesOfOption p.default?) := by
    induction ps with
    | nil => simp
    | cons p ps ih =>
      obtain ⟨x, kind, default?⟩ := p
      simp only [Parameter.namesOfAll, avoids_cons, avoids_append] at hps
      exact List.forall_mem_cons.2 ⟨hps.2.1, ih hps.2.2⟩
  rw [Script.makeFunction]
  refine .bind (.mapM ps fun p hp => ?_) fun slots => .bind (.make hbody) fun _ => .pure _
  have := hdefault p hp
  cases hd : p.default? with
  | none => exact .pure _
  | some e =>
    rw [hd] at this
    exact .bind (h.eval f e this) fun _ => .pure _

theorem compareAll_succ (f : Frame) (v : Value) (others : List (CompareOp × Expr))
    (ho : Avoids hidden (Expr.namesOfComparisons others)) :
    Blind hidden (Script.compareAll (n + 1) f v others) := by
  cases others with
  | nil => exact .pure _
  | cons o others =>
    obtain ⟨op, e⟩ := o
    simp only [Expr.namesOfComparisons, avoids_append] at ho
    rw [Script.compareAll]
    refine .bind (h.eval f e ho.1) fun w => .bind (op.blind_holds v w) fun b => ?_
    split
    · exact .pure _
    · exact h.compareAll f w others ho.2

theorem evalArguments_succ (f : Frame) (as : List Argument) (a : Arguments)
    (has : Avoids hidden (Argument.namesOfAll as)) :
    Blind hidden (Script.evalArguments (n + 1) f as a) := by
  cases as with
  | nil => exact .pure _
  | cons x as =>
    cases x with
    | positional e =>
      simp only [Argument.namesOfAll, avoids_append] at has
      rw [Script.evalArguments]
      exact .bind (h.eval f e has.1) fun _ => h.evalArguments f as _ has.2
    | spread e =>
      simp only [Argument.namesOfAll, avoids_append] at has
      rw [Script.evalArguments]
      exact .bind (h.eval f e has.1) fun v => .bind v.blind_itemsOf fun _ =>
        h.evalArguments f as _ has.2
    | named x e =>
      simp only [Argument.namesOfAll, avoids_append] at has
      rw [Script.evalArguments]
      refine .bind (h.eval f e has.1) fun v => ?_
      split
      · exact .raise _ _
      · exact h.evalArguments f as _ has.2
    | spreadNamed e =>
      simp only [Argument.namesOfAll, avoids_append] at has
      rw [Script.evalArguments]
      exact .bind (h.eval f e has.1) fun v => .bind (blind_spreadNamed _ v) fun _ =>
        h.evalArguments f as _ has.2

theorem apply_succ (v : Value) (a : Arguments) : Blind hidden (Script.apply (n + 1) v a) := by
  rw [Script.apply]
  exact .settled (.deeper (h.applyWithin v a))

theorem callClosure (g : Address) (a : Arguments) :
    Blind hidden (do
      match ← Run.look (·.closure? g) with
      | some c => Script.call n c a
      | none => Run.raise .typeError) := by
  intro s t hst
  have hlook : Run.look (·.closure? g) s = .done (s.heap.closure? g) s := rfl
  have hlook' : Run.look (·.closure? g) t = .done (s.heap.closure? g) t := by
    rw [Run.look, hst.heap]
  rw [bind_done hlook, bind_done hlook']
  cases hc : s.heap.closure? g with
  | none => exact .raised _ hst
  | some c => exact h.call c a (hst.closures g c hc) s t hst

theorem applyWithin_succ (v : Value) (a : Arguments) :
    Blind hidden (Script.applyWithin (n + 1) v a) := by
  unfold Script.applyWithin
  split
  · refine .bind (.ofResult _) fun vs => ?_
    split
    · exact .bind (blind_zip _) fun v => .bind v.blind_itemsOf fun rows =>
        .bind (.mapM rows fun row _ => .bind row.blind_itemsOf fun _ => h.apply _ _) fun _ =>
        .makeIterator _ _
    · exact .raise _ _
  · refine .bind (.ofResult _) fun vs => ?_
    split
    · refine .bind (Value.blind_itemsOf _) fun items =>
        .bind (.filterM (fun w => ?_) items) fun _ => .makeIterator _ _
      split
      · exact .look _
      · exact .bind (h.apply _ _) fun _ => .look _
    · exact .raise _ _
  · exact Value.blind_ofType _ _
  · exact Value.blind_ofExceptionClass _ _
  · exact .bind (.ofResult _) fun v => .bind v.blind_itemsOf fun _ => .bind (h.sort _ _ _) fun _ =>
      .makeList _
  · exact h.best _ _
  · exact h.best _ _
  · exact Builtin.blind_call _ _
  · exact .bind (.ofResult _) fun _ => .bind (.look _) fun _ => .bind (h.sort _ _ _) fun _ =>
      .bind (.putItems _ _) fun _ => .pure _
  · exact Value.blind_callMethod _ _ _
  · split
    · split
      · exact h.applyWithin _ _
      · exact .raise _ _
    · exact .raise _ _
  · exact h.callClosure _ _
  · exact .raise _ _

theorem keyed_succ (key : Option Value) (items : List Value) :
    Blind hidden (Script.keyed (n + 1) key items) := by
  unfold Script.keyed
  split
  · exact .pure _
  · exact .pure _
  · exact .mapM items fun _ _ => .bind (h.apply _ _) fun _ => .pure _

theorem sort_succ (key reverse : Option Value) (items : List Value) :
    Blind hidden (Script.sort (n + 1) key reverse items) := by
  rw [Script.sort]
  exact .bind (.ofResult _) fun _ => .bind (h.keyed _ _) fun _ => .withHeap _

theorem best_of_items (op : Value.Order) (key default? : Option Value) (items : List Value) :
    Blind hidden (do
      let entries ← Script.keyed n key items
      match (← Run.withHeap fun h => Builtin.extreme h op entries).or default? with
      | some v => return v
      | none => Run.raise .valueError) := by
  refine .bind (h.keyed _ _) fun _ => .bind (.withHeap _) fun _ => ?_
  split
  · exact .pure _
  · exact .raise _ _

theorem best_succ (op : Value.Order) (a : Arguments) :
    Blind hidden (Script.best (n + 1) op a) := by
  rw [Script.best]
  refine .bind (.ofResult _) fun vs => ?_
  split
  · exact .bind (.raise _ _) fun _ => h.best_of_items _ _ _ _
  · exact .bind (.raise _ _) fun _ => h.best_of_items _ _ _ _
  · exact .bind (Value.blind_itemsOf _) fun _ => h.best_of_items _ _ _ _
  · exact .bind (.pure _) fun _ => h.best_of_items _ _ _ _

theorem call_succ (c : Closure) (a : Arguments) (hc : Avoids hidden (Stmt.namesOfAll c.body)) :
    Blind hidden (Script.call (n + 1) c a) := by
  rw [Script.call]
  refine .bind (.ofResult _) fun b => .bind b.blind_all fun given =>
    .bind (Frame.blind_enter _ _) fun f => .bind (h.runAll f _ hc) fun flow => ?_
  split
  · exact .pure _
  · exact .pure _

theorem collect_succ (f : Frame) (kind : Collection) (item target : Expr) (conditions : List Expr)
    (rest : List Clause) (c : Cursor) (done : List Value) (hitem : Avoids hidden item.names)
    (htarget : Avoids hidden target.names) (hconditions : Avoids hidden (Expr.namesOfAll conditions))
    (hrest : Avoids hidden (Clause.namesOfAll rest)) :
    Blind hidden (Script.collect (n + 1) f kind item target conditions rest c done) := by
  rw [Script.collect]
  refine .bind c.blind_next fun r => ?_
  split
  · exact .pure _
  · refine .bind (h.assign f target _ htarget) fun _ =>
      .bind (h.allHold f conditions hconditions) fun b => ?_
    have hnext := fun c done => h.collect f kind item target conditions rest c done hitem htarget
      hconditions hrest
    split
    · exact .bind (h.collectRest f kind item rest done hitem hrest) fun _ => hnext _ _
    · exact .bind (.pure _) fun _ => hnext _ _

theorem collectRest_succ (f : Frame) (kind : Collection) (item : Expr) (rest : List Clause)
    (done : List Value) (hitem : Avoids hidden item.names)
    (hrest : Avoids hidden (Clause.namesOfAll rest)) :
    Blind hidden (Script.collectRest (n + 1) f kind item rest done) := by
  cases rest with
  | nil => exact .bind (h.eval f item hitem) fun _ => .bind (.ofResult _) fun _ => .pure _
  | cons clause rest =>
    obtain ⟨target, items, conditions⟩ := clause
    simp only [Clause.namesOfAll, avoids_append] at hrest
    obtain ⟨htarget, hitems, hconditions, hrest⟩ := hrest
    exact .bind (h.eval f items hitems) fun _ => .bind (.withHeap _) fun _ =>
      h.collect f kind item target conditions rest _ done hitem htarget hconditions hrest

theorem allHold_succ (f : Frame) (es : List Expr) (hes : Avoids hidden (Expr.namesOfAll es)) :
    Blind hidden (Script.allHold (n + 1) f es) := by
  cases es with
  | nil => exact .pure _
  | cons e es =>
    simp only [Expr.namesOfAll, avoids_append] at hes
    refine .bind (h.eval f e hes.1) fun _ => .bind (.look _) fun b => ?_
    split
    · exact h.allHold f es hes.2
    · exact .pure _

theorem assign_succ (f : Frame) (target : Expr) (v : Value) (ht : Avoids hidden target.names) :
    Blind hidden (Script.assign (n + 1) f target v) := by
  -- A list and a tuple of targets take their values alike.
  have hunpack : ∀ ts, Avoids hidden (Expr.namesOfAll ts) → Blind hidden (do
      let vs ← v.unpack (ts.findIdx? Expr.isStarred) ts.length
      Script.assignAll n f ((ts.map Expr.unstarred).zip vs)) := by
    intro ts hts
    refine .bind (v.blind_unpack _ _) fun vs => h.assignAll f _ fun p hp => ?_
    obtain ⟨e, he, hep⟩ := List.mem_map.1 (List.of_mem_zip hp).1
    rw [← hep]
    exact avoids_unstarred (avoids_of_mem hts he)
  unfold Script.assign
  split
  · exact f.blind_write v
  · simp only [Expr.names, avoids_append] at ht
    exact .bind (h.eval f _ ht.1) fun w => .bind (h.eval f _ ht.2) fun i => w.blind_setItem i v
  · exact .bind (h.eval f _ ht) fun _ => .raise _ _
  · exact hunpack _ ht
  · exact hunpack _ ht
  · exact h.assign f _ v ht
  · exact .raise _ _

theorem assignAll_succ (f : Frame) (pairs : List (Expr × Value))
    (hp : ∀ p ∈ pairs, Avoids hidden p.1.names) :
    Blind hidden (Script.assignAll (n + 1) f pairs) := by
  cases pairs with
  | nil => exact .pure _
  | cons p pairs =>
    obtain ⟨hfirst, hrest⟩ := List.forall_mem_cons.1 hp
    exact .bind (h.assign f _ _ hfirst) fun _ => h.assignAll f pairs hrest

theorem update_succ (f : Frame) (target : Expr) (op : BinaryOp) (e : Expr)
    (ht : Avoids hidden target.names) (he : Avoids hidden e.names) :
    Blind hidden (Script.update (n + 1) f target op e) := by
  unfold Script.update
  split
  · next x =>
    have hx : x ∉ hidden := ht x (by simp [Expr.names])
    exact .bind (f.blind_read hx) fun _ => .bind (h.eval f e he) fun _ =>
      .bind (.settled (Value.blind_operateInPlace _ _ _)) fun _ => f.blind_write _
  · simp only [Expr.names, avoids_append] at ht
    exact .bind (h.eval f _ ht.1) fun v => .bind (h.eval f _ ht.2) fun i =>
      .bind (v.blind_getItem i) fun _ => .bind (h.eval f e he) fun _ =>
      .bind (.settled (Value.blind_operateInPlace _ _ _)) fun _ => v.blind_setItem i _
  · exact .bind (h.eval f _ ht) fun _ => .bind (.withHeap _) fun _ => .bind (h.eval f e he) fun _ =>
      .bind (Value.blind_operateInPlace _ _ _) fun _ => .raise _ _
  · exact h.update f _ op e ht he
  · exact .raise _ _

theorem deleteAll_succ (f : Frame) (ts : List Expr) (hts : Avoids hidden (Expr.namesOfAll ts)) :
    Blind hidden (Script.deleteAll (n + 1) f ts) := by
  cases ts with
  | nil => exact .pure _
  | cons t ts =>
    simp only [Expr.namesOfAll, avoids_append] at hts
    obtain ⟨ht, hts⟩ := hts
    have hrest : Blind hidden (Script.deleteAll n f ts) := h.deleteAll f ts hts
    unfold Script.deleteAll
    dsimp only
    split
    · next x =>
      have hx : x ∉ hidden := ht x (by simp [Expr.names])
      exact .bind (f.blind_readOwn hx) fun _ => .bind f.blind_forget fun _ => hrest
    · simp only [Expr.names, avoids_append] at ht
      exact .bind (h.eval f _ ht.1) fun v => .bind (h.eval f _ ht.2) fun i =>
        .bind (v.blind_deleteItem i) fun _ => hrest
    · exact .bind (h.eval f _ ht) fun _ => .bind (.raise _ _) fun _ => hrest
    · exact .bind (h.deleteAll f _ ht) fun _ => hrest
    · exact .bind (h.deleteAll f _ ht) fun _ => hrest
    · refine .bind (h.deleteAll f _ ?_) fun _ => hrest
      simpa [Expr.namesOfAll, Expr.names] using ht
    · exact .bind (.raise _ _) fun _ => hrest

theorem run_succ (f : Frame) (c : Stmt) (hc : Avoids hidden c.names) :
    Blind hidden (Script.run (n + 1) f c) := by
  unfold Script.run
  cases c with
  | expression e => exact .bind (h.eval f e hc) fun _ => .pure _
  | assign ts e =>
    simp only [Stmt.names, avoids_append] at hc
    refine .bind (h.eval f e hc.2) fun v => .bind (h.assignAll f _ fun p hp => ?_) fun _ => .pure _
    obtain ⟨t, ht, rfl⟩ := List.mem_map.1 hp
    exact avoids_of_mem hc.1 ht
  | update target op e =>
    simp only [Stmt.names, avoids_append] at hc
    exact .bind (h.update f target op e hc.1 hc.2) fun _ => .pure _
  | declare x => exact .pure _
  | give e =>
    cases e with
    | none => exact .pure _
    | some e => exact .bind (h.eval f e hc) fun _ => .pure _
  | raise e cause =>
    simp only [Stmt.names, avoids_append] at hc
    have hraise : ∀ (v c : Value), Blind hidden
        (if c.isCause then Run.ofResult (.error v.toRaised) else Run.raise .typeError : Run Flow) := by
      intro v c
      split
      · exact .ofResult _
      · exact .raise _ _
    refine .bind (h.eval f e hc.1) fun v => ?_
    cases cause with
    | none => exact .bind (.pure _) (hraise v)
    | some c => exact .bind (h.eval f c hc.2) (hraise v)
  | raiseAgain => exact blind_raiseAgain
  | assert test message =>
    simp only [Stmt.names, avoids_append] at hc
    refine .bind (h.eval f test hc.1) fun _ => .bind (.look _) fun b => ?_
    split
    · exact .pure _
    · cases message with
      | none => exact .raise _ _
      | some e => exact .bind (h.eval f e hc.2) fun _ => .raise _ _
  | delete ts => exact .bind (h.deleteAll f ts hc) fun _ => .pure _
  | pass => exact .pure _
  | leave => exact .pure _
  | next => exact .pure _
  | branch test yes no =>
    simp only [Stmt.names, avoids_append] at hc
    refine .bind (h.eval f test hc.1) fun _ => .bind (.look _) fun b => ?_
    split
    · exact h.runAll f yes hc.2.1
    · exact h.runAll f no hc.2.2
  | loop test body otherwise =>
    simp only [Stmt.names, avoids_append] at hc
    exact h.runLoop f test body otherwise hc.1 hc.2.1 hc.2.2
  | each target items body otherwise =>
    simp only [Stmt.names, avoids_append] at hc
    obtain ⟨htarget, hitems, hbody, hotherwise⟩ := hc
    exact .bind (h.eval f items hitems) fun _ => .bind (.withHeap _) fun _ =>
      h.runEach f _ target body otherwise htarget hbody hotherwise
  | attempt body handlers otherwise finally_ =>
    simp only [Stmt.names, avoids_append] at hc
    obtain ⟨hbody, hhandlers, hotherwise, hfinally⟩ := hc
    exact blind_attempt (h.runAll f body hbody) (h.runAll f otherwise hotherwise)
      (fun e => .bind e.blind_settle fun e => h.handle f e handlers hhandlers)
      (h.runAll f finally_ hfinally)
  | define x ps body =>
    simp only [Stmt.names, avoids_cons, avoids_append] at hc
    exact .bind (h.makeFunction f x ps body hc.2.1 hc.2.2) fun _ =>
      .bind (f.blind_write _) fun _ => .pure _

theorem runAll_succ (f : Frame) (ss : List Stmt) (hss : Avoids hidden (Stmt.namesOfAll ss)) :
    Blind hidden (Script.runAll (n + 1) f ss) := by
  cases ss with
  | nil => exact .pure _
  | cons c ss =>
    simp only [Stmt.namesOfAll, avoids_append] at hss
    refine .bind (h.run f c hss.1) fun flow => ?_
    split
    · exact h.runAll f ss hss.2
    · exact .pure _

theorem runLoop_succ (f : Frame) (test : Expr) (body otherwise : List Stmt)
    (htest : Avoids hidden test.names) (hbody : Avoids hidden (Stmt.namesOfAll body))
    (hotherwise : Avoids hidden (Stmt.namesOfAll otherwise)) :
    Blind hidden (Script.runLoop (n + 1) f test body otherwise) := by
  rw [Script.runLoop]
  refine .bind (h.eval f test htest) fun _ => .bind (.look _) fun b => ?_
  split
  · refine .bind (h.runAll f body hbody) fun flow => ?_
    split
    · exact h.runLoop f test body otherwise htest hbody hotherwise
    · exact h.runLoop f test body otherwise htest hbody hotherwise
    · exact .pure _
    · exact .pure _
  · exact h.runAll f otherwise hotherwise

theorem runEach_succ (f : Frame) (c : Cursor) (target : Expr) (body otherwise : List Stmt)
    (htarget : Avoids hidden target.names) (hbody : Avoids hidden (Stmt.namesOfAll body))
    (hotherwise : Avoids hidden (Stmt.namesOfAll otherwise)) :
    Blind hidden (Script.runEach (n + 1) f c target body otherwise) := by
  rw [Script.runEach]
  refine .bind c.blind_next fun r => ?_
  split
  · exact h.runAll f otherwise hotherwise
  · refine .bind (h.assign f target _ htarget) fun _ => .bind (h.runAll f body hbody) fun flow => ?_
    have hnext := fun c => h.runEach f c target body otherwise htarget hbody hotherwise
    split
    · exact hnext _
    · exact hnext _
    · exact .pure _
    · exact .pure _

theorem handle_taken (f : Frame) (e : Raised) (name : Option Text) {body : List Stmt} {hs : List Handler}
    (hbody : Avoids hidden (Stmt.namesOfAll body)) (hhs : Avoids hidden (Handler.namesOfAll hs))
    (taken : Bool) :
    Blind hidden (if taken then
        match name with
        | none => whileHandling e (Script.runAll n f body)
        | some x => do
          f.write x (.exception e.cls e.arguments e.id)
          fun s =>
            match whileHandling e (Script.runAll n f body) s with
            | .exhausted => .exhausted
            | .done flow s => (do f.forget x; return flow : Run Flow) s
            | .raised r s => (do f.forget x; fun s => .raised r s : Run Flow) s
      else Script.handle n f e hs) := by
  have hrun := blind_whileHandling e (h.runAll f body hbody)
  split
  · cases name with
    | none => exact hrun
    | some x => exact .bind (f.blind_write _) fun _ => f.blind_thenForget x hrun
  · exact h.handle f e hs hhs

theorem handle_succ (f : Frame) (e : Raised) (hs : List Handler)
    (hhs : Avoids hidden (Handler.namesOfAll hs)) :
    Blind hidden (Script.handle (n + 1) f e hs) := by
  cases hs with
  | nil => exact fun _ _ hst => .raised e hst
  | cons handler hs =>
    obtain ⟨classes, name, body⟩ := handler
    simp only [Handler.namesOfAll, avoids_append] at hhs
    obtain ⟨hclasses, hname, hbody, hhs⟩ := hhs
    have hrest := h.handle_taken f e name hbody hhs
    unfold Script.handle
    dsimp only
    cases classes with
    | none => exact .bind (.pure _) hrest
    | some c =>
      refine .bind (blind_whileHandling e (h.eval f c hclasses)) fun v =>
        .bind (.ofResult _) fun cs => .bind (.pure _) hrest

end BlindAt

/-- Evaluation is blind with every bound. -/
theorem blindAt (n : Nat) : BlindAt hidden n := by
  induction n with
  | zero => exact blindAt_zero
  | succ n ih => exact {
      eval := ih.eval_succ
      evalItems := ih.evalItems_succ
      evalEntries := ih.evalEntries_succ
      makeFunction := ih.makeFunction_succ
      compareAll := ih.compareAll_succ
      evalArguments := ih.evalArguments_succ
      apply := ih.apply_succ
      applyWithin := ih.applyWithin_succ
      keyed := ih.keyed_succ
      sort := ih.sort_succ
      best := ih.best_succ
      call := ih.call_succ
      collect := ih.collect_succ
      collectRest := ih.collectRest_succ
      allHold := ih.allHold_succ
      assign := ih.assign_succ
      assignAll := ih.assignAll_succ
      update := ih.update_succ
      deleteAll := ih.deleteAll_succ
      run := ih.run_succ
      runAll := ih.runAll_succ
      runLoop := ih.runLoop_succ
      runEach := ih.runEach_succ
      handle := ih.handle_succ }

/-- The text is that of a program without the names, or of none. -/
def Program.Avoids (hidden : List Text) (code : Text) : Prop :=
  ∀ ss, Program.ofText code = .ok ss → Script.Avoids hidden (Stmt.namesOfAll ss)

namespace Module

def Agrees (hidden : List Text) (m m' : Module) : Prop := m.state.Agrees hidden m'.state

end Module

/-- The same fault, but for what variables with hidden names were when an exception was raised. -/
inductive LoadFault.Agrees (hidden : List Text) : LoadFault → LoadFault → Prop
  | same (f : LoadFault) : Agrees hidden f f
  | raised (e : Raised) {m m' : Module} (h : m.Agrees hidden m') :
    Agrees hidden (.raised e m) (.raised e m')

namespace Module

variable {m m' : Module}

/-- Modules of one program agree whatever values the hidden names have at the start. -/
theorem load_agrees {g g' : Table Text Value} {code : Text}
    (hg : ∀ n, n ∉ hidden → g'.find? n = g.find? n) (hc : Program.Avoids hidden code) :
    (∃ f f', load g code = .error f ∧ load g' code = .error f' ∧ f.Agrees hidden f') ∨
      ∃ m m', load g code = .ok m ∧ load g' code = .ok m' ∧ m.Agrees hidden m' := by
  unfold load loadWithin
  cases hp : Program.ofText code with
  | error f => exact .inl ⟨_, _, rfl, rfl, .same _⟩
  | ok ss =>
    have hstart : State.Agrees hidden { globals := g } { globals := g' } :=
      ⟨rfl, rfl, rfl, hg, fun a c hclosure => by simp [Heap.closure?, Heap.object?] at hclosure⟩
    have hrun := (blindAt maxSteps).runAll {} ss (hc ss hp) _ _ hstart
    dsimp only
    generalize runAll maxSteps {} ss { globals := g } = o at hrun
    generalize runAll maxSteps {} ss { globals := g' } = p at hrun
    cases hrun with
    | done flow h => exact .inr ⟨_, _, rfl, rfl, h⟩
    | raised e h => exact .inl ⟨_, _, rfl, rfl, .raised e h⟩
    | exhausted => exact .inl ⟨_, _, rfl, rfl, .same _⟩

theorem Agrees.function? (h : m.Agrees hidden m') {n : Text} (hn : n ∉ hidden) :
    m'.function? n = m.function? n := by
  rw [Module.function?, Module.function?, h.globals n hn]

theorem Agrees.call (h : m.Agrees hidden m') (f : Value) (arguments : List Data) :
    Outcome.Agrees hidden (m.call f arguments) (m'.call f arguments) :=
  Blind.bind (Value.blind_ofAllData arguments) (fun _ => (blindAt maxSteps).apply f _) _ _ h

end Module
end TemplateEngine.Script
