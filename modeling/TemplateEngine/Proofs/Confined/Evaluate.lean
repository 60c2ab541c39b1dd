import TemplateEngine.Proofs.Confined.Methods
import TemplateEngine.Proofs.Script.BlindEvaluate

set_option autoImplicit false

/-!
# Expressions do not get at secret objects

An expression that mentions no hidden name is confined: it has a value that leads to no secret object, or
raises an exception, and either way whatever the secrets are, which stay as they are. The functions that it
may call mention none either. What statements need of expressions is here too.
-/
namespace TemplateEngine.Script

open Run

variable {hidden : Reserved} {secret : List Address}

mutual

theorem Constant.apart_value (c : Constant) : c.value.Apart secret := by
  cases c with
  | int i =>
    rw [Constant.value]
    split <;> trivial
  | tuple items =>
    cases items with
    | nil => simp [Constant.value]
    | cons c cs => exact (Value.apart_tuple _ _).2 (Constant.apart_values (c :: cs))
  | _ => trivial

theorem Constant.apart_values (cs : List Constant) : ∀ v ∈ Constant.values cs, v.Apart secret := by
  cases cs with
  | nil => simp [Constant.values]
  | cons c cs => exact List.forall_mem_cons.2 ⟨c.apart_value, Constant.apart_values cs⟩

end

theorem CompareOp.confined_holds (op : CompareOp) {v w : Value} (hv : v.Apart secret)
    (hw : w.Apart secret) : Confined hidden secret (fun _ => True) (op.holds v w) := by
  have hordered : ∀ o : Value.Order,
      Confined hidden secret (fun _ => True) (withHeap fun h => v.ordered h o w) :=
    fun o => .withHeap fun _ _ hh => .of_eq (Value.ordered_alike hh o v w hv hw)
  unfold holds
  cases op with
  | equal => exact .withHeap fun _ _ hh => .of_eq (Value.equal_alike hh v w hv hw)
  | notEqual => exact .withHeap fun _ _ hh => .of_eq (by rw [Value.equal_alike hh v w hv hw])
  | same | notSame => exact .pure trivial
  | member => exact Value.confined_memberOf hv hw
  | notMember => exact .bind (Value.confined_memberOf hv hw) fun _ _ => .pure trivial
  | _ => exact hordered _

theorem confined_addEntries {d : Dictionary} {more : List Item} (hd : d.Apart secret)
    (hmore : ∀ e ∈ more, Item.Apart secret e) :
    Confined hidden secret (Dictionary.Apart secret) (addEntries d more) :=
  .withHeap fun _ _ hh => .bind (.refl _) fun _ _ => Dictionary.insertAll_alike hh hd hmore

theorem Collection.confined_gather (kind : Collection) {items : List Value}
    (h : ∀ v ∈ items, v.Apart secret) :
    Confined hidden secret (Value.Apart secret) (kind.gather items) := by
  cases kind with
  | list => exact .makeList h
  | iterator => exact .makeIterator (by decide) h
  | dict =>
    refine .bind (confined_addEntries Dictionary.apart_empty fun e he => ?_) fun _ hd => .makeDict hd
    obtain ⟨v, hv, hpair⟩ := List.mem_filterMap.1 he
    split at hpair
    · obtain rfl := Option.some.inj hpair
      simpa [Item.Apart] using h _ hv
    · contradiction

theorem Value.confined_unpack (before : Option Nat) (targets : Nat) {v : Value}
    (hv : v.Apart secret) :
    Confined hidden secret (fun vs => ∀ w ∈ vs, w.Apart secret) (v.unpack before targets) := by
  cases before with
  | none =>
    refine .bind (confined_firstItems _ hv) fun vs hvs => ?_
    split
    · exact .pure hvs
    · exact .raise _ _
  | some n =>
    refine .bind (confined_itemsOf hv) fun vs hvs => ?_
    split
    · exact .raise _ _
    · refine .bind (.makeList fun w hw => hvs w (List.mem_of_mem_drop (List.mem_of_mem_take hw)))
        fun rest hrest => .pure (List.forall_mem_append.2
          ⟨fun w hw => hvs w (List.mem_of_mem_take hw), List.forall_mem_cons.2
            ⟨hrest, fun w hw => hvs w (List.mem_of_mem_drop hw)⟩⟩)

theorem confined_zip {vs : List Value} (hvs : ∀ v ∈ vs, v.Apart secret) :
    Confined hidden secret (Value.Apart secret) (zip vs) :=
  .bind (.mapM vs fun v hv => v.confined_iteratorOf (hvs v hv)) fun _ hs => .makeIterator (by decide) hs

theorem Bound.Apart.confined_all {b : Bound} (hb : b.Apart secret) :
    Confined hidden secret (fun es => ∀ e ∈ es, e.2.Apart secret) b.all := by
  refine .bind (.mapM _ (R := fun e => e.2.Apart secret) fun e he => .bind (.settle ?_) fun v hv =>
    .pure hv) fun others hothers => .bind (.mapM _ (R := fun e => e.2.Apart secret) fun e he =>
      .bind (.makeDict (Dictionary.apart_ofEntries fun m hm => ?_)) fun v hv => .pure hv)
      fun named hnamed => .pure ?_
  · exact (Value.apart_ofItems _).2 (hb.others e (Option.mem_toList.1 he))
  · obtain ⟨x, hx, rfl⟩ := List.mem_map.1 hm
    exact ⟨trivial, hb.namedOthers e (Option.mem_toList.1 he) x hx⟩
  · exact List.forall_mem_append.2 ⟨List.forall_mem_append.2 ⟨hb.values, hothers⟩, hnamed⟩

theorem confined_holds {v : Value} (hv : v.Apart secret) :
    Confined hidden secret (fun _ => True) (holds v) :=
  .look (.of_eq fun _ _ hh => Value.truthy_alike hh hv)

theorem confined_spreadNamed {seen : List (Str × Value)} {v : Value}
    (hseen : ∀ e ∈ seen, e.2.Apart secret) (hv : v.Apart secret) :
    Confined hidden secret (fun es => ∀ e ∈ es, e.2.Apart secret) (spreadNamed seen v) := by
  unfold spreadNamed
  split
  · refine .bind (.look (P := fun es => ∀ e ∈ es, Item.Apart secret e) fun _ _ hh => hh.entries hv)
      fun entries hes => .foldlM entries (fun ns hns e he => ?_) hseen
    split
    · split
      · exact .raise _ _
      · exact .pure (List.forall_mem_append.2 ⟨hns, by simpa using (hes e he).2⟩)
    · exact .raise _ _
  · exact .raise _ _

def Flow.Apart (secret : List Address) : Flow → Prop
  | .give v => v.Apart secret
  | _ => True

/-- With this bound every function of the evaluator is confined. -/
structure ConfinedAt (hidden : Reserved) (secret : List Address) (n : Nat) : Prop where
  eval : ∀ f e, Avoids hidden.unread e.names →
    Confined hidden secret (Value.Apart secret) (eval n f e)
  evalItems : ∀ f es, Avoids hidden.unread (Expr.namesOfAll es) →
    Confined hidden secret (fun vs => ∀ v ∈ vs, v.Apart secret) (evalItems n f es)
  evalEntries : ∀ f es pending done, Avoids hidden.unread (Entry.namesOfAll es) →
    (∀ e ∈ pending, Item.Apart secret e) → done.Apart secret →
    Confined hidden secret (Dictionary.Apart secret) (evalEntries n f es pending done)
  makeFunction : ∀ f name ps body, Avoids hidden.unread (Parameter.namesOfAll ps) →
    Stmt.AllUnaware hidden body →
    Confined hidden secret (Value.Apart secret) (makeFunction n f name ps body)
  compareAll : ∀ f v others, v.Apart secret → Avoids hidden.unread (Expr.namesOfComparisons others) →
    Confined hidden secret (Value.Apart secret) (compareAll n f v others)
  evalArguments : ∀ f as a, Avoids hidden.unread (Argument.namesOfAll as) → a.Apart secret →
    Confined hidden secret (Arguments.Apart secret) (evalArguments n f as a)
  apply : ∀ v a, v.Apart secret → a.Apart secret →
    Confined hidden secret (Value.Apart secret) (apply n v a)
  applyWithin : ∀ v a, v.Apart secret → a.Apart secret →
    Confined hidden secret (Value.Apart secret) (applyWithin n v a)
  keyed : ∀ key items, (∀ v, key = some v → v.Apart secret) → (∀ v ∈ items, v.Apart secret) →
    Confined hidden secret (fun es => ∀ e ∈ es, Item.Apart secret e) (keyed n key items)
  sort : ∀ key reverse items, (∀ v, key = some v → v.Apart secret) →
    (∀ v ∈ items, v.Apart secret) →
    Confined hidden secret (fun vs => ∀ v ∈ vs, v.Apart secret) (sort n key reverse items)
  best : ∀ op a, a.Apart secret → Confined hidden secret (Value.Apart secret) (best n op a)
  call : ∀ c a, c.Apart hidden secret → a.Apart secret →
    Confined hidden secret (Value.Apart secret) (call n c a)
  collect : ∀ f kind item target conditions rest c done, f.IsOpen secret → Avoids hidden.unread item.names →
    Avoids hidden.unread target.names → Avoids hidden.unread (Expr.namesOfAll conditions) →
    Avoids hidden.unread (Clause.namesOfAll rest) → c.Apart secret → (∀ v ∈ done, v.Apart secret) →
    Confined hidden secret (fun vs => ∀ v ∈ vs, v.Apart secret)
      (collect n f kind item target conditions rest c done)
  collectRest : ∀ f kind item rest done, f.IsOpen secret → Avoids hidden.unread item.names →
    Avoids hidden.unread (Clause.namesOfAll rest) → (∀ v ∈ done, v.Apart secret) →
    Confined hidden secret (fun vs => ∀ v ∈ vs, v.Apart secret)
      (collectRest n f kind item rest done)
  allHold : ∀ f es, Avoids hidden.unread (Expr.namesOfAll es) →
    Confined hidden secret (fun _ => True) (allHold n f es)
  assign : ∀ f target v, f.Admits hidden secret target.bound → Avoids hidden.unread target.names →
    v.Apart secret → Confined hidden secret (fun _ => True) (assign n f target v)
  assignAll : ∀ f (pairs : List (Expr × Value)),
    (∀ p ∈ pairs, f.Admits hidden secret p.1.bound ∧ Avoids hidden.unread p.1.names ∧ p.2.Apart secret) →
    Confined hidden secret (fun _ => True) (assignAll n f pairs)
  update : ∀ f target op e, f.Admits hidden secret target.bound → Avoids hidden.unread target.names →
    Avoids hidden.unread e.names → Confined hidden secret (fun _ => True) (update n f target op e)
  deleteAll : ∀ f ts, f.Admits hidden secret (Expr.boundAll ts) → Avoids hidden.unread (Expr.namesOfAll ts) →
    Confined hidden secret (fun _ => True) (deleteAll n f ts)
  run : ∀ f st, f.Admits hidden secret st.bound → st.Unaware hidden →
    Confined hidden secret (Flow.Apart secret) (run n f st)
  runAll : ∀ f ss, f.Admits hidden secret (Stmt.boundAll ss) → Stmt.AllUnaware hidden ss →
    Confined hidden secret (Flow.Apart secret) (runAll n f ss)
  runLoop : ∀ f test body otherwise, f.Admits hidden secret (Stmt.boundAll body ++ Stmt.boundAll otherwise) →
    Avoids hidden.unread test.names → Stmt.AllUnaware hidden body → Stmt.AllUnaware hidden otherwise →
    Confined hidden secret (Flow.Apart secret) (runLoop n f test body otherwise)
  runEach : ∀ f c target body otherwise,
    f.Admits hidden secret (target.bound ++ Stmt.boundAll body ++ Stmt.boundAll otherwise) → c.Apart secret →
    Avoids hidden.unread target.names → Stmt.AllUnaware hidden body → Stmt.AllUnaware hidden otherwise →
    Confined hidden secret (Flow.Apart secret) (runEach n f c target body otherwise)
  handle : ∀ f e hs, f.Admits hidden secret (Handler.boundAll hs) → Handler.AllUnaware hidden hs →
    Confined hidden secret (Flow.Apart secret) (handle n f e hs)

theorem confinedAt_zero : ConfinedAt hidden secret 0 := by
  constructor <;> intros <;> exact .exhausted

namespace ConfinedAt

variable {n : Nat} (h : ConfinedAt hidden secret n)
include h

theorem eval_option (f : Frame) (e : Option Expr) : Avoids hidden.unread (Expr.namesOfOption e) →
    Confined hidden secret (Value.Apart secret) (match e with
      | none => return .none
      | some e => Script.eval n f e) := by
  intro he
  cases e with
  | none => exact .pure trivial
  | some e => exact h.eval f e he

theorem eval_succ (f : Frame) (e : Expr) (he : Avoids hidden.unread e.names) :
    Confined hidden secret (Value.Apart secret) (Script.eval (n + 1) f e) := by
  unfold Script.eval
  cases e with
  | constant c => exact .pure c.apart_value
  | name x => exact f.confined_read (he x (by simp [Expr.names]))
  | list es => exact .bind (h.evalItems f es he) fun _ hvs => .makeList hvs
  | tuple es => exact .settled (.bind (h.evalItems f es he) fun _ hvs => .pure (by simpa using hvs))
  | dict es =>
    exact .bind (h.evalEntries f es _ _ he (by simp) Dictionary.apart_empty) fun _ hd => .makeDict hd
  | starred e => exact .raise _ _
  | grouped e => exact h.eval f e he
  | comprehension kind item clauses =>
    dsimp only
    split
    · exact kind.confined_gather (by simp)
    · next target items conditions rest =>
      simp only [Expr.names, Clause.namesOfAll, avoids_append] at he
      obtain ⟨hitem, htarget, hitems, hconditions, hrest⟩ := he
      refine .bind (h.eval f items hitems) fun v hv => .bind (Value.confined_cursor hv) fun c hc =>
        .bind (Frame.confined_enter _ fun e he v hev => ?_) fun g hg =>
        .bind (.deeper (h.collect _ _ _ _ _ _ _ _ hg hitem htarget hconditions hrest hc (by simp)))
          fun vs hvs => kind.confined_gather (by simpa using hvs)
      obtain ⟨x, -, rfl⟩ := List.mem_map.1 he
      contradiction
  | lambda ps body =>
    simp only [Expr.names, avoids_append] at he
    exact h.makeFunction f _ ps _ he.1 ⟨by simpa [Stmt.namesOfAll, Stmt.names, Expr.namesOfOption] using he.2, rfl⟩
  | call e as =>
    simp only [Expr.names, avoids_append] at he
    exact .bind (h.eval f e he.1) fun _ hv =>
      .bind (h.evalArguments f as _ he.2 ⟨by simp, by simp⟩) fun _ ha => h.apply _ _ hv ha
  | «attribute» e x =>
    exact .settled (.bind (h.eval f e he) fun _ hv =>
      .withHeap fun _ _ hh => Value.getAttribute_alike hh x hv)
  | subscript e i =>
    simp only [Expr.names, avoids_append] at he
    exact .settled (.bind (h.eval f e he.1) fun _ hv => .bind (h.eval f i he.2) fun _ hi =>
      Value.confined_getItem hv hi)
  | slice a b c =>
    simp only [Expr.names, avoids_append] at he
    exact .bind (h.eval_option f a he.1) fun _ ha => .bind (h.eval_option f b he.2.1) fun _ hb =>
      .bind (h.eval_option f c he.2.2) fun _ hc => .pure ⟨ha, hb, hc⟩
  | unary op e =>
    exact .settled (.bind (h.eval f e he) fun _ hv => .withHeap fun _ _ hh =>
      Value.unary_alike hh op hv)
  | binary op a b =>
    simp only [Expr.names, avoids_append] at he
    exact .settled (.bind (h.eval f a he.1) fun _ hv => .bind (h.eval f b he.2) fun _ hw =>
      Value.confined_operate op hv hw)
  | compare e others =>
    simp only [Expr.names, avoids_append] at he
    exact .bind (h.eval f e he.1) fun _ hv => h.compareAll f _ others hv he.2
  | both a b =>
    simp only [Expr.names, avoids_append] at he
    refine .bind (h.eval f a he.1) fun v hv => .bind (confined_holds hv) fun c _ => ?_
    split
    · exact h.eval f b he.2
    · exact .pure hv
  | either a b =>
    simp only [Expr.names, avoids_append] at he
    refine .bind (h.eval f a he.1) fun v hv => .bind (confined_holds hv) fun c _ => ?_
    split
    · exact .pure hv
    · exact h.eval f b he.2
  | conditional test yes no =>
    simp only [Expr.names, avoids_append] at he
    refine .bind (h.eval f test he.1) fun v hv => .bind (confined_holds hv) fun c _ => ?_
    split
    · exact h.eval f yes he.2.1
    · exact h.eval f no he.2.2

theorem evalItems_succ (f : Frame) (es : List Expr) (hes : Avoids hidden.unread (Expr.namesOfAll es)) :
    Confined hidden secret (fun vs => ∀ v ∈ vs, v.Apart secret)
      (Script.evalItems (n + 1) f es) := by
  cases es with
  | nil => exact .pure (by simp)
  | cons e es =>
    simp only [Expr.namesOfAll, avoids_append] at hes
    by_cases hstar : ∃ e', e = .starred e'
    · obtain ⟨e', rfl⟩ := hstar
      rw [Script.evalItems]
      exact .bind (h.eval f e' hes.1) fun v hv => .bind (v.confined_itemsOf hv) fun vs hvs =>
        .bind (h.evalItems f es hes.2) fun _ hws => .pure (List.forall_mem_append.2 ⟨hvs, hws⟩)
    · rw [Script.evalItems]
      · exact .bind (h.eval f e hes.1) fun v hv => .bind (h.evalItems f es hes.2) fun _ hvs =>
          .pure (List.forall_mem_cons.2 ⟨hv, hvs⟩)
      · exact fun e' he => hstar ⟨e', he⟩

theorem evalEntries_succ (f : Frame) (es : List Entry) (pending : List Item) (done : Dictionary)
    (hes : Avoids hidden.unread (Entry.namesOfAll es)) (hp : ∀ e ∈ pending, Item.Apart secret e)
    (hd : done.Apart secret) :
    Confined hidden secret (Dictionary.Apart secret)
      (Script.evalEntries (n + 1) f es pending done) := by
  cases es with
  | nil =>
    rw [Script.evalEntries]
    exact confined_addEntries hd hp
  | cons e es =>
    cases e with
    | pair k e =>
      simp only [Entry.namesOfAll, avoids_append] at hes
      rw [Script.evalEntries]
      exact .bind (h.eval f k hes.1) fun _ hk => .bind (h.eval f e hes.2.1) fun _ hv =>
        h.evalEntries f es _ _ hes.2.2 (List.forall_mem_append.2 ⟨hp, by simpa using ⟨hk, hv⟩⟩) hd
    | spread e =>
      simp only [Entry.namesOfAll, avoids_append] at hes
      rw [Script.evalEntries]
      refine .bind (confined_addEntries hd hp) fun d hd => .bind (h.eval f e hes.1) fun v hv => ?_
      split
      · exact .bind (.look (P := fun es => ∀ e ∈ es, Item.Apart secret e) fun _ _ hh => hh.entries hv)
          fun more hmore => .bind (confined_addEntries hd hmore) fun d hd =>
          h.evalEntries f es _ _ hes.2 (by simp) hd
      · exact .raise _ _

theorem makeFunction_succ (f : Frame) (name : Text) (ps : List Parameter) (body : List Stmt)
    (hps : Avoids hidden.unread (Parameter.namesOfAll ps)) (hbody : Stmt.AllUnaware hidden body) :
    Confined hidden secret (Value.Apart secret) (Script.makeFunction (n + 1) f name ps body) := by
  have hdefault : ∀ p ∈ ps, Avoids hidden.unread (Expr.namesOfOption p.default?) := by
    induction ps with
    | nil => simp
    | cons p ps ih =>
      obtain ⟨x, kind, default?⟩ := p
      simp only [Parameter.namesOfAll, avoids_cons, avoids_append] at hps
      exact List.forall_mem_cons.2 ⟨hps.2.1, ih hps.2.2⟩
  rw [Script.makeFunction]
  refine .bind (.mapM ps (R := fun p : Slot => ∀ v, p.default? = some v → v.Apart secret)
    fun p hp => ?_) fun slots hslots =>
    .bind (.make (.function ⟨hslots, hbody⟩)) fun _ ha => .pure ha
  have := hdefault p hp
  cases hd : p.default? with
  | none => exact .pure (by simp)
  | some e =>
    rw [hd] at this
    exact .bind (h.eval f e this) fun _ hv => .pure fun w hw => Option.some.inj hw ▸ hv

theorem compareAll_succ (f : Frame) (v : Value) (others : List (CompareOp × Expr))
    (hv : v.Apart secret) (ho : Avoids hidden.unread (Expr.namesOfComparisons others)) :
    Confined hidden secret (Value.Apart secret) (Script.compareAll (n + 1) f v others) := by
  cases others with
  | nil => exact .pure hv
  | cons o others =>
    obtain ⟨op, e⟩ := o
    simp only [Expr.namesOfComparisons, avoids_append] at ho
    rw [Script.compareAll]
    refine .bind (h.eval f e ho.1) fun w hw => .bind (op.confined_holds hv hw) fun b _ => ?_
    split
    · exact .pure trivial
    · exact h.compareAll f w others hw ho.2

theorem evalArguments_succ (f : Frame) (as : List Argument) (a : Arguments)
    (has : Avoids hidden.unread (Argument.namesOfAll as)) (ha : a.Apart secret) :
    Confined hidden secret (Arguments.Apart secret) (Script.evalArguments (n + 1) f as a) := by
  have hmore : ∀ vs : List Value, (∀ v ∈ vs, v.Apart secret) →
      Arguments.Apart secret { a with positional := a.positional ++ vs } :=
    fun vs hvs => ⟨List.forall_mem_append.2 ⟨ha.positional, hvs⟩, ha.named⟩
  cases as with
  | nil => exact .pure ha
  | cons x as =>
    cases x with
    | positional e =>
      simp only [Argument.namesOfAll, avoids_append] at has
      rw [Script.evalArguments]
      exact .bind (h.eval f e has.1) fun _ hv =>
        h.evalArguments f as _ has.2 (hmore _ (by simpa using hv))
    | spread e =>
      simp only [Argument.namesOfAll, avoids_append] at has
      rw [Script.evalArguments]
      exact .bind (h.eval f e has.1) fun v hv => .bind (v.confined_itemsOf hv) fun vs hvs =>
        h.evalArguments f as _ has.2 (hmore vs hvs)
    | named x e =>
      simp only [Argument.namesOfAll, avoids_append] at has
      rw [Script.evalArguments]
      refine .bind (h.eval f e has.1) fun v hv => ?_
      split
      · exact .raise _ _
      · exact h.evalArguments f as _ has.2
          ⟨ha.positional, List.forall_mem_append.2 ⟨ha.named, by simpa using hv⟩⟩
    | spreadNamed e =>
      simp only [Argument.namesOfAll, avoids_append] at has
      rw [Script.evalArguments]
      exact .bind (h.eval f e has.1) fun v hv => .bind (confined_spreadNamed ha.named hv)
        fun named hnamed => h.evalArguments f as _ has.2 ⟨ha.positional, hnamed⟩

theorem apply_succ (v : Value) (a : Arguments) (hv : v.Apart secret) (ha : a.Apart secret) :
    Confined hidden secret (Value.Apart secret) (Script.apply (n + 1) v a) := by
  rw [Script.apply]
  exact .settled (.deeper (h.applyWithin v a hv ha))

theorem applyWithin_succ (v : Value) (a : Arguments) (hv : v.Apart secret) (ha : a.Apart secret) :
    Confined hidden secret (Value.Apart secret) (Script.applyWithin (n + 1) v a) := by
  have hone : ∀ w : Value, w.Apart secret → Arguments.Apart secret { positional := [w] } :=
    fun w hw => ⟨by simpa using hw, by simp⟩
  unfold Script.applyWithin
  split
  · refine .bind (.ofResult ha.plain) fun vs hvs => ?_
    split
    · obtain ⟨hg, hvs⟩ := List.forall_mem_cons.1 hvs
      exact .bind (confined_zip hvs) fun v hv => .bind (v.confined_itemsOf hv) fun rows hrows =>
        .bind (.mapM rows fun row hrow => .bind (row.confined_itemsOf (hrows row hrow)) fun ws hws =>
          h.apply _ _ hg ⟨hws, by simp⟩) fun _ hitems => .makeIterator (by decide) hitems
    · exact .raise _ _
  · refine .bind (.ofResult ha.plain) fun vs hvs => ?_
    split
    · refine .bind (Value.confined_itemsOf (hvs _ (by simp))) fun items hitems =>
        .bind (.filterM items (fun w hw => ?_) hitems) fun _ hws => .makeIterator (by decide) hws
      split
      · exact confined_holds (hitems w hw)
      · exact .bind (h.apply _ _ (hvs _ (by simp)) (hone w (hitems w hw))) fun _ hv =>
          confined_holds hv
    · exact .raise _ _
  · exact Value.confined_ofType _ ha
  · exact Value.confined_ofExceptionClass _ ha
  · obtain ⟨hkey, ha⟩ := ha.splitNamed "key"
    obtain ⟨-, ha⟩ := ha.splitNamed "reverse"
    exact .bind (.ofResult ha.one) fun v hv => .bind (v.confined_itemsOf hv) fun items hitems =>
      .bind (h.sort _ _ _ hkey hitems) fun _ hvs => .makeList hvs
  · exact h.best _ _ ha
  · exact h.best _ _ ha
  · exact Builtin.confined_call _ ha
  · obtain ⟨hkey, ha⟩ := ha.splitNamed "key"
    exact .bind (.ofResult fun _ _ => trivial) fun _ _ =>
      .bind (.look (P := fun vs => ∀ v ∈ vs, v.Apart secret) fun _ _ hh => hh.items hv) fun items hitems =>
      .bind (h.sort _ _ _ hkey hitems) fun _ hvs => .bind (.putItems hv hvs) fun _ _ => .pure trivial
  · next self m _ _ => exact self.confined_callMethod hv m ha
  · split
    · next self vs hp =>
      have hall := ha.positional
      rw [hp] at hall
      obtain ⟨hself, hvs⟩ := List.forall_mem_cons.1 hall
      split
      · exact h.applyWithin _ _ hself ⟨hvs, ha.named⟩
      · exact .raise _ _
    · exact .raise _ _
  · refine .bind (.look (P := fun c => ∀ c', c = some c' → c'.Apart hidden secret)
      fun _ _ hh => hh.closure? hv) fun c hc => ?_
    split
    · exact h.call _ _ (hc _ rfl) ha
    · exact .raise _ _
  · exact .raise _ _

theorem keyed_succ (key : Option Value) (items : List Value) (hkey : ∀ v, key = some v → v.Apart secret)
    (hitems : ∀ v ∈ items, v.Apart secret) :
    Confined hidden secret (fun es => ∀ e ∈ es, Item.Apart secret e)
      (Script.keyed (n + 1) key items) := by
  have hsame : ∀ e ∈ items.map fun v => (v, v), Item.Apart secret e := by
    intro e he
    obtain ⟨v, hv, rfl⟩ := List.mem_map.1 he
    exact ⟨hitems v hv, hitems v hv⟩
  unfold Script.keyed
  split
  · exact .pure hsame
  · exact .pure hsame
  · exact .mapM items fun v hv => .bind
      (h.apply _ _ (hkey _ rfl) ⟨by simpa using hitems v hv, by simp⟩) fun x hx =>
      .pure ⟨hx, hitems v hv⟩

theorem sort_succ (key reverse : Option Value) (items : List Value)
    (hkey : ∀ v, key = some v → v.Apart secret) (hitems : ∀ v ∈ items, v.Apart secret) :
    Confined hidden secret (fun vs => ∀ v ∈ vs, v.Apart secret)
      (Script.sort (n + 1) key reverse items) := by
  rw [Script.sort]
  exact .bind (.ofResult fun _ _ => trivial) fun _ _ => .bind (h.keyed _ _ hkey hitems) fun _ hes =>
    .withHeap fun _ _ hh => Sorting.values_alike hh _ hes

theorem best_of_items (op : Value.Order) {key default? : Option Value} (hkey : ∀ v, key = some v → v.Apart secret)
    (hdefault : ∀ v, default? = some v → v.Apart secret) {items : List Value}
    (hitems : ∀ v ∈ items, v.Apart secret) :
    Confined hidden secret (Value.Apart secret) (do
      let entries ← Script.keyed n key items
      match (← Run.withHeap fun h => Builtin.extreme h op entries).or default? with
      | some v => return v
      | none => Run.raise .valueError) := by
  refine .bind (h.keyed _ _ hkey hitems) fun es hes =>
    .bind (.withHeap (P := fun o => ∀ w, o = some w → w.Apart secret) fun _ _ hh => ?_)
      fun o ho => ?_
  · obtain ⟨heq, hapart⟩ := Builtin.extreme_alike hh op hes
    exact ⟨heq, fun o ho w hw => hapart w (hw ▸ ho)⟩
  · split
    · next v hv =>
      obtain hv | ⟨-, hv⟩ := Option.or_eq_some_iff.1 hv
      · exact .pure (ho v hv)
      · exact .pure (hdefault v hv)
    · exact .raise _ _

theorem best_succ (op : Value.Order) (a : Arguments) (ha : a.Apart secret) :
    Confined hidden secret (Value.Apart secret) (Script.best (n + 1) op a) := by
  obtain ⟨hkey, ha⟩ := ha.splitNamed "key"
  obtain ⟨hdefault, ha⟩ := ha.splitNamed "default"
  have hrest := fun items => @best_of_items _ _ _ h op _ _ hkey hdefault items
  rw [Script.best]
  refine .bind (.ofResult ha.plain) fun vs hvs => ?_
  split
  · exact .bind (.raise _ _) hrest
  · exact .bind (.raise _ _) hrest
  · exact .bind (Value.confined_itemsOf (hvs _ (by simp))) hrest
  · exact .bind (.pure hvs) hrest

theorem call_succ (c : Closure) (a : Arguments) (hc : c.Apart hidden secret) (ha : a.Apart secret) :
    Confined hidden secret (Value.Apart secret) (Script.call (n + 1) c a) := by
  rw [Script.call]
  refine .bind (.ofResult (ha.bind hc.defaults)) fun b hb => .bind hb.confined_all fun given hgiven =>
    .bind (Frame.confined_enter _ fun e he v hev => ?_) fun f hf =>
      .bind (h.runAll f c.body hf.admits hc.body) fun flow hflow => ?_
  · obtain he | he := List.mem_append.1 he
    · obtain ⟨g, hg, rfl⟩ := List.mem_map.1 he
      exact Option.some.inj hev ▸ hgiven g hg
    · obtain ⟨x, -, rfl⟩ := List.mem_map.1 he
      contradiction
  · split
    · exact .pure hflow
    · exact .pure trivial

theorem collect_succ (f : Frame) (kind : Collection) (item target : Expr) (conditions : List Expr)
    (rest : List Clause) (c : Cursor) (done : List Value) (hf : f.IsOpen secret)
    (hitem : Avoids hidden.unread item.names) (htarget : Avoids hidden.unread target.names)
    (hconditions : Avoids hidden.unread (Expr.namesOfAll conditions))
    (hrest : Avoids hidden.unread (Clause.namesOfAll rest)) (hc : c.Apart secret)
    (hdone : ∀ v ∈ done, v.Apart secret) :
    Confined hidden secret (fun vs => ∀ v ∈ vs, v.Apart secret)
      (Script.collect (n + 1) f kind item target conditions rest c done) := by
  rw [Script.collect]
  refine .bind (Cursor.confined_next hc) fun r hr => ?_
  split
  · exact .pure hdone
  · refine .bind (h.assign f target _ hf.admits htarget (hr.1 _ rfl)) fun _ _ =>
      .bind (h.allHold f conditions hconditions) fun b _ => ?_
    have hnext := fun done hdone => h.collect f kind item target conditions rest _ done hf hitem htarget
      hconditions hrest hr.2 hdone
    split
    · exact .bind (h.collectRest f kind item rest done hf hitem hrest hdone) hnext
    · exact .bind (.pure hdone) hnext

theorem collectRest_succ (f : Frame) (kind : Collection) (item : Expr) (rest : List Clause)
    (done : List Value) (hf : f.IsOpen secret) (hitem : Avoids hidden.unread item.names)
    (hrest : Avoids hidden.unread (Clause.namesOfAll rest)) (hdone : ∀ v ∈ done, v.Apart secret) :
    Confined hidden secret (fun vs => ∀ v ∈ vs, v.Apart secret)
      (Script.collectRest (n + 1) f kind item rest done) := by
  cases rest with
  | nil =>
    exact .bind (h.eval f item hitem) fun _ hv => .bind (.ofResult fun _ _ => trivial) fun _ _ =>
      .pure (List.forall_mem_cons.2 ⟨hv, hdone⟩)
  | cons clause rest =>
    obtain ⟨target, items, conditions⟩ := clause
    simp only [Clause.namesOfAll, avoids_append] at hrest
    obtain ⟨htarget, hitems, hconditions, hrest⟩ := hrest
    exact .bind (h.eval f items hitems) fun _ hv => .bind (Value.confined_cursor hv) fun _ hc =>
      h.collect f kind item target conditions rest _ done hf hitem htarget hconditions hrest hc hdone

theorem allHold_succ (f : Frame) (es : List Expr) (hes : Avoids hidden.unread (Expr.namesOfAll es)) :
    Confined hidden secret (fun _ => True) (Script.allHold (n + 1) f es) := by
  cases es with
  | nil => exact .pure trivial
  | cons e es =>
    simp only [Expr.namesOfAll, avoids_append] at hes
    refine .bind (h.eval f e hes.1) fun _ hv => .bind (confined_holds hv) fun b _ => ?_
    split
    · exact h.allHold f es hes.2
    · exact .pure trivial

end ConfinedAt

end TemplateEngine.Script
