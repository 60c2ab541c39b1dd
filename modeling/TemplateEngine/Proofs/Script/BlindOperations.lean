import TemplateEngine.Proofs.Script.Blind
import TemplateEngine.Script.Module

set_option autoImplicit false

/-!
# Operations do not look at variables

What operators, methods, conversions and built-in functions do depends on values and on the heap, so all
of them are blind to every name.
-/
namespace TemplateEngine.Script

open Run

variable {hidden : List Text}

namespace Cursor

theorem blind_nextWithin (n : Nat) (c : Cursor) : Blind hidden (c.nextWithin n) := by
  induction n generalizing c with
  | zero => exact .exhausted
  | succ n ih =>
    have hiterator : ∀ a, Blind hidden (nextWithin n (iterator a)) := fun a => ih (iterator a)
    unfold nextWithin
    split
    · exact .pure _
    · exact .pure _
    · exact .pure _
    · exact .pure _
    · exact .pure _
    · refine .bind (.look _) fun v => ?_
      cases v with
      | none => exact .pure _
      | some v => exact .pure _
    · refine .bind (.look _) fun v => ?_
      cases v with
      | none => exact .pure _
      | some v => exact .pure _
    · refine .bind (.look _) fun r => ?_
      obtain ⟨now, next⟩ := r
      dsimp only
      split
      · exact .raise _ _
      · split
        · exact .pure _
        · exact .raise _ _
        · exact .pure _
    · exact .pure _
    · exact .bind (.look _) fun c => .bind (ih c) fun r => .bind (.put _ trivial) fun _ => .pure _
    · refine .bind (hiterator _) fun r => ?_
      split
      · exact .pure _
      · exact .pure _
    · exact .pure _
    · refine .bind (.foldlM (fun vs a => ?_) _ _) fun _ => .pure _
      cases vs with
      | none => exact .pure _
      | some vs => exact .bind (hiterator a) fun _ => .pure _

theorem blind_next (c : Cursor) : Blind hidden c.next := by
  -- The bound on the iterators is taken from the heap.
  have hwithin : Blind hidden fun s => nextWithin (s.heap.objects.size + 2) c s := by
    intro s t h
    dsimp only
    rw [h.heap]
    exact blind_nextWithin _ c s t h
  refine .bind hwithin fun r => ?_
  split
  · exact .bind (.settle _) fun _ => .pure _
  · exact .pure _

theorem blind_fold {σ : Type} {f : σ → Value → Run (ForInStep σ)}
    (hf : ∀ a v, Blind hidden (f a v)) (n : Nat) (c : Cursor) (a : σ) :
    Blind hidden (Cursor.fold f n c a) := by
  induction n generalizing c a with
  | zero => exact .exhausted
  | succ n ih =>
    refine .bind c.blind_next fun r => ?_
    split
    · exact .pure _
    · refine .bind (hf _ _) fun step => ?_
      cases step with
      | done a => exact .pure a
      | yield a => exact ih _ a

end Cursor

namespace Value

theorem blind_fold {σ : Type} {f : σ → Value → Run (ForInStep σ)}
    (hf : ∀ a v, Blind hidden (f a v)) (v : Value) (a : σ) : Blind hidden (v.fold a f) :=
  .bind (.withHeap _) fun c => Cursor.blind_fold hf _ c a

theorem blind_iteratorOf (v : Value) : Blind hidden v.iteratorOf := by
  unfold iteratorOf
  split
  · exact .pure _
  · exact .bind (.withHeap _) fun _ => .make trivial

theorem blind_firstItems (n : Nat) (v : Value) : Blind hidden (v.firstItems n) := by
  unfold firstItems
  split
  · exact .bind (.withHeap _) fun _ => .pure _
  · exact .bind (blind_fold (fun _ _ => .pure _) v _) fun _ => .pure _

theorem blind_itemsOf (v : Value) : Blind hidden v.itemsOf := by
  refine .allSettled ?_
  split
  · exact .pure _
  · exact .pure _
  · exact .pure _
  · refine .bind (.ofResult _) fun n => ?_
    split
    · exact .raise _ _
    · exact .pure _
  · exact .look _
  · exact .look _
  · exact .look _
  · exact .bind (blind_fold (fun _ _ => .pure _) _ _) fun _ => .pure _

theorem blind_memberOf (v container : Value) : Blind hidden (v.memberOf container) := by
  have hsearch : ∀ c : Value, Blind hidden (c.fold false fun _ w => do
      if ← Run.withHeap fun h => isItem h w v then return .done true else return .yield false) := by
    intro c
    refine blind_fold (fun _ w => .bind (.withHeap _) fun b => ?_) c _
    cases b <;> exact .pure _
  unfold memberOf
  split
  all_goals first | exact .pure _ | exact .raise _ _ | exact .withHeap _ | exact hsearch _

theorem blind_getItem (v index : Value) : Blind hidden (v.getItem index) := by
  unfold getItem
  split
  · exact .bind (.withHeap _) fun _ => .makeList _
  · exact .ofResult _
  · exact .ofResult _
  · exact .bind (.ofResult _) fun _ => .pure _
  · exact .bind (.look _) fun _ => .ofResult _
  · exact .ofResult _
  · exact .ofResult _
  · exact .ofResult _
  · exact .withHeap _
  · exact .raise _ _

theorem blind_setItem (v index new : Value) : Blind hidden (v.setItem index new) := by
  unfold setItem
  split
  · exact .bind (.withHeap _) fun _ => .bind new.blind_itemsOf fun _ =>
      .bind (.withHeap _) fun _ => .putItems _ _
  · split
    · exact .bind (.withHeap _) fun _ => .changeItems _ _
    · exact .raise _ _
  · exact .bind (.withHeap _) fun _ => .changeDict _ _
  · exact .raise _ _

theorem blind_deleteItem (v index : Value) : Blind hidden (v.deleteItem index) := by
  unfold deleteItem
  split
  · exact .bind (.withHeap _) fun _ => .putItems _ _
  · split
    · exact .bind (.withHeap _) fun _ => .changeItems _ _
    · exact .raise _ _
  · refine .bind (.withHeap _) fun found => ?_
    split
    · exact .changeDict _ _
    · exact .raise _ _
  · exact .raise _ _

theorem blind_toEntry (v : Value) : Blind hidden v.toEntry := by
  refine .bind v.blind_itemsOf fun items => ?_
  split
  · exact .bind (.ofResult _) fun _ => .pure _
  · exact .raise _ _

theorem blind_entriesOf (v : Value) : Blind hidden v.entriesOf := by
  unfold entriesOf
  split
  · exact .look _
  · exact .bind (blind_itemsOf _) fun items => .mapM items fun e _ => e.blind_toEntry

theorem blind_ofExceptionClass (c : ExceptionClass) (a : Arguments) :
    Blind hidden (ofExceptionClass c a) := by
  unfold ofExceptionClass
  dsimp only
  split
  · exact .raise _ _
  · refine .bind (.ofResult _) fun _ => ?_
    split
    · refine .bind (blind_itemsOf _) fun items => ?_
      split
      · exact .pure _
      · exact .raise _ _
    · exact .pure _

theorem blind_itemsGiven (vs : List (Option Value)) : Blind hidden (match vs with
    | [some v] => v.itemsOf
    | _ => Pure.pure []) := by
  split
  · exact blind_itemsOf _
  · exact .pure _

theorem blind_ofType (t : TypeName) (a : Arguments) : Blind hidden (ofType t a) := by
  have hitems := @blind_itemsGiven hidden
  unfold ofType
  dsimp only
  cases t with
  | object => exact .bind (.ofResult _) fun _ => .pure _
  | bool =>
    refine .bind (.ofResult _) fun vs => ?_
    split
    · exact .bind (.look _) fun _ => .pure _
    · exact .pure _
  | int =>
    refine .bind (.ofResult _) fun vs => ?_
    split
    · exact .ofResult _
    · exact .raise _ _
    · exact .pure _
  | float =>
    refine .bind (.ofResult _) fun vs => ?_
    split
    · exact .ofResult _
    · exact .pure _
  | str =>
    refine .bind (.ofResult _) fun vs => ?_
    split
    · exact .withHeap _
    · exact .raise _ _
  | list => exact .bind (.ofResult _) fun vs => .bind (hitems vs) fun _ => .makeList _
  | tuple =>
    refine .bind (.ofResult _) fun vs => ?_
    split
    · exact .pure _
    · exact .bind (hitems _) fun _ => .pure _
  | frozenset =>
    refine .bind (.ofResult _) fun vs => ?_
    split
    · exact .pure _
    · exact .bind (hitems _) fun _ => .withHeap _
  | dict =>
    have hmake : ∀ given, Blind hidden (do
        makeDict (← withHeap fun h => Dictionary.insertAll h {} (given ++ a.namedItems))) :=
      fun _ => .bind (.withHeap _) fun _ => .makeDict _
    dsimp only
    split
    · exact .bind (.pure _) hmake
    · exact .bind (blind_entriesOf _) hmake
    · exact .bind (.raise _ _) hmake
  | range => exact .bind (.ofResult _) fun _ => .ofResult _
  | enumerate =>
    refine .bind (.ofResult _) fun vs => ?_
    split
    · exact .bind (.ofResult _) fun _ => .bind (blind_iteratorOf _) fun _ => .makeIterator _ _
    · exact .raise _ _
  | zip =>
    exact .bind (.ofResult _) fun vs => .bind (.mapM vs fun v _ => v.blind_iteratorOf) fun _ =>
      .makeIterator _ _
  | reversed => exact .bind (.ofResult _) fun _ => .bind (.withHeap _) fun _ => .makeIterator _ _
  | slice =>
    refine .bind (.ofResult _) fun vs => ?_
    split
    · exact .pure _
    · exact .pure _
    · exact .pure _
    · exact .raise _ _
  | type => exact .bind (.ofResult _) fun _ => .pure _
  | _ => exact .raise _ _

end Value

theorem Directive.blind_takeName (t : Str) (s : Supply) : Blind hidden (takeName t s) := by
  unfold takeName
  split
  · exact .raise _ _
  · split
    · exact .raise _ _
    · exact .bind (Value.blind_getItem _ _) fun _ => .pure _
  · exact .pure _

theorem blind_fillDirectives (n : Nat) (t : Str) (s : Supply) :
    Blind hidden (fillDirectives n t s) := by
  induction n, t, s using fillDirectives.induct with
  | case1 t s =>
    unfold fillDirectives
    exact .pure _
  | case2 n s hn =>
    unfold fillDirectives
    cases n <;> exact .pure _
  | case3 n t s ih =>
    rw [fillDirectives]
    exact .bind ih fun _ => .pure _
  | case4 n t s ht ih =>
    rw [fillDirectives]
    · exact .bind (Directive.blind_takeName _ _) fun _ => .bind (.ofResult _) fun _ =>
        .bind (.ofResult _) fun _ => .bind (.withHeap _) fun _ => .bind (ih _ _) fun _ => .pure _
    · exact ht
  | case5 n c t s ht hc ih =>
    rw [fillDirectives]
    · exact .bind ih fun _ => .pure _
    · exact ht
    · exact hc

theorem blind_formatText (t : Str) (id : Identity) (v : Value) :
    Blind hidden (formatText t id v) := by
  refine .bind (blind_fillDirectives _ _ _) fun r => ?_
  obtain ⟨u, s⟩ := r
  dsimp only
  split
  · exact .raise _ _
  · split
    · exact .pure _
    · split
      · exact .pure _
      · exact .pure _

namespace Value

theorem blind_binary (op : BinaryOp) (v w : Value) : Blind hidden (binary op v w) := by
  unfold binary
  split
  · refine .bind (.ofResult _) fun r => ?_
    split
    · exact .pure _
    · exact .pure _
  · exact .pure _
  · exact .pure _
  · exact .pure _
  · exact .pure _
  · exact .pure _
  · exact .pure _
  · exact .bind (.look _) fun _ => .makeList _
  · split
    · exact .bind (.ofResult _) fun _ => .pure _
    · split
      · split
        · exact .pure _
        · exact .bind (.ofResult _) fun _ => .pure _
      · split
        · exact .pure _
        · exact .bind (.ofResult _) fun _ => .pure _
      · split
        · exact .pure _
        · exact .bind (.ofResult _) fun _ => .pure _
      · split
        · exact .pure _
        · exact .bind (.ofResult _) fun _ => .pure _
      · exact .bind (.withHeap _) fun _ => .makeList _
      · exact .bind (.withHeap _) fun _ => .makeList _
      · exact .raise _ _

theorem blind_operate (op : BinaryOp) (v w : Value) : Blind hidden (operate op v w) := by
  unfold operate
  split
  · exact blind_formatText _ _ _
  · exact .bind (.withHeap _) fun _ => .makeDict _
  · exact blind_binary _ _ _

theorem blind_operateInPlace (op : BinaryOp) (v w : Value) : Blind hidden (operateInPlace op v w) := by
  unfold operateInPlace
  split
  · exact .bind (blind_itemsOf _) fun _ => .bind (.changeItems _ _) fun _ => .pure _
  · exact .bind (.withHeap _) fun _ => .bind (.putItems _ _) fun _ => .pure _
  · exact .bind (blind_entriesOf _) fun _ => .bind (.withHeap _) fun _ =>
      .bind (.putDict _ _) fun _ => .pure _
  · exact blind_operate _ _ _

theorem blind_makeTable (es : List Item) : Blind hidden (makeTable es) :=
  .bind (.settleAll _) fun _ => .bind (.settleAll _) fun _ => .bind (.withHeap _) fun _ =>
    .makeDict _

theorem blind_makeCharTable (vs : List Value) : Blind hidden (makeCharTable vs) := by
  unfold makeCharTable
  split
  · exact .bind (.withHeap _) fun _ => blind_makeTable _
  · split
    · exact blind_makeTable _
    · exact .raise _ _
  · split
    · exact blind_makeTable _
    · exact .raise _ _
  · exact .raise _ _

end Value

namespace TextMethod

theorem blind_replaceCharacter (table : Value) (c : CodePoint) :
    Blind hidden (replaceCharacter table c) := by
  intro s t h
  have hitem := Value.blind_getItem table (.ofNat c.toNat) s t h
  simp only [replaceCharacter]
  generalize table.getItem (.ofNat c.toNat) s = o at hitem
  generalize table.getItem (.ofNat c.toNat) t = p at hitem
  cases hitem with
  | done v h => exact Blind.ofResult (replacement v) _ _ h
  | raised e h =>
    dsimp only
    split
    · exact .done _ h
    · exact .raised e h
  | exhausted => exact .exhausted

theorem blind_call (t : Str) (id : Identity) (m : Method) (a : Arguments) :
    Blind hidden (call t id m a) := by
  have hstripped : ∀ start stop, Blind hidden (do
      let chars := (← Run.ofResult (a.take 0 [""])).head?.join
      return part t id (← Run.ofResult (strip start stop t chars))) :=
    fun _ _ => .bind (.ofResult _) fun _ => .bind (.ofResult _) fun _ => .pure _
  unfold call
  cases m with
  | strip | stripStart | stripEnd => exact hstripped _ _
  | split | splitEnd =>
    refine .bind (.ofResult _) fun vs => ?_
    split
    · exact .bind (.ofResult _) fun _ => .bind (.ofResult _) fun _ => .makeList _
    · exact .raise _ _
  | splitLines =>
    refine .bind (.ofResult _) fun vs => ?_
    split
    · exact .bind (.ofResult _) fun _ => .makeList _
    · exact .makeList _
  | partition | partitionEnd =>
    refine .bind (.ofResult _) fun v => ?_
    split
    · exact .raise _ _
    · exact .pure _
    · exact .raise _ _
  | replace | startsWith | endsWith | find | findLast | index | indexLast | count =>
    refine .bind (.ofResult _) fun vs => ?_
    split
    · exact .ofResult _
    · exact .raise _ _
  | join =>
    exact .bind (.ofResult _) fun _ => .bind (Value.blind_itemsOf _) fun _ => .ofResult _
  | padStart | padEnd | padBoth =>
    refine .bind (.ofResult _) fun vs => ?_
    split
    · exact .bind (.ofResult _) fun _ => .pure _
    · exact .raise _ _
  | padZeros => exact .bind (.ofResult _) fun _ => .pure _
  | replaceCharacters =>
    exact .bind (.ofResult _) fun _ =>
      .bind (.mapM t fun c _ => blind_replaceCharacter _ c) fun _ => .pure _
  | _ => exact .ofResult _

end TextMethod

namespace ListMethod

theorem blind_callReading (items : List Value) (m : Method) (a : Arguments) :
    Blind hidden (callReading items m a) := by
  unfold callReading
  split
  · refine .bind (.ofResult _) fun vs => ?_
    split
    · exact .withHeap _
    · exact .raise _ _
  · exact .bind (.ofResult _) fun _ => .bind (.withHeap _) fun _ => .pure _
  · exact .raise _ _

theorem blind_callOn (l : Address) (m : Method) (a : Arguments) : Blind hidden (callOn l m a) := by
  refine .bind (.look _) fun items => ?_
  split
  · refine .bind (.ofResult _) fun vs => ?_
    split
    · exact .bind (.ofResult _) fun _ => .bind (.putItems _ _) fun _ => .pure _
    · exact .raise _ _
  · refine .bind (.ofResult _) fun v => .bind (.withHeap _) fun i => ?_
    split
    · exact .bind (.putItems _ _) fun _ => .pure _
    · exact .raise _ _
  · exact .bind (.ofResult _) fun _ => .bind (.putItems _ _) fun _ => .pure _
  · exact .bind (.ofResult _) fun _ => .bind (.putItems _ _) fun _ => .pure _
  · exact .bind (.ofResult _) fun _ => .makeList _
  · exact blind_callReading _ _ _

theorem blind_takeOut (l : Address) (i : Int) : Blind hidden (takeOut l i) :=
  .bind (.withHeap _) fun _ => .bind (.changeItems _ _) fun _ => .pure _

theorem blind_call (l : Address) (m : Method) (a : Arguments) : Blind hidden (call l m a) := by
  unfold call
  split
  · exact .bind (.ofResult _) fun _ => .bind (.changeItems _ _) fun _ => .pure _
  · exact .bind (.ofResult _) fun _ => .bind (Value.blind_itemsOf _) fun _ =>
      .bind (.changeItems _ _) fun _ => .pure _
  · refine .bind (.ofResult _) fun vs => ?_
    split
    · exact blind_takeOut _ _
    · exact .bind (.ofResult _) fun _ => blind_takeOut _ _
    · exact .raise _ _
  · exact blind_callOn _ _ _

end ListMethod

theorem DictMethod.blind_call (d : Address) (m : Method) (a : Arguments) :
    Blind hidden (call d m a) := by
  unfold call
  split
  · refine .bind (.ofResult _) fun vs => ?_
    split
    · exact .withHeap _
    · exact .raise _ _
  · exact .bind (.ofResult _) fun _ => .pure _
  · exact .bind (.ofResult _) fun _ => .pure _
  · exact .bind (.ofResult _) fun _ => .pure _
  · refine .bind (.ofResult _) fun vs => ?_
    split
    · refine .bind (.ofResult _) fun _ => .bind (.withHeap _) fun found => ?_
      split
      · exact .pure _
      · exact .bind (.changeDict _ _) fun _ => .pure _
    · exact .raise _ _
  · have hput : ∀ more, Blind hidden (do
        putDict d (← withHeap fun h => (h.dictionary d).insertAll h (more ++ a.namedItems))
        return Value.none) :=
      fun _ => .bind (.withHeap _) fun _ => .bind (.putDict _ _) fun _ => .pure _
    split
    · exact .bind (.pure _) hput
    · exact .bind (Value.blind_entriesOf _) hput
    · exact .bind (.raise _ _) hput
  · refine .bind (.ofResult _) fun vs => ?_
    split
    · refine .bind (.withHeap _) fun found => ?_
      split
      · exact .bind (.changeDict _ _) fun _ => .pure _
      · exact .pure _
      · exact .raise _ _
    · exact .raise _ _
  · exact .bind (.ofResult _) fun _ => .bind (.putDict _ _) fun _ => .pure _
  · exact .bind (.ofResult _) fun _ => .bind (.look _) fun _ => .makeDict _
  · exact .raise _ _

namespace Value

theorem blind_callFrozenset (items : List Value) (id : Identity) (m : Method) (a : Arguments) :
    Blind hidden (callFrozenset items id m a) := by
  unfold callFrozenset
  split
  · exact .bind (.ofResult _) fun vs => .bind (.mapM vs fun v _ => v.blind_itemsOf) fun _ =>
      .bind (.withHeap _) fun _ => .pure _
  · exact .bind (.ofResult _) fun _ => .pure _
  · exact .raise _ _

theorem blind_callMethod (v : Value) (m : Method) (a : Arguments) :
    Blind hidden (v.callMethod m a) := by
  unfold callMethod
  split
  · exact TextMethod.blind_call _ _ _ _
  · exact ListMethod.blind_call _ _ _
  · exact DictMethod.blind_call _ _ _
  · exact ListMethod.blind_callReading _ _ _
  · exact .ofResult _
  · exact blind_callFrozenset _ _ _ _
  · exact .ofResult _

end Value

namespace Builtin

theorem blind_sumOf (v start : Value) : Blind hidden (sumOf v start) :=
  Value.blind_fold (fun _ _ => .bind (Value.blind_operate _ _ _) fun _ => .pure _) v start

theorem blind_anyIs (wanted : Bool) (v : Value) : Blind hidden (anyIs wanted v) :=
  Value.blind_fold (fun _ _ => .bind (.look _) fun _ => .pure _) v false

theorem blind_printEach (sep : Str) (vs : List Value) : Blind hidden (printEach sep vs) := by
  fun_induction printEach sep vs with
  | case1 => exact .pure ()
  | case2 v => exact .bind (.withHeap _) fun _ => .print _
  | case3 v vs _ ih =>
    exact .bind (.withHeap _) fun _ => .bind (.print _) fun _ => .bind (.print _) fun _ => ih

theorem blind_printAll (a : Arguments) : Blind hidden (printAll a) := by
  refine .bind (.ofResult _) fun vs => ?_
  split
  · exact .bind (.ofResult _) fun _ => .bind (.ofResult _) fun _ => .bind (blind_printEach _ _) fun _ =>
      .print _
  · exact .raise _ _

theorem blind_call (b : Builtin) (a : Arguments) : Blind hidden (b.call a) := by
  unfold call
  dsimp only
  cases b with
  | len => exact .bind (.ofResult _) fun _ => .bind (.withHeap _) fun _ => .pure _
  | sum =>
    refine .bind (.ofResult _) fun vs => ?_
    split
    · exact .raise _ _
    · exact blind_sumOf _ _
    · exact .raise _ _
  | isinstance =>
    refine .bind (.ofResult _) fun vs => ?_
    split
    · exact .bind (.withHeap _) fun _ => .pure _
    · exact .raise _ _
  | repr =>
    refine .bind (.ofResult _) fun v => ?_
    split
    · exact .withHeap _
    · exact .bind (.withHeap _) fun _ => .pure _
  | abs =>
    refine .bind (.ofResult _) fun v => ?_
    split
    · exact .pure _
    · split
      · exact .pure _
      · exact .pure _
      · exact .pure _
      · exact .raise _ _
  | any => exact .bind (.ofResult _) fun _ => .bind (blind_anyIs _ _) fun _ => .pure _
  | all => exact .bind (.ofResult _) fun _ => .bind (blind_anyIs _ _) fun _ => .pure _
  | ord =>
    refine .bind (.ofResult _) fun v => ?_
    split
    · exact .pure _
    · exact .raise _ _
  | chr =>
    refine .bind (.ofResult _) fun v => .bind (.ofResult _) fun i => ?_
    split
    · exact .pure _
    · exact .raise _ _
  | print => exact .bind (blind_printAll a) fun _ => .pure _
  | makeCharTable => exact .bind (.ofResult _) fun _ => Value.blind_makeCharTable _
  | _ => exact .raise _ _

end Builtin

namespace Value

theorem blind_become (v w : Value) : Blind hidden (v.become w) := by
  unfold become
  split
  · exact .bind (.look _) fun _ => .put _ trivial
  · exact .bind (.look _) fun _ => .put _ trivial
  · exact .pure _

theorem blind_emptyOf (d : Data) : Blind hidden (emptyOf d) := by
  unfold emptyOf
  split
  · exact .makeList _
  · exact .makeDict _
  · exact .pure _

mutual

theorem blind_ofDataWith (known : Labels) (d : Data) : Blind hidden (ofDataWith known d) := by
  cases d with
  | null => exact .pure _
  | bool b => exact .pure _
  | int i => exact .bind (.settle _) fun _ => .pure _
  | float f => exact .bind (.settle _) fun _ => .pure _
  | text t => exact .bind (.settle _) fun _ => .pure _
  | date d => exact .bind (.settle _) fun _ => .pure _
  | moment m => exact .bind (.settle _) fun _ => .pure _
  | list ds =>
    rw [ofDataWith]
    exact .bind (blind_ofAllDataWith known ds) fun _ => .bind (.makeList _) fun _ => .pure _
  | dict es =>
    rw [ofDataWith]
    exact .bind (blind_ofEntryDataWith known es) fun _ => .bind (.makeDict _) fun _ => .pure _
  | inside l path => exact .pure _
  | shared l d =>
    rw [ofDataWith]
    split
    · exact .pure _
    · exact .bind (blind_emptyOf d) fun _ => .bind (blind_ofDataWith _ d) fun _ =>
        .bind (blind_become _ _) fun _ => .pure _

theorem blind_ofAllDataWith (known : Labels) (ds : List Data) :
    Blind hidden (ofAllDataWith known ds) := by
  cases ds with
  | nil => exact .pure _
  | cons d ds =>
    rw [ofAllDataWith]
    exact .bind (blind_ofDataWith known d) fun _ => .bind (blind_ofAllDataWith _ ds) fun _ => .pure _

theorem blind_ofEntryDataWith (known : Labels) (es : List (Data × Data)) :
    Blind hidden (ofEntryDataWith known es) := by
  cases es with
  | nil => exact .pure _
  | cons e es =>
    obtain ⟨k, d⟩ := e
    rw [ofEntryDataWith]
    exact .bind (blind_ofDataWith known k) fun _ => .bind (blind_ofDataWith _ d) fun _ =>
      .bind (blind_ofEntryDataWith _ es) fun _ => .pure _

end

theorem blind_ofAllData (ds : List Data) : Blind hidden (ofAllData ds) :=
  .bind (blind_ofAllDataWith _ ds) fun _ => .pure _

end Value
end TemplateEngine.Script
