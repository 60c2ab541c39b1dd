import TemplateEngine.Proofs.Confined.Operations

set_option autoImplicit false

namespace TemplateEngine.Script

open Run

variable {hidden : Reserved} {secret : List Address}

namespace TextMethod

theorem confined_replaceCharacter {table : Value} (ht : table.Apart secret) (c : CodePoint) :
    Confined hidden secret (fun _ => True) (replaceCharacter table c) := by
  intro s s' h
  have hitem := @Value.confined_getItem hidden _ _ (.ofNat c.toNat) ht trivial s s' h
  simp only [replaceCharacter]
  generalize table.getItem (.ofNat c.toNat) s = o at hitem
  generalize table.getItem (.ofNat c.toNat) s' = o' at hitem
  cases hitem with
  | @done t t' v hv ht hkeeps =>
    have hrest := @Confined.ofResult _ hidden secret (fun _ => True) (replacement v)
      (fun _ _ => trivial) t t' ht
    dsimp only
    generalize Run.ofResult (replacement v) t = o at hrest
    generalize Run.ofResult (replacement v) t' = o' at hrest
    cases hrest with
    | done b hb hu hkeeps' => exact .done b hb hu (hkeeps.trans hkeeps')
    | raised e hu hkeeps' => exact .raised e hu (hkeeps.trans hkeeps')
    | exhausted => exact .exhausted
  | raised e ht hkeeps =>
    dsimp only
    split
    · exact .done _ trivial ht hkeeps
    · exact .raised e ht hkeeps
  | exhausted => exact .exhausted

variable (t : Str) (id : Identity)

theorem apart_part (u : Str) : (part t id u).Apart secret := by
  unfold part
  split <;> trivial

theorem apart_kept (u : Str) : (kept t id u).Apart secret := by
  unfold kept
  split <;> trivial

theorem apart_partition (m : Str) (mid : Identity) : (partition t id m mid).Apart secret := by
  unfold partition
  split <;> simp

theorem apart_partitionEnd (m : Str) (mid : Identity) :
    (partitionEnd t id m mid).Apart secret := by
  unfold partitionEnd
  split <;> simp

theorem yields_pieceValues (sep max : Option Value) (ps : List Str) :
    Yields (fun vs => ∀ v ∈ vs, v.Apart secret) (pieceValues t id sep max ps) := by
  refine .bind fun left _ => ?_
  split
  · exact .pure (by simp)
  · exact .pure (by simp)
  · exact .pure (by simpa using apart_part t id _)
  · exact .pure (by simp)

theorem yields_replaceValue (old new : Value) (left : Option Nat) :
    Yields (Value.Apart secret) (replaceValue t id old new left) := by
  refine .bind fun s _ => .bind fun u _ => ?_
  dsimp only
  split
  · exact .pure trivial
  · exact .pure trivial

theorem yields_callPlain (m : Method) : Yields (Value.Apart secret) (callPlain t m) := by
  unfold callPlain
  split <;> first | exact .error _ | exact .pure trivial

theorem yields_join {items : List Value} (h : ∀ v ∈ items, v.Apart secret) :
    Yields (Value.Apart secret) (join t items) := by
  unfold join
  split
  · exact .pure trivial
  · exact .bind fun _ _ => .pure trivial

theorem confined_call (m : Method) {a : Arguments} (ha : a.Apart secret) :
    Confined hidden secret (Value.Apart secret) (call t id m a) := by
  have hany : ∀ {α : Type} (r : Result α), Confined hidden secret (fun _ => True) (ofResult r) :=
    fun r => .ofResult fun _ _ => trivial
  have hstripped : ∀ start stop, Confined hidden secret (Value.Apart secret) (do
      let chars := (← Run.ofResult (a.take 0 [""])).head?.join
      return part t id (← Run.ofResult (strip start stop t chars))) :=
    fun _ _ => .bind (hany _) fun _ _ => .bind (hany _) fun _ _ => .pure (apart_part t id _)
  have hlines : ∀ ls : List Str, ∀ v ∈ ls.map (part t id), v.Apart secret := by
    intro ls v hv
    obtain ⟨l, -, rfl⟩ := List.mem_map.1 hv
    exact apart_part t id l
  unfold call
  cases m with
  | strip | stripStart | stripEnd => exact hstripped _ _
  | split | splitEnd =>
    refine .bind (hany _) fun vs _ => ?_
    split
    · exact .bind (hany _) fun _ _ => .bind (.ofResult (yields_pieceValues t id _ _ _)) fun _ hvs =>
        .makeList hvs
    · exact .raise _ _
  | splitLines =>
    refine .bind (hany _) fun vs _ => ?_
    split
    · exact .bind (hany _) fun _ _ => .makeList (hlines _)
    · exact .makeList (hlines _)
  | partition | partitionEnd =>
    refine .bind (hany _) fun v _ => ?_
    split
    · exact .raise _ _
    · first | exact .pure (apart_partition t id _ _) | exact .pure (apart_partitionEnd t id _ _)
    · exact .raise _ _
  | replace =>
    refine .bind (hany _) fun vs _ => ?_
    split
    · exact .ofResult (.bind fun _ _ => .bind fun _ _ => .bind fun _ _ =>
        yields_replaceValue t id _ _ _)
    · exact .raise _ _
  | startsWith | endsWith =>
    refine .bind (hany _) fun vs _ => ?_
    split
    · exact .ofResult (.bind fun _ _ => .bind fun _ _ => .pure trivial)
    · exact .raise _ _
  | find | findLast | index | indexLast =>
    refine .bind (hany _) fun vs _ => ?_
    split
    · refine .ofResult (.bind fun i _ => ?_)
      split
      · exact .pure trivial
      · split
        · exact .pure trivial
        · exact .error _
    · exact .raise _ _
  | count =>
    refine .bind (hany _) fun vs _ => ?_
    split
    · refine .ofResult (.bind fun p _ => .bind fun w _ => ?_)
      split
      · exact .pure trivial
      · exact .pure trivial
    · exact .raise _ _
  | join =>
    exact .bind (.ofResult ha.one) fun v hv => .bind (Value.confined_itemsOf hv) fun items hitems =>
      .ofResult (yields_join t hitems)
  | padStart | padEnd | padBoth =>
    refine .bind (hany _) fun vs _ => ?_
    split
    · exact .bind (hany _) fun _ _ => .pure (apart_kept t id _)
    · exact .raise _ _
  | padZeros => exact .bind (hany _) fun _ _ => .pure (apart_kept t id _)
  | replaceCharacters =>
    exact .bind (.ofResult ha.one) fun table htable =>
      .bind (.mapM t fun c _ => confined_replaceCharacter htable c) fun _ _ => .pure trivial
  | removeStart | removeEnd =>
    exact .ofResult (.bind fun _ _ => .bind fun _ _ => .pure (apart_part t id _))
  | _ => exact .ofResult (.bind fun _ _ => yields_callPlain t _)

end TextMethod

namespace ListMethod

theorem confined_callReading {items : List Value} (hitems : ∀ v ∈ items, v.Apart secret) (m : Method)
    {a : Arguments} (ha : a.Apart secret) :
    Confined hidden secret (Value.Apart secret) (callReading items m a) := by
  unfold callReading
  split
  · refine .bind (.ofResult (ha.take _ _)) fun vs hvs => ?_
    split
    · refine .withHeap fun h h' hh => ⟨indexOf_alike hh (hvs _ (by simp)) hitems _ _, ?_⟩
      refine .bind fun i _ => .bind fun j _ => .bind fun n _ => ?_
      split
      · exact .pure trivial
      · exact .error _
    · exact .raise _ _
  · exact .bind (.ofResult ha.one) fun v hv =>
      .bind (.withHeap fun _ _ hh => .of_eq (countOf_alike hh hv hitems)) fun _ _ => .pure trivial
  · exact .raise _ _

variable {l : Address} (hl : l ∉ secret)
include hl

theorem confined_callOn (m : Method) {a : Arguments} (ha : a.Apart secret) :
    Confined hidden secret (Value.Apart secret) (callOn l m a) := by
  refine .bind (.look (P := fun vs => ∀ v ∈ vs, v.Apart secret) fun _ _ hh => hh.items hl)
    fun items hitems => ?_
  have hreplace : ∀ vs : List Value, (∀ v ∈ vs, v.Apart secret) →
      Confined hidden secret (Value.Apart secret) (do
        putItems l vs
        return Value.none) := fun vs hvs => .bind (.putItems hl hvs) fun _ _ => .pure trivial
  split
  · refine .bind (.ofResult ha.plain) fun vs hvs => ?_
    split
    · refine .bind (.ofResult fun _ _ => trivial) fun i _ => hreplace _ ?_
      refine List.forall_mem_append.2 ⟨fun w hw => hitems w (List.mem_of_mem_take hw), ?_⟩
      exact List.forall_mem_cons.2 ⟨hvs _ (by simp), fun w hw => hitems w (List.mem_of_mem_drop hw)⟩
    · exact .raise _ _
  · refine .bind (.ofResult ha.one) fun v hv =>
      .bind (.withHeap fun _ _ hh => .of_eq (position_alike hh hv hitems)) fun i _ => ?_
    split
    · exact hreplace _ fun w hw => hitems w (List.mem_of_mem_eraseIdx hw)
    · exact .raise _ _
  · exact .bind (.ofResult fun _ _ => trivial) fun _ _ => hreplace _ (by simpa using hitems)
  · exact .bind (.ofResult fun _ _ => trivial) fun _ _ => hreplace _ (by simp)
  · exact .bind (.ofResult fun _ _ => trivial) fun _ _ => .makeList hitems
  · exact confined_callReading hitems _ ha

theorem confined_takeOut (i : Int) :
    Confined hidden secret (Value.Apart secret) (takeOut l i) := by
  have hleft : ∀ (items : Array Value) (n : Nat), (∀ v ∈ items, v.Apart secret) →
      ∀ v ∈ items.eraseIdxIfInBounds n, v.Apart secret := by
    intro items n hitems v hv
    rw [Array.eraseIdxIfInBounds_eq] at hv
    split at hv
    · exact hitems v (Array.mem_of_mem_eraseIdx hv)
    · exact hitems v hv
  refine .bind (.withHeap (P := Value.Apart secret) fun h h' hh => ?_) fun v hv =>
    .bind (.changeItems hl fun items hitems => hleft items _ hitems) fun _ _ => .pure hv
  obtain ⟨heq, hitems⟩ := hh.itemArray hl
  rw [heq]
  refine ⟨rfl, .bind fun n _ => .pure ?_⟩
  cases hn : (h.itemArray l)[n]? with
  | none => trivial
  | some v => exact hitems v (Array.mem_of_getElem? hn)

theorem confined_call (m : Method) {a : Arguments} (ha : a.Apart secret) :
    Confined hidden secret (Value.Apart secret) (call l m a) := by
  unfold call
  split
  · exact .bind (.ofResult ha.one) fun v hv => .bind (.changeItems hl fun items hitems w hw =>
      (Array.mem_push.1 hw).elim (hitems w) fun h => h ▸ hv) fun _ _ => .pure trivial
  · exact .bind (.ofResult ha.one) fun v hv => .bind (Value.confined_itemsOf hv) fun more hmore =>
      .bind (.changeItems hl fun items hitems w hw =>
        (Array.mem_append.1 hw).elim (hitems w) fun h => hmore w (by simpa using h)) fun _ _ =>
      .pure trivial
  · refine .bind (.ofResult fun _ _ => trivial) fun vs _ => ?_
    split
    · exact confined_takeOut hl _
    · exact .bind (.ofResult fun _ _ => trivial) fun _ _ => confined_takeOut hl _
    · exact .raise _ _
  · exact confined_callOn hl _ ha

end ListMethod

theorem DictMethod.confined_call {d : Address} (hd : d ∉ secret) (m : Method) {a : Arguments}
    (ha : a.Apart secret) : Confined hidden secret (Value.Apart secret) (call d m a) := by
  unfold call
  split
  · refine .bind (.ofResult (ha.take _ _)) fun vs hvs => ?_
    split
    · next k default? =>
      refine .withHeap fun h h' hh => .bind (.refl _) fun _ _ =>
        .bind (hh.value? hd (hvs k (by simp))) fun u hu => .pure ?_
      cases u with
      | some u => exact hu u rfl
      | none =>
        cases default? with
        | some v => exact hvs v (by simp)
        | none => trivial
    · exact .raise _ _
  · exact .bind (.ofResult fun _ _ => trivial) fun _ _ => .pure hd
  · exact .bind (.ofResult fun _ _ => trivial) fun _ _ => .pure hd
  · exact .bind (.ofResult fun _ _ => trivial) fun _ _ => .pure hd
  · refine .bind (.ofResult (ha.take _ _)) fun vs hvs => ?_
    split
    · next k default? =>
      have hk : k.Apart secret := hvs k (by simp)
      have hdefault : (default?.getD .none).Apart secret := by
        cases default? with
        | none => trivial
        | some v => exact hvs v (by simp)
      refine .bind (.ofResult fun _ _ => trivial) fun _ _ =>
        .bind (.withHeap fun h h' hh => hh.value? hd hk) fun found hfound => ?_
      split
      · exact .pure (hfound _ rfl)
      · exact .bind (.changeDict hd fun d hd => hd.compact.push ⟨hk, hdefault⟩) fun _ _ =>
          .pure hdefault
    · exact .raise _ _
  · have hput : ∀ more : List Item, (∀ e ∈ more, Item.Apart secret e) →
        Confined hidden secret (Value.Apart secret) (do
          putDict d (← withHeap fun h => (h.dictionary d).insertAll h (more ++ a.namedItems))
          return Value.none) :=
      fun more hmore => .bind (Value.confined_insertAll (fun _ _ hh => hh.dictionary hd)
        (List.forall_mem_append.2 ⟨hmore, ha.namedItems⟩)) fun _ hnew =>
        .bind (.putDict hd hnew) fun _ _ => .pure trivial
    split
    · exact .bind (.pure (by simp)) hput
    · next v hp => exact .bind (Value.confined_entriesOf (ha.positional v (by rw [hp]; simp))) hput
    · exact .bind (.raise _ _) hput
  · refine .bind (.ofResult (ha.take _ _)) fun vs hvs => ?_
    split
    · next k default? =>
      have hfind : Confined hidden secret
          (fun r : Option (Nat × Item) => ∀ e, r = some e → Item.Apart secret e.2)
          (withHeap fun h => do
            if (h.dictionary d).size = 0 then return none
            Value.checkKey k
            (h.dictionary d).find? h k) := by
        refine .withHeap fun h h' hh => ?_
        have hfound := hh.find? hd (hvs k (by simp))
        obtain ⟨heq, -⟩ := hh.dictionary hd
        rw [heq] at hfound ⊢
        exact .ite (.pure nofun) (.bind (.refl _) fun _ _ => hfound)
      refine .bind hfind fun found hfound => ?_
      split
      · exact .bind (.changeDict hd fun d hd => hd.erase _) fun _ _ => .pure (hfound _ rfl).2
      · exact .pure (hvs _ (by simp))
      · exact .raise _ _
    · exact .raise _ _
  · exact .bind (.ofResult fun _ _ => trivial) fun _ _ =>
      .bind (.putDict hd Dictionary.apart_empty) fun _ _ => .pure trivial
  · exact .bind (.ofResult fun _ _ => trivial) fun _ _ =>
      .bind (.look (P := Dictionary.Apart secret) fun _ _ hh => hh.dictionary hd) fun _ hnew =>
      .makeDict hnew
  · exact .raise _ _

namespace Value

theorem confined_callFrozenset {items : List Value} (hitems : ∀ v ∈ items, v.Apart secret)
    (id : Identity) (m : Method) {a : Arguments} (ha : a.Apart secret) :
    Confined hidden secret (Value.Apart secret) (callFrozenset items id m a) := by
  unfold callFrozenset
  split
  · refine .bind (.ofResult ha.plain) fun vs hvs =>
      .bind (.mapM vs fun v hv => confined_itemsOf (hvs v hv)) fun others hothers =>
      .bind (.withHeap (P := fun vs => ∀ v ∈ vs, v.Apart secret) fun h h' hh => ?_) fun vs hvs =>
      .pure (by simpa using hvs)
    -- What is left after each of the others is common to all so far.
    induction others generalizing items with
    | nil => exact .pure hitems
    | cons ys others ih =>
      obtain ⟨hys, hothers⟩ := List.forall_mem_cons.1 hothers
      rw [List.foldlM_cons, List.foldlM_cons]
      exact .bind (commonItems_alike hh hitems hys) fun zs hzs => ih hzs hothers
  · exact .bind (.ofResult fun _ _ => trivial) fun _ _ => .pure (by simpa using hitems)
  · exact .raise _ _

theorem yields_callRange (start stop step : Int) (m : Method) (a : Arguments) :
    Yields (Value.Apart secret) (callRange start stop step m a) := by
  refine .bind fun v _ => ?_
  split <;> first | exact .error _ | exact .pure trivial

theorem yields_callPlain (v : Value) (m : Method) : Yields (Value.Apart secret) (callPlain v m) := by
  unfold callPlain
  split
  · split <;> first | exact .error _ | exact .pure trivial
  · exact .pure trivial
  · exact .pure trivial
  · exact .pure trivial
  · exact .error _

theorem confined_callMethod {v : Value} (hv : v.Apart secret) (m : Method) {a : Arguments}
    (ha : a.Apart secret) : Confined hidden secret (Value.Apart secret) (v.callMethod m a) := by
  unfold callMethod
  split
  · exact TextMethod.confined_call _ _ m ha
  · exact ListMethod.confined_call hv m ha
  · exact DictMethod.confined_call hv m ha
  · exact ListMethod.confined_callReading ((apart_tuple _ _).1 hv) m ha
  · exact .ofResult (yields_callRange _ _ _ _ _)
  · exact confined_callFrozenset ((apart_frozenset _ _).1 hv) _ m ha
  · exact .ofResult (.bind fun _ _ => yields_callPlain _ _)

end Value

namespace Builtin

variable {v : Value}

theorem confined_sumOf {start : Value} (hv : v.Apart secret) (hstart : start.Apart secret) :
    Confined hidden secret (Value.Apart secret) (sumOf v start) := by
  refine Value.confined_fold (fun t w ht hw => ?_) hv hstart
  exact .bind (Value.confined_operate .add ht hw) fun _ hr => .pure hr

theorem confined_anyIs (wanted : Bool) (hv : v.Apart secret) :
    Confined hidden secret (fun _ => True) (anyIs wanted v) := by
  refine Value.confined_fold (fun b w _ hw => ?_) hv trivial
  exact .bind (.look (.of_eq fun _ _ hh => Value.truthy_alike hh hw)) fun _ _ => .pure trivial

theorem confined_printEach (sep : Str) : ∀ {vs : List Value}, (∀ v ∈ vs, v.Apart secret) →
    Confined hidden secret (fun _ => True) (printEach sep vs)
  | [], _ => .pure trivial
  | [v], hvs => .bind (.withHeap fun _ _ hh => .of_eq (Value.toText_alike hh (hvs v (by simp))))
      fun _ _ => .print _
  | v :: w :: vs, hvs =>
    .bind (.withHeap fun _ _ hh => .of_eq (Value.toText_alike hh (hvs v (by simp)))) fun _ _ =>
      .bind (.print _) fun _ _ => .bind (.print sep) fun _ _ =>
        confined_printEach sep fun u hu => hvs u (List.mem_cons_of_mem _ hu)

theorem confined_printAll {a : Arguments} (ha : a.Apart secret) :
    Confined hidden secret (fun _ => True) (printAll a) := by
  have hrest := (((ha.splitNamed "sep").2.splitNamed "end").2.splitNamed "file").2.splitNamed "flush"
  refine .bind (.ofResult hrest.2.plain) fun vs hvs => ?_
  split
  · exact .bind (.ofResult fun _ _ => trivial) fun _ _ => .bind (.ofResult fun _ _ => trivial) fun _ _ =>
      .bind (confined_printEach _ hvs) fun _ _ => .print _
  · exact .raise _ _

theorem confined_call (b : Builtin) {a : Arguments} (ha : a.Apart secret) :
    Confined hidden secret (Value.Apart secret) (b.call a) := by
  unfold call
  dsimp only
  cases b with
  | len =>
    exact .bind (.ofResult ha.one) fun v hv =>
      .bind (.withHeap fun _ _ hh => .of_eq (Value.length_alike hh hv)) fun _ _ => .pure trivial
  | sum =>
    refine .bind (.ofResult (ha.take _ _)) fun vs hvs => ?_
    split
    · exact .raise _ _
    · next v start _ =>
      refine confined_sumOf (hvs v (by simp)) ?_
      cases start with
      | none => trivial
      | some w => exact hvs w (by simp)
    · exact .raise _ _
  | isinstance =>
    refine .bind (.ofResult fun _ _ => trivial) fun vs _ => ?_
    split
    · exact .bind (.withHeap fun _ _ hh => .of_eq (by rw [hh.room])) fun _ _ => .pure trivial
    · exact .raise _ _
  | repr =>
    refine .bind (.ofResult ha.one) fun v hv => ?_
    split
    · exact .withHeap fun h h' hh => ⟨rfl, Value.yields_toTextValue h⟩
    · exact .bind (Value.confined_shown hv) fun _ _ => .pure trivial
  | abs =>
    refine .bind (.ofResult ha.one) fun v hv => ?_
    split
    · refine .pure ?_
      split <;> trivial
    · split
      · exact .pure trivial
      · exact .pure trivial
      · exact .pure trivial
      · exact .raise _ _
  | any => exact .bind (.ofResult ha.one) fun v hv => .bind (confined_anyIs _ hv) fun _ _ => .pure trivial
  | all => exact .bind (.ofResult ha.one) fun v hv => .bind (confined_anyIs _ hv) fun _ _ => .pure trivial
  | ord =>
    refine .bind (.ofResult fun _ _ => trivial) fun v _ => ?_
    split
    · exact .pure trivial
    · exact .raise _ _
  | chr =>
    refine .bind (.ofResult fun _ _ => trivial) fun v _ => .bind (.ofResult fun _ _ => trivial)
      fun i _ => ?_
    split
    · exact .pure trivial
    · exact .raise _ _
  | print => exact .bind (confined_printAll ha) fun _ _ => .pure trivial
  | makeCharTable => exact .bind (.ofResult ha.plain) fun _ hvs => Value.confined_makeCharTable hvs
  | _ => exact .raise _ _

end Builtin
end TemplateEngine.Script
