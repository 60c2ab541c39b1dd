import TemplateEngine.Proofs.Confined.Sorting

set_option autoImplicit false

namespace TemplateEngine.Script

open Run

variable {α β : Type} {hidden : Reserved} {secret : List Address}

theorem Reads.of_eq {f : Heap → α} (hf : ∀ h h' : Heap, h.Alike hidden secret h' → f h' = f h) :
    Reads hidden secret (fun _ => True) f := fun h h' hh => ⟨hf h h' hh, trivial⟩

namespace Heap.Alike

variable {h h' : Heap} {a : Address} {v : Value} (hh : h.Alike hidden secret h')
include hh

theorem find? (ha : a ∉ secret) (hv : v.Apart secret) :
    SameWith (fun r => ∀ e, r = some e → Item.Apart secret e.2) ((h.dictionary a).find? h v)
      ((h'.dictionary a).find? h' v) := by
  obtain ⟨heq, hd⟩ := hh.dictionary ha
  obtain ⟨hfind, hapart⟩ := Dictionary.find?_alike hh hd hv
  rw [heq]
  exact ⟨hfind, fun r hr e he => hapart e (he ▸ hr)⟩

theorem value? (ha : a ∉ secret) (hv : v.Apart secret) :
    SameWith (fun r => ∀ w, r = some w → w.Apart secret) ((h.dictionary a).value? h v)
      ((h'.dictionary a).value? h' v) := by
  obtain ⟨heq, hd⟩ := hh.dictionary ha
  obtain ⟨hvalue, hapart⟩ := Dictionary.value?_alike hh hd hv
  rw [heq]
  exact ⟨hvalue, fun r hr w hw => hapart w (hw ▸ hr)⟩

end Heap.Alike

namespace Cursor

theorem confined_nextWithin (n : Nat) {c : Cursor} (hc : c.Apart secret) :
    Confined hidden secret (fun r => (∀ v, r.1 = some v → v.Apart secret) ∧ r.2.Apart secret)
      (c.nextWithin n) := by
  induction n generalizing c with
  | zero => exact .exhausted
  | succ n ih =>
    have hend : Confined hidden secret
        (fun r => (∀ v, r.1 = some v → v.Apart secret) ∧ r.2.Apart secret)
        (Pure.pure (none, done) : Run (Option Value × Cursor)) := .pure ⟨nofun, trivial⟩
    have hitem : ∀ {a : Address} (i : Nat), a ∉ secret → Reads hidden secret
        (fun o => ∀ v, o = some v → v.Apart secret) (fun h => (h.itemArray a)[i]?) := by
      intro a i ha h h' hh
      obtain ⟨heq, hapart⟩ := hh.itemArray ha
      exact ⟨by dsimp only; rw [heq], fun v hv => hapart v (Array.mem_of_getElem? hv)⟩
    unfold nextWithin
    split
    · exact hend
    · exact hend
    · exact hend
    · exact hend
    · obtain ⟨hv, hvs⟩ := List.forall_mem_cons.1 hc
      exact .pure ⟨fun w hw => Option.some.inj hw ▸ hv, hvs⟩
    · refine .bind (.look (hitem _ hc)) fun o ho => ?_
      cases o with
      | none => exact hend
      | some v => exact .pure ⟨ho, hc⟩
    · refine .bind (.look (hitem _ hc)) fun o ho => ?_
      cases o with
      | none => exact hend
      | some v => exact .pure ⟨ho, hc⟩
    · next k a size left i =>
      have hnext : Reads hidden secret
          (fun r : Nat × Option (Nat × Item) => ∀ e, r.2 = some e → Item.Apart secret e.2)
          (fun h => ((h.dictionary a).size, (h.dictionary a).next? i)) := by
        intro h h' hh
        obtain ⟨heq, hd⟩ := hh.dictionary hc
        exact ⟨by dsimp only; rw [heq], fun e he => hd.next? he⟩
      refine .bind (.look hnext) fun r hr => ?_
      obtain ⟨now, next⟩ := r
      dsimp only
      split
      · exact .raise _ _
      · split
        · exact hend
        · exact .raise _ _
        · exact .pure ⟨fun w hw => Option.some.inj hw ▸ k.apart_ofEntry (hr _ rfl), hc⟩
    · exact .pure ⟨fun w hw => Option.some.inj hw ▸ trivial, trivial⟩
    · exact .bind (.look fun h h' hh => hh.cursor hc) fun c hcur => .bind (ih hcur) fun r hr =>
        .bind (.put hc (.iterator hr.2)) fun _ _ => .pure ⟨hr.1, hc⟩
    · refine .bind (ih (c := iterator _) hc) fun r hr => ?_
      split
      · exact .pure ⟨fun w hw => Option.some.inj hw ▸ by simpa using hr.1 _ rfl, hc⟩
      · exact .pure ⟨nofun, hc⟩
    · exact hend
    · next sources _ =>
      refine .bind (.foldlM (R := fun vs => ∀ ws, vs = some ws → ∀ w ∈ ws, w.Apart secret) _
        (fun vs hvs a ha => ?_) fun ws hws => Option.some.inj hws ▸ by simp) fun vs hvs =>
        .pure ⟨fun w hw => ?_, hc⟩
      · cases vs with
        | none => exact .pure nofun
        | some vs =>
          refine .bind (ih (c := iterator a) (hc a ha)) fun r hr => .pure fun ws hws => ?_
          obtain ⟨v, hv, rfl⟩ := Option.map_eq_some_iff.1 hws
          exact List.forall_mem_append.2 ⟨hvs vs rfl, by simpa using hr.1 v hv⟩
      · obtain ⟨ws, hws, rfl⟩ := Option.map_eq_some_iff.1 hw
        simpa using hvs ws hws

theorem confined_next {c : Cursor} (hc : c.Apart secret) :
    Confined hidden secret (fun r => (∀ v, r.1 = some v → v.Apart secret) ∧ r.2.Apart secret)
      c.next := by
  -- The bound on the iterators is taken from the heap.
  have hwithin : Confined hidden secret
      (fun r => (∀ v, r.1 = some v → v.Apart secret) ∧ r.2.Apart secret)
      (fun s => nextWithin (s.heap.objects.size + 2) c s) := by
    intro s s' h
    dsimp only
    rw [h.heap.size]
    exact confined_nextWithin _ hc s s' h
  refine .bind hwithin fun r hr => ?_
  split
  · exact .bind (.settle (hr.1 _ rfl)) fun v hv =>
      .pure ⟨fun w hw => Option.some.inj hw ▸ hv, hr.2⟩
  · exact .pure ⟨nofun, hr.2⟩

theorem confined_fold {σ : Type} {S : σ → Prop} {f : σ → Value → Run (ForInStep σ)}
    (hf : ∀ a v, S a → v.Apart secret → Confined hidden secret (fun r => S r.value) (f a v))
    (n : Nat) {c : Cursor} (hc : c.Apart secret) {a : σ} (ha : S a) :
    Confined hidden secret S (Cursor.fold f n c a) := by
  induction n generalizing c a with
  | zero => exact .exhausted
  | succ n ih =>
    refine .bind (confined_next hc) fun r hr => ?_
    split
    · exact .pure ha
    · refine .bind (hf _ _ ha (hr.1 _ rfl)) fun step hstep => ?_
      cases step with
      | done a => exact .pure hstep
      | yield a => exact ih hr.2 hstep

end Cursor

namespace Value

variable {v : Value}

theorem confined_cursor (hv : v.Apart secret) :
    Confined hidden secret (Cursor.Apart secret) (withHeap v.cursor) :=
  .withHeap fun _ _ hh => cursor_alike hh hv

theorem confined_fold {σ : Type} {S : σ → Prop} {f : σ → Value → Run (ForInStep σ)}
    (hf : ∀ a v, S a → v.Apart secret → Confined hidden secret (fun r => S r.value) (f a v))
    (hv : v.Apart secret) {a : σ} (ha : S a) : Confined hidden secret S (v.fold a f) :=
  .bind (confined_cursor hv) fun _ hc => Cursor.confined_fold hf _ hc ha

theorem confined_iteratorOf (hv : v.Apart secret) :
    Confined hidden secret (fun a => a ∉ secret) v.iteratorOf := by
  unfold iteratorOf
  split
  · exact .pure hv.1
  · exact .bind (confined_cursor hv) fun _ hc => .make (.iterator hc)

theorem confined_firstItems (n : Nat) (hv : v.Apart secret) :
    Confined hidden secret (fun vs => ∀ w ∈ vs, w.Apart secret) (v.firstItems n) := by
  unfold firstItems
  split
  · exact .bind (confined_cursor hv) fun _ _ => .pure (by simp)
  · refine .bind (confined_fold (S := fun vs => ∀ w ∈ vs, w.Apart secret) (fun vs w hvs hw => .pure ?_)
      hv (by simp)) fun vs hvs => .pure (by simpa using hvs)
    split <;> exact List.forall_mem_cons.2 ⟨hw, hvs⟩

theorem confined_itemsOf (hv : v.Apart secret) :
    Confined hidden secret (fun vs => ∀ w ∈ vs, w.Apart secret) v.itemsOf := by
  refine .allSettled ?_
  split
  · exact .pure (by simp)
  · exact .pure (by simpa using hv)
  · exact .pure (by simpa using hv)
  · refine .bind (.ofResult fun _ _ => trivial) fun n _ => ?_
    split
    · exact .raise _ _
    · exact .pure (by simp)
  · exact .look fun _ _ hh => hh.items hv
  · refine .look fun h h' hh => ?_
    obtain ⟨heq, hd⟩ := hh.dictionary hv
    exact ⟨by rw [heq], hd.keys⟩
  · next k a _ =>
    refine .look fun h h' hh => ?_
    obtain ⟨heq, hd⟩ := hh.entries hv
    refine ⟨by rw [heq], fun w hw => ?_⟩
    obtain ⟨e, he, rfl⟩ := List.mem_map.1 hw
    exact k.apart_ofEntry (hd e he)
  · exact .bind (confined_fold (S := fun vs => ∀ w ∈ vs, w.Apart secret)
      (fun vs w hvs hw => .pure (List.forall_mem_cons.2 ⟨hw, hvs⟩)) hv (by simp)) fun vs hvs =>
      .pure (by simpa using hvs)

theorem confined_memberOf {container : Value} (hv : v.Apart secret) (hc : container.Apart secret) :
    Confined hidden secret (fun _ => True) (v.memberOf container) := by
  have hsearch : ∀ c : Value, c.Apart secret → Confined hidden secret (fun _ => True)
      (c.fold false fun _ w => do
        if ← Run.withHeap fun h => isItem h w v then return .done true else return .yield false) := by
    intro c hc
    refine confined_fold (fun _ w _ hw => .bind
      (.withHeap (fun h h' hh => .of_eq <| isItem_alike hh w v hw hv)) fun b _ => ?_) hc trivial
    cases b <;> exact .pure trivial
  have hkey : ∀ a, a ∉ secret → Confined hidden secret (fun _ => True) (withHeap fun h => do
      checkKey v
      return (← (h.dictionary a).find? h v).isSome) :=
    fun a ha => .withHeap fun h h' hh => .bind (.refl _) fun _ _ => .bind (hh.find? ha hv) fun _ _ =>
      .pure trivial
  unfold memberOf
  split
  · exact .pure trivial
  · exact .raise _ _
  · exact hkey _ hc
  · exact hkey _ hc
  · next a k w _ =>
    rw [apart_tuple] at hv
    refine .withHeap fun h h' hh => .bind (.refl _) fun _ _ => .bind (hh.value? hc (hv k (by simp)))
      fun u hu => ?_
    cases u with
    | none => exact .pure trivial
    | some u => exact .of_eq (isItem_alike hh u w (hu u rfl) (hv w (by simp)))
  · exact .pure trivial
  · rw [apart_frozenset] at hc
    exact .withHeap (fun h h' hh => .of_eq <| bind_congr fun _ => occurs_alike hh hv fun w hw =>
      hc w ((List.mem_filter.1 hw).1))
  · exact .pure trivial
  · rw [apart_tuple] at hc
    exact .withHeap (fun h h' hh => .of_eq <| occurs_alike hh hv hc)
  · refine .withHeap (fun h h' hh => .of_eq <| ?_)
    obtain ⟨heq, hitems⟩ := hh.items hc
    rw [heq, occurs_alike hh hv hitems]
  · exact hsearch _ hc

theorem mem_of_sliced {items ws : List Value} {x y z w : Value}
    (h : sliced items x y z = .ok ws) (hw : w ∈ ws) : w ∈ items := by
  obtain ⟨r, -, hws⟩ := Result.exists_of_bind h
  obtain rfl := Except.ok.inj hws
  obtain ⟨i, -, hi⟩ := List.mem_filterMap.1 hw
  simpa using Array.mem_of_getElem? hi

theorem apart_slicedItems {items : List Value} {x y z w : Value} (hv : v.Apart secret)
    (hitems : ∀ w ∈ items, w.Apart secret) (h : slicedItems v items x y z = .ok w) :
    w.Apart secret := by
  obtain ⟨all, -, h⟩ := Result.exists_of_bind h
  split at h
  · exact Except.ok.inj h ▸ hv
  · obtain ⟨ws, hws, h⟩ := Result.exists_of_bind h
    exact Except.ok.inj h ▸ (apart_ofItems _).2 fun u hu => hitems u (mem_of_sliced hws hu)

theorem apart_slicedText {t : Str} {x y z w : Value} (hv : v.Apart secret)
    (h : slicedText v t x y z = .ok w) : w.Apart secret := by
  obtain ⟨all, -, h⟩ := Result.exists_of_bind h
  split at h
  · exact Except.ok.inj h ▸ hv
  · obtain ⟨u, -, h⟩ := Result.exists_of_bind h
    obtain ⟨r, -, h⟩ := Result.exists_of_bind h
    refine Except.ok.inj h ▸ ?_
    split <;> trivial

theorem apart_itemAt {size : Nat} {item? : Nat → Option Value} {index w : Value}
    (hitems : ∀ i u, item? i = some u → u.Apart secret) (h : itemAt size item? index = .ok w) :
    w.Apart secret := by
  unfold itemAt at h
  split at h
  · obtain ⟨n, -, h⟩ := Result.exists_of_bind h
    split at h
    · next u hu => exact Except.ok.inj h ▸ hitems n u hu
    · contradiction
  · contradiction

theorem confined_getItem {index : Value} (hv : v.Apart secret) (hi : index.Apart secret) :
    Confined hidden secret (Value.Apart secret) (v.getItem index) := by
  unfold getItem
  split
  · refine .bind (.withHeap (P := fun vs => ∀ w ∈ vs, w.Apart secret) fun h h' hh => ?_) fun vs hvs =>
      .makeList hvs
    obtain ⟨heq, hitems⟩ := hh.items hv
    exact ⟨by rw [heq], fun ws hws w hw => hitems w (mem_of_sliced hws hw)⟩
  · exact .ofResult fun w hw => apart_slicedItems hv ((apart_tuple _ _).1 hv) hw
  · exact .ofResult fun w hw => apart_slicedText hv hw
  · exact .bind (.ofResult fun _ _ => trivial) fun _ _ => .pure trivial
  · refine .bind (.look (P := fun items => ∀ u ∈ items, u.Apart secret) fun h h' hh =>
      hh.itemArray hv) fun items hitems => .ofResult fun w hw =>
      apart_itemAt (fun i u hu => hitems u (Array.mem_of_getElem? hu)) hw
  · rw [apart_tuple] at hv
    exact .ofResult fun w hw => apart_itemAt (fun i u hu => hv u (List.mem_of_getElem? hu)) hw
  · refine .ofResult fun w hw => apart_itemAt (fun i u hu => ?_) hw
    obtain ⟨c, -, rfl⟩ := Option.map_eq_some_iff.1 hu
    exact apart_ofChar c
  · refine .ofResult fun w hw => apart_itemAt ?_ hw
    exact fun i u hu => Option.some.inj hu ▸ apart_ofInt _
  · refine .withHeap fun h h' hh => .bind (.refl _) fun _ _ => .bind (hh.value? hv hi) fun u hu => ?_
    cases u with
    | none => exact ⟨rfl, fun _ h => by contradiction⟩
    | some u => exact .pure (hu u rfl)
  · exact .raise _ _

theorem apart_withSlice {items more ws : List Value} {x y z : Value}
    (hitems : ∀ w ∈ items, w.Apart secret) (hmore : ∀ w ∈ more, w.Apart secret)
    (h : withSlice items more x y z = .ok ws) : ∀ w ∈ ws, w.Apart secret := by
  obtain ⟨⟨a, b, c⟩, -, h⟩ := Result.exists_of_bind h
  dsimp only at h
  split at h
  · obtain rfl := Except.ok.inj h
    simp only [List.append_assoc]
    exact List.forall_mem_append.2 ⟨fun w hw => hitems w (List.mem_of_mem_take hw),
      List.forall_mem_append.2 ⟨hmore, fun w hw => hitems w (List.mem_of_mem_drop hw)⟩⟩
  · obtain ⟨places, -, h⟩ := Result.exists_of_bind h
    split at h
    · contradiction
    · obtain rfl := Except.ok.inj h
      -- The places are set one after the other.
      have hset : ∀ es : List (Nat × Value), (∀ e ∈ es, e.2.Apart secret) →
          ∀ vs : List Value, (∀ w ∈ vs, w.Apart secret) →
          ∀ w ∈ es.foldl (fun vs e => vs.set e.1 e.2) vs, w.Apart secret := by
        intro es
        induction es with
        | nil => exact fun _ vs hvs => hvs
        | cons e es ih =>
          intro hes vs hvs
          obtain ⟨he, hes⟩ := List.forall_mem_cons.1 hes
          refine ih hes _ fun w hw => ?_
          obtain hw | rfl := List.mem_or_eq_of_mem_set hw
          · exact hvs w hw
          · exact he
      exact hset _ (fun e he => hmore _ (List.of_mem_zip he).2) _ hitems

theorem confined_setItem {index new : Value} (hv : v.Apart secret) (hi : index.Apart secret)
    (hnew : new.Apart secret) : Confined hidden secret (fun _ => True) (v.setItem index new) := by
  have hset : ∀ (items : Array Value) (n : Nat), (∀ w ∈ items, w.Apart secret) →
      ∀ w ∈ items.setIfInBounds n new, w.Apart secret := by
    intro items n hitems w hw
    obtain hw | rfl := Array.mem_or_eq_of_mem_setIfInBounds hw
    · exact hitems w hw
    · exact hnew
  unfold setItem
  split
  · next a x y z _ =>
    refine .bind (.withHeap (fun h h' hh => .of_eq <| by rw [(hh.itemArray hv).1])) fun _ _ =>
      .bind (confined_itemsOf hnew) fun more hmore =>
      .bind (.withHeap (P := fun vs => ∀ w ∈ vs, w.Apart secret) fun h h' hh => ?_) fun vs hvs =>
      .putItems hv hvs
    obtain ⟨heq, hitems⟩ := hh.items hv
    exact ⟨by rw [heq], fun ws hws => apart_withSlice hitems hmore hws⟩
  · split
    · exact .bind (.withHeap (fun h h' hh => .of_eq <| by rw [(hh.itemArray hv).1])) fun n _ =>
        .changeItems hv fun items hitems => hset items n hitems
    · exact .raise _ _
  · refine .bind (.withHeap (P := fun _ => True) fun h h' hh => .bind (.refl _) fun _ _ =>
      ⟨(hh.find? hv hi).1, fun _ _ => trivial⟩) fun found _ => .changeDict hv fun d hd => ?_
    split
    · exact hd.setValue _ hnew
    · exact hd.compact.push ⟨hi, hnew⟩
  · exact .raise _ _

theorem mem_of_without {items : List Value} {places : List Nat} {w : Value} (h : w ∈ without items places) :
    w ∈ items := by
  obtain ⟨e, he, rfl⟩ := List.mem_map.1 h
  exact List.fst_mem_of_mem_zipIdx (List.mem_filter.1 he).1

theorem confined_deleteItem {index : Value} (hv : v.Apart secret) (hi : index.Apart secret) :
    Confined hidden secret (fun _ => True) (v.deleteItem index) := by
  unfold deleteItem
  split
  · refine .bind (.withHeap (P := fun vs => ∀ w ∈ vs, w.Apart secret) fun h h' hh => ?_) fun vs hvs =>
      .putItems hv hvs
    obtain ⟨heq, hitems⟩ := hh.items hv
    rw [heq]
    exact .bind (.refl _) fun places _ => .pure fun w hw => hitems w (mem_of_without hw)
  · split
    · refine .bind (.withHeap (fun h h' hh => .of_eq <| by rw [(hh.itemArray hv).1])) fun n _ =>
        .changeItems hv fun items hitems w hw => hitems w ?_
      unfold Array.eraseIdxIfInBounds at hw
      split at hw
      · exact Array.mem_of_mem_eraseIdx hw
      · exact hw
    · exact .raise _ _
  · refine .bind (.withHeap (P := fun _ => True) fun h h' hh => .bind (.refl _) fun _ _ =>
      ⟨(hh.find? hv hi).1, fun _ _ => trivial⟩) fun found _ => ?_
    split
    · exact .changeDict hv fun d hd => hd.erase _
    · exact .raise _ _
  · exact .raise _ _

end Value
end TemplateEngine.Script
