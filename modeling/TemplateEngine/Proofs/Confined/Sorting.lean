import TemplateEngine.Proofs.Confined.Reading

set_option autoImplicit false

/-!
# Sorting on heaps that are alike

Sorting looks at its entries by comparing their keys only, and puts out nothing but its entries. So it
goes the same way with two orders that agree on these.
-/
namespace TemplateEngine.Script

variable {α ε : Type}

namespace Merging

theorem mem_of_mem_extract {a : α} {as : Array α} {i j : Nat} (h : a ∈ as.extract i j) : a ∈ as := by
  rw [← Array.mem_toList_iff, Array.toList_extract] at h
  exact Array.mem_toList_iff.1 (List.mem_of_mem_drop (List.mem_of_mem_take h))

variable {P : α → Prop}

/-- Two tests that agree on some elements agree wherever they look for them. -/
theorem testAt_congr {as : Array α} (index : Nat → Nat) {test test' : α → Except ε Bool}
    (h : ∀ a ∈ as, test' a = test a) :
    (fun i => match as[index i]? with
      | some a => test' a
      | none => return false) =
    fun i => match as[index i]? with
      | some a => test a
      | none => return false := by
  funext i
  cases hi : as[index i]? with
  | none => rfl
  | some a => exact h a (Array.mem_of_getElem? hi)

def Part.All (P : α → Prop) (p : Part α) : Prop := ∀ a ∈ p.items, P a

structure State.All (P : α → Prop) (s : State α) : Prop where
  front : s.front.All P
  back : s.back.All P
  taken : ∀ a ∈ s.taken, P a

namespace Part.All

variable {p : Part α} (h : p.All P)
include h

theorem next? {a : α} (ha : p.next? = some a) : P a := h a (Array.mem_of_getElem? ha)

theorem rest : ∀ a ∈ p.rest, P a := by
  intro a ha
  exact h a (mem_of_mem_extract (Array.mem_toList_iff.1 ha))

theorem take (n : Nat) : (p.take n).1.All P ∧ ∀ a ∈ (p.take n).2, P a := by
  refine ⟨h, fun a ha => ?_⟩
  simp only [Part.take] at ha
  have hmem : ∀ start, a ∈ (p.items.extract start (start + n)).toList → P a :=
    fun start ha => h a (mem_of_mem_extract (Array.mem_toList_iff.1 ha))
  split at ha
  · exact hmem _ (List.mem_reverse.1 ha)
  · exact hmem _ ha

theorem count_congr {test test' : α → Except ε Bool} (ht : ∀ a, P a → test' a = test a) :
    p.count test' = p.count test := by
  have hpasses := testAt_congr (p.first + ·) fun a ha => ht a (h a ha)
  exact congrArg (fun passes => do
    let n ← gallop passes p.left (if p.fromEnd then p.left - 1 else 0)
    return if p.fromEnd then p.left - n else n) hpasses

end Part.All

namespace State.All

variable {s : State α} (h : s.All P)
include h

theorem takeFront (n : Nat) : (s.takeFront n).All P := by
  obtain ⟨hp, htaken⟩ := h.front.take n
  refine ⟨hp, h.back, fun a ha => ?_⟩
  obtain ha | ha := List.mem_append.1 ha
  · exact htaken a (List.mem_reverse.1 ha)
  · exact h.taken a ha

theorem takeBack (n : Nat) : (s.takeBack n).All P := by
  obtain ⟨hp, htaken⟩ := h.back.take n
  refine ⟨h.front, hp, fun a ha => ?_⟩
  obtain ha | ha := List.mem_append.1 ha
  · exact htaken a (List.mem_reverse.1 ha)
  · exact h.taken a ha

theorem result : ∀ a ∈ s.result, P a := by
  have hrest : ∀ a ∈ s.back.rest ++ s.front.rest, P a :=
    List.forall_mem_append.2 ⟨h.back.rest, h.front.rest⟩
  unfold State.result
  dsimp only
  split
  · exact List.forall_mem_append.2 ⟨hrest, h.taken⟩
  · exact List.forall_mem_append.2 ⟨fun a ha => h.taken a (List.mem_reverse.1 ha), hrest⟩

end State.All

variable {less less' : α → α → Except ε Bool}
  (hless : ∀ a b, P a → P b → less' a b = less a b)
include hless

theorem takeOneByOne_congr (enough n f b : Nat) {s : State α} (h : s.All P) :
    SameWith (State.All P) (takeOneByOne less enough n f b s) (takeOneByOne less' enough n f b s) := by
  induction n generalizing f b s with
  | zero => exact .pure h
  | succ n ih =>
    rw [takeOneByOne, takeOneByOne]
    split
    · next x y hx hy =>
      rw [hless y x (h.back.next? hy) (h.front.next? hx)]
      refine .bind (.refl _) fun c _ => ?_
      refine .ite (.ite (.pure (h.takeFront 1)) (ih _ _ (h.takeFront 1)))
        (.ite (.pure (h.takeBack 1)) (ih _ _ (h.takeBack 1)))
    · exact .pure h

theorem takeSeveral_congr (n enough : Nat) {s : State α} (h : s.All P) :
    SameWith (fun r => r.2.All P) (takeSeveral less n enough s) (takeSeveral less' n enough s) := by
  induction n generalizing enough s with
  | zero => exact .pure h
  | succ n ih =>
    have hfront : ∀ y, s.back.next? = some y →
        s.front.count (fun x => do return !(← less' y x)) =
          s.front.count fun x => do return !(← less y x) :=
      fun y hy => h.front.count_congr fun x hx => by rw [hless y x (h.back.next? hy) hx]
    have hback : ∀ t : State α, t.All P → ∀ x, t.front.next? = some x →
        t.back.count (fun y => less' y x) = t.back.count fun y => less y x :=
      fun t ht x hx => ht.back.count_congr fun y hy => hless y x hy (ht.front.next? hx)
    unfold takeSeveral
    dsimp only
    have h1 := fun f => h.takeFront f
    have h2 := fun f => (h1 f).takeBack 1
    have h3 := fun f b => (h2 f).takeBack b
    have h4 := fun f b => (h3 f b).takeFront 1
    -- Whether a part has a next item decides only how many come next of the other one.
    cases hy : s.back.next?
    all_goals
      refine .bind (.of_eq ?_) fun f _ => .ite (.pure (h1 f)) (.ite (.pure (h2 f)) ?_)
    · rfl
    · cases hx : ((s.takeFront f).takeBack 1).front.next?
      all_goals
        refine .bind (.of_eq ?_) fun b _ => .ite (.pure (h3 f b)) (.ite (.pure (h4 f b))
          (.ite (ih _ (h4 f b)) (.pure (h4 f b))))
      · rfl
      · exact hback _ (h2 f) _ hx
    · exact hfront _ hy
    · cases hx : ((s.takeFront f).takeBack 1).front.next?
      all_goals
        refine .bind (.of_eq ?_) fun b _ => .ite (.pure (h3 f b)) (.ite (.pure (h4 f b))
          (.ite (ih _ (h4 f b)) (.pure (h4 f b))))
      · rfl
      · exact hback _ (h2 f) _ hx

theorem mergeOn_congr (n enough : Nat) {s : State α} (h : s.All P) :
    SameWith (fun r => r.2.All P) (mergeOn less n enough s) (mergeOn less' n enough s) := by
  induction n generalizing enough s with
  | zero => exact .pure h
  | succ n ih =>
    refine .bind (takeOneByOne_congr hless enough _ 0 0 h) fun t ht => .ite (.pure ht) ?_
    exact .bind (takeSeveral_congr hless _ _ ht) fun r hr => .ite (.pure hr) (ih _ hr)

theorem merge_congr (enough : Nat) {front back : Array α} (hfront : ∀ a ∈ front, P a)
    (hback : ∀ a ∈ back, P a) :
    SameWith (fun r => ∀ a ∈ r.2, P a) (merge less enough front back)
      (merge less' enough front back) := by
  have happend : ∀ a ∈ front ++ back, P a := fun a ha =>
    (Array.mem_append.1 ha).elim (hfront a) (hback a)
  unfold merge
  cases hy : back[0]? with
  | none => exact .pure hfront
  | some y =>
    have hPy : P y := hback y (Array.mem_of_getElem? hy)
    have hsame : ∀ x ∈ front, (do return !(← less' y x) : Except ε Bool) = do return !(← less y x) :=
      fun x hx => by rw [hless y x hPy (hfront x hx)]
    have hbefore := testAt_congr id hsame
    refine .bind (.of_eq (congrArg (fun before => gallop before front.size 0) hbefore)) fun n _ => ?_
    cases hx : front.back? with
    | none => exact .pure hback
    | some x =>
      have hPx : P x := hfront x (Array.mem_of_back? hx)
      have hsame : ∀ z ∈ back, less' z x = less z x := fun z hz => hless z x (hback z hz) hPx
      have hbehind := testAt_congr id hsame
      refine .ite (.pure happend) (.bind (.of_eq
        (congrArg (fun before => gallop before back.size (back.size - 1)) hbehind)) fun m _ =>
          .ite (.pure happend) ?_)
      have hstart : State.All P
          { front := ⟨front.extract n front.size, front.size - n, m < front.size - n⟩
            back := ⟨back.extract 0 m, m, m < front.size - n⟩
            fromEnd := m < front.size - n } :=
        ⟨fun a ha => hfront a (mem_of_mem_extract ha),
          fun a ha => hback a (mem_of_mem_extract ha), by simp⟩
      have hend : ∀ s : State α, s.All P →
          ∀ a ∈ front.extract 0 n ++ s.result.toArray ++ back.extract m back.size, P a := by
        intro s hs a ha
        obtain ha | ha := Array.mem_append.1 ha
        · obtain ha | ha := Array.mem_append.1 ha
          · exact hfront a (mem_of_mem_extract ha)
          · exact hs.result a (by simpa using ha)
        · exact hback a (mem_of_mem_extract ha)
      have hmerged : ∀ s : State α, s.All P → SameWith (fun r : Nat × Array α => ∀ a ∈ r.2, P a)
          (do
            let r ← if s.isOver then pure (enough, s) else mergeOn less (front.size + m) enough s
            return (r.1, front.extract 0 n ++ r.2.result.toArray ++ back.extract m back.size))
          (do
            let r ← if s.isOver then pure (enough, s) else mergeOn less' (front.size + m) enough s
            return (r.1, front.extract 0 n ++ r.2.result.toArray ++ back.extract m back.size)) :=
        fun s hs => .ite (.pure (hend s hs))
          (.bind (mergeOn_congr hless _ _ hs) fun r hr => .pure (hend r.2 hr))
      refine hmerged _ ?_
      split
      · exact hstart.takeFront 1
      · exact hstart.takeBack 1

end Merging

namespace Sorting

variable {hidden : Reserved} {secret : List Address} {h h' : Heap}
  (hh : h.Alike hidden secret h')
include hh

theorem less_alike (d e : Entry) (hd : Item.Apart secret d) (he : Item.Apart secret e) :
    less h' d e = less h d e := Value.ordered_alike hh .less d.1 e.1 hd.1 he.1

theorem runLength_alike (falling : Bool) {d : Entry} {es : List Entry} (hd : Item.Apart secret d)
    (hes : ∀ e ∈ es, Item.Apart secret e) :
    runLength h' falling d es = runLength h falling d es := by
  induction es generalizing d with
  | nil => rfl
  | cons e es ih =>
    obtain ⟨he, hes⟩ := List.forall_mem_cons.1 hes
    rw [runLength, runLength, less_alike hh e d he hd, ih he hes]

theorem insert_alike {sorted : List Entry} {e : Entry} (hs : ∀ d ∈ sorted, Item.Apart secret d)
    (he : Item.Apart secret e) :
    SameWith (fun es => ∀ d ∈ es, Item.Apart secret d) (insert h sorted e)
      (insert h' sorted e) := by
  refine .bind (.of_eq ?_) fun i _ => .pure fun d hd => ?_
  · refine congrArg (fun stays => Merging.halve stays sorted.toArray.size 0 sorted.toArray.size)
      (funext fun i => ?_)
    cases hi : sorted.toArray[i]? with
    | none => rfl
    | some d =>
      have hd : d ∈ sorted := by simpa using Array.mem_of_getElem? hi
      simp only [less_alike hh e d he (hs d hd)]
  obtain hd | hd := List.mem_append.1 hd
  · exact hs d (List.mem_of_mem_take hd)
  · obtain rfl | hd := List.mem_cons.1 hd
    · exact he
    · exact hs d (List.mem_of_mem_drop hd)

theorem stretch_alike (least : Nat) {es : List Entry} (hes : ∀ e ∈ es, Item.Apart secret e) :
    SameWith (fun r => (∀ d ∈ r.1, Item.Apart secret d) ∧ ∀ d ∈ r.2, Item.Apart secret d)
      (stretch h least es) (stretch h' least es) := by
  match es, hes with
  | [], hes => exact .pure ⟨hes, hes⟩
  | [e], hes => exact .pure ⟨hes, by simp⟩
  | d :: e :: es, hes =>
    obtain ⟨hd, hrest⟩ := List.forall_mem_cons.1 hes
    obtain ⟨he, hes'⟩ := List.forall_mem_cons.1 hrest
    rw [stretch, stretch, less_alike hh e d he hd]
    refine .bind (.refl _) fun falling _ => ?_
    rw [runLength_alike hh falling he hes']
    refine .bind (.refl _) fun n _ => ?_
    dsimp only
    have hstart : ∀ x ∈ (if falling then ((d :: e :: es).take (n + 2)).reverse
        else (d :: e :: es).take (n + 2)), Item.Apart secret x := by
      intro x hx
      split at hx
      · exact hes x (List.mem_of_mem_take (List.mem_reverse.1 hx))
      · exact hes x (List.mem_of_mem_take hx)
    have hmore : ∀ x ∈ ((d :: e :: es).drop (n + 2)).take (least - (n + 2)), Item.Apart secret x :=
      fun x hx => hes x (List.mem_of_mem_drop (List.mem_of_mem_take hx))
    revert hstart
    generalize (if falling then ((d :: e :: es).take (n + 2)).reverse
        else (d :: e :: es).take (n + 2)) = start
    intro hstart
    refine .bind (P := fun r => ∀ d ∈ r, Item.Apart secret d) ?_ fun found hfound =>
      .pure ⟨hfound, fun x hx => hes x (List.mem_of_mem_drop hx)⟩
    revert hmore
    generalize ((d :: e :: es).drop (n + 2)).take (least - (n + 2)) = more
    intro hmore
    induction more generalizing start with
    | nil => exact .pure hstart
    | cons x more ih =>
      obtain ⟨hx, hmore⟩ := List.forall_mem_cons.1 hmore
      rw [List.foldlM_cons, List.foldlM_cons]
      exact .bind (insert_alike hh hstart hx) fun next hnext => ih next hnext hmore

def Stretch.Apart (secret : List Address) (s : Stretch) : Prop := ∀ e ∈ s.entries, Item.Apart secret e

theorem join_alike (enough : Nat) {x y : Stretch} (hx : x.Apart secret) (hy : y.Apart secret) :
    SameWith (fun r => r.2.Apart secret) (join h enough x y) (join h' enough x y) :=
  .bind (Merging.merge_congr (less_alike hh) enough hx hy) fun _ hr => .pure hr

theorem settle_alike (depth enough : Nat) {last : Stretch} {ss : List Stretch}
    (hl : last.Apart secret) (hss : ∀ s ∈ ss, s.Apart secret) :
    SameWith (fun r => ∀ s ∈ r.2, s.Apart secret) (settle h depth enough last ss)
      (settle h' depth enough last ss) := by
  induction ss generalizing enough last with
  | nil => exact .pure (List.forall_mem_singleton.2 hl)
  | cons x ss ih =>
    obtain ⟨hx, hss'⟩ := List.forall_mem_cons.1 hss
    rw [settle, settle]
    refine .ite (.bind (join_alike hh enough hx hl) fun r hr => ih _ hr hss') (.pure ?_)
    exact List.forall_mem_cons.2 ⟨hl, hss⟩

theorem joinAll_alike (n enough : Nat) {ss : List Stretch} (hss : ∀ s ∈ ss, s.Apart secret) :
    SameWith (fun es => ∀ e ∈ es, Item.Apart secret e) (joinAll h n enough ss)
      (joinAll h' n enough ss) := by
  have hflat : ∀ ss : List Stretch, (∀ s ∈ ss, s.Apart secret) →
      ∀ e ∈ (ss.reverse.map fun s => s.entries.toList).flatten, Item.Apart secret e := by
    intro ss hss e he
    simp only [List.mem_flatten, List.mem_map, List.mem_reverse] at he
    obtain ⟨l, ⟨s, hs, rfl⟩, he⟩ := he
    exact hss s hs e (by simpa using he)
  have htwo : ∀ enough (x y : Stretch), x.Apart secret → y.Apart secret →
      SameWith (fun es : List Entry => ∀ e ∈ es, Item.Apart secret e)
        (do return (← join h enough x y).2.entries.toList)
        (do return (← join h' enough x y).2.entries.toList) :=
    fun enough x y hx hy => .bind (join_alike hh enough hx hy) fun r hr =>
      .pure fun e he => hr e (by simpa using he)
  induction n generalizing enough ss with
  | zero =>
    rcases ss with _ | ⟨y, _ | ⟨x, _ | ⟨w, rest⟩⟩⟩
    · exact .pure (hflat _ hss)
    · exact .pure (hflat _ hss)
    · exact htwo enough x y (hss x (by simp)) (hss y (by simp))
    · exact .pure (hflat _ hss)
  | succ n ih =>
    rcases ss with _ | ⟨z, _ | ⟨y, _ | ⟨x, rest⟩⟩⟩
    · exact .pure (hflat _ hss)
    · exact .pure (hflat _ hss)
    · exact htwo enough y z (hss y (by simp)) (hss z (by simp))
    · obtain ⟨hz, hy, hx, hrest⟩ := by simpa [List.forall_mem_cons] using hss
      rw [joinAll, joinAll]
      refine .ite (.bind (join_alike hh enough hx hy) fun r hr => ih r.1 ?_)
        (.bind (join_alike hh enough hy hz) fun r hr => ih r.1 ?_)
      · simpa [List.forall_mem_cons] using ⟨hz, hr, hrest⟩
      · simpa [List.forall_mem_cons] using ⟨hr, hx, hrest⟩

theorem findAll_alike (size least n enough start : Nat) {ss : List Stretch} {es : List Entry}
    (hss : ∀ s ∈ ss, s.Apart secret) (hes : ∀ e ∈ es, Item.Apart secret e) :
    SameWith (fun es => ∀ e ∈ es, Item.Apart secret e) (findAll h size least n enough start ss es)
      (findAll h' size least n enough start ss es) := by
  induction n generalizing enough start ss es with
  | zero =>
    rw [findAll, findAll]
    · exact joinAll_alike hh _ _ hss
    · simp
    · simp
  | succ n ih =>
    cases es with
    | nil =>
      rw [findAll, findAll]
      · exact joinAll_alike hh _ _ hss
      · simp
      · simp
    | cons e es =>
      rw [findAll, findAll]
      refine .bind (stretch_alike hh least hes) fun r hr => ?_
      obtain ⟨found, rest⟩ := r
      obtain ⟨hfound, hrest⟩ := hr
      have hnew : Stretch.Apart secret { start, entries := found.toArray } :=
        fun d hd => hfound d (by simpa using hd)
      cases ss with
      | nil => exact ih _ _ (List.forall_mem_singleton.2 hnew) hrest
      | cons s before =>
        obtain ⟨hs, hbefore⟩ := List.forall_mem_cons.1 hss
        exact .bind (settle_alike hh _ _ hs hbefore) fun r hr =>
          ih _ _ (List.forall_mem_cons.2 ⟨hnew, hr⟩) hrest

theorem values_alike (reverse : Bool) {es : List Entry} (hes : ∀ e ∈ es, Item.Apart secret e) :
    SameWith (fun vs => ∀ v ∈ vs, v.Apart secret) (values h reverse es) (values h' reverse es) := by
  have hstart : ∀ e ∈ (if reverse then es.reverse else es), Item.Apart secret e := by
    intro e he
    split at he
    · exact hes e (List.mem_reverse.1 he)
    · exact hes e he
  refine .bind (findAll_alike hh _ _ _ _ _ (by simp) hstart) fun sorted hsorted => .pure fun v hv => ?_
  have hmem : v ∈ sorted.map Prod.snd := by
    split at hv
    · exact List.mem_reverse.1 hv
    · exact hv
  obtain ⟨e, he, rfl⟩ := List.mem_map.1 hmem
  exact (hsorted e he).2

end Sorting
end TemplateEngine.Script
