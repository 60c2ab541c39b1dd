import TemplateEngine.Script.Module

set_option autoImplicit false

/-!
# Runs that only add objects

Data always become values. What they need on the heap is added to it, and nothing that was there
before changes.
-/
namespace TemplateEngine.Script

/-- The state `t` has what `s` has, and the first `b` objects of `s` as they were. -/
structure State.Grown (b : Nat) (s t : State) : Prop where
  globals : t.globals = s.globals
  handled : t.handled = s.handled
  printed : t.printed = s.printed
  depth : t.heap.depth = s.heap.depth
  size : s.heap.objects.size ≤ t.heap.objects.size
  kept : ∀ i < b, t.heap.object? i = s.heap.object? i

namespace State.Grown

variable {b : Nat} {s t u : State}

theorem refl (b : Nat) (s : State) : Grown b s s := ⟨rfl, rfl, rfl, rfl, Nat.le_refl _, fun _ _ => rfl⟩

theorem trans (h : Grown b s t) (k : Grown b t u) : Grown b s u where
  globals := k.globals.trans h.globals
  handled := k.handled.trans h.handled
  printed := k.printed.trans h.printed
  depth := k.depth.trans h.depth
  size := Nat.le_trans h.size k.size
  kept i hi := (k.kept i hi).trans (h.kept i hi)

end State.Grown

/-- From every state with at least `b` objects the run ends with a value, and adds objects only. -/
def Run.Adds {α : Type} (b : Nat) (x : Run α) : Prop :=
  ∀ s : State, b ≤ s.heap.objects.size → ∃ a t, x s = .done a t ∧ State.Grown b s t

namespace Run.Adds

variable {α β : Type} {b : Nat}

theorem pure (a : α) : Adds b (Pure.pure a : Run α) := fun s _ => ⟨a, s, rfl, .refl b s⟩

theorem bind {x : Run α} {f : α → Run β} (h : Adds b x) (k : ∀ a, Adds b (f a)) :
    Adds b (x >>= f) := by
  intro s hs
  obtain ⟨a, t, hx, ht⟩ := h s hs
  obtain ⟨c, u, hf, hu⟩ := k a t (Nat.le_trans hs ht.size)
  refine ⟨c, u, ?_, ht.trans hu⟩
  change Run.bind x f s = _
  simp only [Run.bind, hx, hf]

theorem settle (v : Value) : Adds b (Run.settle v) := by
  intro s _
  unfold Run.settle
  split
  · exact ⟨v, s, rfl, .refl b s⟩
  · exact ⟨_, _, rfl, rfl, rfl, rfl, rfl, Nat.le_refl _, fun _ _ => rfl⟩

theorem settleAll (vs : List Value) : Adds b (Run.settleAll vs) := by
  intro s _
  unfold Run.settleAll
  split
  · exact ⟨vs, s, rfl, .refl b s⟩
  · exact ⟨_, _, rfl, rfl, rfl, rfl, rfl, Nat.le_refl _, fun _ _ => rfl⟩

theorem make (o : Object) : Adds b (Run.make o) := by
  intro s hs
  refine ⟨s.heap.objects.size, _, rfl, rfl, rfl, rfl, rfl, by simp, fun i hi => ?_⟩
  have : i < s.heap.objects.size := by omega
  simp [Heap.object?, Array.getElem?_push_lt, this]

theorem makeList (items : List Value) : Adds b (Run.makeList items) :=
  .bind (.settleAll items) fun _ => .bind (.make _) fun _ => .pure _

theorem makeDict (d : Dictionary) : Adds b (Run.makeDict d) :=
  .bind (.make _) fun _ => .pure _

theorem look (f : Heap → α) : Adds b (Run.look f) := fun s _ => ⟨f s.heap, s, rfl, .refl b s⟩

theorem put {a : Address} (h : b ≤ a) (o : Object) : Adds b (Run.put a o) := by
  intro s _
  refine ⟨(), _, rfl, rfl, rfl, rfl, rfl, by simp, fun i hi => ?_⟩
  have : a ≠ i := Nat.ne_of_gt (Nat.lt_of_lt_of_le hi h)
  simp [Heap.object?, this]

end Run.Adds

def Value.Above (b : Nat) : Value → Prop
  | .list a | .dict a => b ≤ a
  | _ => True

theorem adds_become {b : Nat} {v : Value} (h : v.Above b) (w : Value) :
    Run.Adds b (v.become w) := by
  unfold Value.become
  split
  · exact .bind (.look _) fun _ => .put h _
  · exact .bind (.look _) fun _ => .put h _
  · exact .pure _

theorem adds_emptyOf (b : Nat) (d : Data) (s : State) (h : b ≤ s.heap.objects.size) :
    ∃ v t, Value.emptyOf d s = .done v t ∧ State.Grown b s t ∧ v.Above b := by
  have hnone : Value.emptyOf .null s = .done .none s := rfl
  cases d with
  | list ds =>
    obtain ⟨v, t, hv, ht⟩ := Run.Adds.makeList (b := b) [] s h
    refine ⟨v, t, hv, ht, ?_⟩
    obtain rfl : v = .list s.heap.objects.size := by
      have : Run.makeList [] s = .done (.list s.heap.objects.size) _ := rfl
      rw [this] at hv
      exact (Outcome.done.inj hv).1.symm
    exact h
  | dict es =>
    obtain ⟨v, t, hv, ht⟩ := Run.Adds.makeDict (b := b) {} s h
    refine ⟨v, t, hv, ht, ?_⟩
    obtain rfl : v = .dict s.heap.objects.size := by
      have : Run.makeDict {} s = .done (.dict s.heap.objects.size) _ := rfl
      rw [this] at hv
      exact (Outcome.done.inj hv).1.symm
    exact h
  | null | bool _ | int _ | float _ | text _ | date _ | moment _ | shared _ _ | inside _ _ =>
    exact ⟨.none, s, rfl, .refl b s, trivial⟩

mutual

theorem adds_ofDataWith (b : Nat) (known : Labels) : (d : Data) →
    Run.Adds b (Value.ofDataWith known d)
  | .null => .pure _
  | .bool _ => .pure _
  | .int _ => .bind (.settle _) fun _ => .pure _
  | .float _ => .bind (.settle _) fun _ => .pure _
  | .text _ => .bind (.settle _) fun _ => .pure _
  | .date _ => .bind (.settle _) fun _ => .pure _
  | .moment _ => .bind (.settle _) fun _ => .pure _
  | .list ds => .bind (adds_ofAllDataWith b known ds) fun _ => .bind (.makeList _) fun _ => .pure _
  | .dict es => .bind (adds_ofEntryDataWith b known es) fun _ => .bind (.makeDict _) fun _ => .pure _
  | .inside _ _ => .pure _
  | .shared l d => by
    rw [Value.ofDataWith]
    split
    · exact .pure _
    · intro s hs
      obtain ⟨v, t, hv, ht, habove⟩ := adds_emptyOf b d s hs
      have hrest : Run.Adds b (do
          let (w, known) ← Value.ofDataWith (known.insert l v) d
          v.become w
          return (v, known)) :=
        .bind (adds_ofDataWith b _ d) fun _ => .bind (adds_become habove _) fun _ => .pure _
      obtain ⟨r, u, hr, hu⟩ := hrest t (Nat.le_trans hs ht.size)
      refine ⟨r, u, ?_, ht.trans hu⟩
      change Run.bind (Value.emptyOf d) _ s = _
      simp only [Run.bind, hv]
      exact hr

theorem adds_ofAllDataWith (b : Nat) (known : Labels) : (ds : List Data) →
    Run.Adds b (Value.ofAllDataWith known ds)
  | [] => .pure _
  | d :: ds => .bind (adds_ofDataWith b known d) fun r =>
    .bind (adds_ofAllDataWith b r.2 ds) fun _ => .pure _

theorem adds_ofEntryDataWith (b : Nat) (known : Labels) : (es : List (Data × Data)) →
    Run.Adds b (Value.ofEntryDataWith known es)
  | [] => .pure _
  | (k, d) :: es => .bind (adds_ofDataWith b known k) fun r =>
    .bind (adds_ofDataWith b r.2 d) fun q =>
      .bind (adds_ofEntryDataWith b q.2 es) fun _ => .pure _

end

end TemplateEngine.Script
