import TemplateEngine.Proofs.Confined.Run
import TemplateEngine.Proofs.Script.Running
import TemplateEngine.Script.Module

set_option autoImplicit false

/-!
# Values made of data

Making values of data is confined. The values lead only to what has been made for them, so that what
comes onto the heap later may be secret to them.
-/
namespace TemplateEngine.Script

open Run

variable {hidden : Reserved} {secret more : List Address}

def Labels.Apart (secret : List Address) (known : Labels) : Prop :=
  ∀ l v, known.find? l = some v → v.Apart secret

theorem Labels.apart_empty : Labels.Apart secret {} := nofun

theorem Labels.Apart.insert {known : Labels} (h : known.Apart secret) (l : Nat) {v : Value}
    (hv : v.Apart secret) : Labels.Apart secret (known.insert l v) := by
  intro l' w hw
  rw [Table.find?_insert] at hw
  split at hw
  · exact Option.some.inj hw ▸ hv
  · exact h l' w hw

namespace Value

theorem apart_asKey {v : Value} (h : v.Apart secret) : v.asKey.Apart secret := by
  unfold asKey
  split
  · trivial
  · exact h

theorem confined_become {v w : Value} (hv : v.Apart secret) (hw : w.Apart secret) :
    Confined hidden secret (fun _ => True) (v.become w) := by
  unfold become
  split
  · exact .bind (.look fun _ _ hh => hh.itemArray hw) fun _ hitems => .put hv (.list hitems)
  · exact .bind (.look fun _ _ hh => hh.dictionary hw) fun _ hd => .put hv (.dict hd)
  · exact .pure trivial

theorem confined_emptyOf (d : Data) :
    Confined hidden secret (Value.Apart secret) (Value.emptyOf d) := by
  unfold emptyOf
  split
  · exact .makeList (by simp)
  · exact .makeDict Dictionary.apart_empty
  · exact .pure trivial

mutual

theorem confined_ofDataWith (known : Labels) (d : Data) (hknown : known.Apart secret) :
    Confined hidden secret (fun r => r.1.Apart secret ∧ r.2.Apart secret) (ofDataWith known d) := by
  have hsettle : ∀ v : Value, v.Apart secret →
      Confined hidden secret (fun r => r.1.Apart secret ∧ r.2.Apart secret)
        (Run.settle v >>= fun v => Pure.pure (v, known)) :=
    fun v hv => .bind (.settle hv) fun _ hw => .pure ⟨hw, hknown⟩
  cases d with
  | null | bool b => exact .pure ⟨trivial, hknown⟩
  | int i | float f | text t | date d | moment m => exact hsettle _ trivial
  | list ds =>
    exact .bind (confined_ofAllDataWith known ds hknown) fun _ hr =>
      .bind (.makeList hr.1) fun _ hv => .pure ⟨hv, hr.2⟩
  | dict es =>
    exact .bind (confined_ofEntryDataWith known es hknown) fun _ hr =>
      .bind (.makeDict (Dictionary.apart_ofEntries hr.1)) fun _ hv => .pure ⟨hv, hr.2⟩
  | inside l b =>
    refine .pure ⟨?_, hknown⟩
    cases hl : known.find? l with
    | none => trivial
    | some v => exact hknown l v hl
  | shared l d =>
    rw [ofDataWith]
    split
    · next v hl => exact .pure ⟨hknown l v hl, hknown⟩
    · exact .bind (confined_emptyOf d) fun v hv =>
        .bind (confined_ofDataWith _ d (hknown.insert l hv)) fun _ hr =>
          .bind (confined_become hv hr.1) fun _ _ => .pure ⟨hv, hr.2⟩

theorem confined_ofAllDataWith (known : Labels) (ds : List Data) (hknown : known.Apart secret) :
    Confined hidden secret (fun r => (∀ v ∈ r.1, v.Apart secret) ∧ r.2.Apart secret)
      (ofAllDataWith known ds) := by
  cases ds with
  | nil => exact .pure ⟨by simp, hknown⟩
  | cons d ds =>
    exact .bind (confined_ofDataWith known d hknown) fun _ hr =>
      .bind (confined_ofAllDataWith _ ds hr.2) fun _ hq =>
        .pure ⟨List.forall_mem_cons.2 ⟨hr.1, hq.1⟩, hq.2⟩

theorem confined_ofEntryDataWith (known : Labels) (es : List (Data × Data))
    (hknown : known.Apart secret) :
    Confined hidden secret (fun r => (∀ e ∈ r.1, Item.Apart secret e) ∧ r.2.Apart secret)
      (ofEntryDataWith known es) := by
  cases es with
  | nil => exact .pure ⟨by simp, hknown⟩
  | cons e es =>
    obtain ⟨k, d⟩ := e
    exact .bind (confined_ofDataWith known k hknown) fun _ hk =>
      .bind (confined_ofDataWith _ d hk.2) fun _ hr =>
        .bind (confined_ofEntryDataWith _ es hr.2) fun _ hq =>
          .pure ⟨List.forall_mem_cons.2 ⟨⟨apart_asKey hk.1, hr.1⟩, hq.1⟩, hq.2⟩

end

theorem confined_ofAllData (ds : List Data) :
    Confined hidden secret (fun vs => ∀ v ∈ vs, v.Apart secret) (ofAllData ds) :=
  .bind (confined_ofAllDataWith {} ds Labels.apart_empty) fun _ hr => .pure hr.1

end Value

def Behind (n : Nat) (more : List Address) : Prop := ∀ a ∈ more, n ≤ a

theorem Behind.of_le {m n : Nat} (h : Behind n more) (hmn : m ≤ n) : Behind m more :=
  fun a ha => Nat.le_trans hmn (h a ha)

def Object.Apart (secret : List Address) : Object → Prop
  | .list items => ∀ v ∈ items, v.Apart secret
  | .dict d => d.Apart secret
  | .iterator c => c.Apart secret
  | .function c => ∀ p ∈ c.parameters, ∀ v, p.default? = some v → v.Apart secret
  | .scope c => ∀ n v, c.bindings.find? n = some (some v) → v.Apart secret

/-- Nothing in the state leads behind the end of its heap. -/
structure State.Bounded (s : State) : Prop where
  objects : ∀ (a : Address) (o : Object) more, s.heap.objects[a]? = some o →
    Behind s.heap.objects.size more → o.Apart more
  globals : ∀ n v more, s.globals.find? n = some v → Behind s.heap.objects.size more → v.Apart more

/-- From bounded states with `n` objects or more, the run goes to ones with as many at least, and what it
yields has a property then. -/
def Run.Stays {α : Type} (n : Nat) (P : Nat → α → Prop) (x : Run α) : Prop :=
  ∀ s, n ≤ s.heap.objects.size → s.Bounded → ∀ a t, x s = .done a t →
    n ≤ t.heap.objects.size ∧ t.Bounded ∧ P t.heap.objects.size a

def Value.Within (n : Nat) (v : Value) : Prop := ∀ more, Behind n more → v.Apart more

theorem Value.Within.of_le {v : Value} {m n : Nat} (h : v.Within m) (hmn : m ≤ n) : v.Within n :=
  fun more hmore => h more (hmore.of_le hmn)

theorem State.Bounded.withUnused {s : State} (h : s.Bounded) (u : Nat) :
    State.Bounded { s with heap := { s.heap with unused := u } } := ⟨h.objects, h.globals⟩

theorem State.Bounded.push {s : State} (h : s.Bounded) {o : Object}
    (ho : ∀ more, Behind (s.heap.objects.size + 1) more → o.Apart more) :
    State.Bounded { s with heap := { s.heap with objects := s.heap.objects.push o } } where
  objects a p more ha hmore := by
    simp only [Array.size_push, Array.getElem?_push] at ha hmore
    split at ha
    · exact Option.some.inj ha ▸ ho more hmore
    · exact h.objects a p more ha (hmore.of_le (Nat.le_succ _))
  globals n v more hv hmore := by
    simp only [Array.size_push] at hmore
    exact h.globals n v more hv (hmore.of_le (Nat.le_succ _))

namespace Run.Stays

variable {α β : Type} {n : Nat} {P : Nat → α → Prop} {Q : Nat → β → Prop}

theorem pure {a : α} (ha : ∀ m, n ≤ m → P m a) : Stays n P (Pure.pure a : Run α) := by
  intro s hn hs a t h
  obtain ⟨rfl, rfl⟩ := Outcome.done.inj h
  exact ⟨hn, hs, ha _ hn⟩

theorem bind {x : Run α} {f : α → Run β} (hx : Stays n P x)
    (hf : ∀ m a, n ≤ m → P m a → Stays m Q (f a)) : Stays n Q (x >>= f) := by
  intro s hn hs b u h
  obtain ⟨a, t, hxs, hft⟩ := Run.bind_eq_done h
  obtain ⟨hnt, ht, hP⟩ := hx s hn hs a t hxs
  obtain ⟨hu, hbounded, hQ⟩ := hf _ a hnt hP t (Nat.le_refl _) ht b u hft
  exact ⟨Nat.le_trans hnt hu, hbounded, hQ⟩

theorem settle {v : Value} (hv : v.Within n) : Stays n Value.Within (Run.settle v) := by
  intro s hn hs w t h
  unfold Run.settle at h
  split at h
  · obtain ⟨rfl, rfl⟩ := Outcome.done.inj h
    exact ⟨hn, hs, hv.of_le hn⟩
  · obtain ⟨rfl, rfl⟩ := Outcome.done.inj h
    exact ⟨hn, hs.withUnused _, fun more hmore =>
      Value.apart_settle (hv more (hmore.of_le hn)) _⟩

theorem settleAll {vs : List Value} (hvs : ∀ v ∈ vs, v.Within n) :
    Stays n (fun m ws => ∀ v ∈ ws, v.Within m) (Run.settleAll vs) := by
  intro s hn hs ws t h
  unfold Run.settleAll at h
  split at h
  · obtain ⟨rfl, rfl⟩ := Outcome.done.inj h
    exact ⟨hn, hs, fun v hv => (hvs v hv).of_le hn⟩
  · obtain ⟨rfl, rfl⟩ := Outcome.done.inj h
    exact ⟨hn, hs.withUnused _, fun v hv more hmore =>
      Value.apart_settleAll (fun w hw => hvs w hw more (hmore.of_le hn)) (by simp) _ v hv⟩

theorem make {o : Object} (ho : ∀ more, Behind n more → o.Apart more) :
    Stays n (fun m a => a < m) (Run.make o) := by
  intro s hn hs a t h
  obtain ⟨rfl, rfl⟩ := Outcome.done.inj h
  refine ⟨?_, hs.push fun more hmore => ho more (hmore.of_le (Nat.le_succ_of_le hn)), ?_⟩
  · simpa using Nat.le_succ_of_le hn
  · simp

theorem put (a : Address) {o : Object} (ho : ∀ more, Behind n more → o.Apart more) :
    Stays n (fun _ _ => True) (Run.put a o) := by
  intro s hn hs u t h
  obtain ⟨rfl, rfl⟩ := Outcome.done.inj h
  refine ⟨by simpa using hn, ⟨fun b p more hp hmore => ?_, fun x v more hv hmore => ?_⟩, trivial⟩
  · simp only [Array.size_setIfInBounds, Array.getElem?_setIfInBounds] at hp hmore
    split at hp
    · split at hp
      · exact Option.some.inj hp ▸ ho more (hmore.of_le hn)
      · contradiction
    · exact hs.objects b p more hp hmore
  · exact hs.globals x v more hv (by simpa using hmore)

theorem makeList {vs : List Value} (hvs : ∀ v ∈ vs, v.Within n) :
    Stays n Value.Within (Run.makeList vs) :=
  .bind (.settleAll hvs) fun m ws _ hws =>
    .bind (.make fun more hmore v hv => hws v (by simpa using hv) more hmore) fun _ a _ ha =>
      .pure fun _ hk _ hmore hmem => Nat.not_lt_of_le (hmore a hmem) (Nat.lt_of_lt_of_le ha hk)

theorem makeDict {d : Dictionary} (hd : ∀ more, Behind n more → d.Apart more) :
    Stays n Value.Within (Run.makeDict d) :=
  .bind (.make hd) fun _ a _ ha =>
    .pure fun _ hk _ hmore hmem => Nat.not_lt_of_le (hmore a hmem) (Nat.lt_of_lt_of_le ha hk)

theorem itemArray (a : Address) :
    Stays n (fun m items => ∀ v ∈ items, v.Within m) (Run.look (·.itemArray a)) := by
  intro s hn hs items t h
  obtain ⟨rfl, rfl⟩ := Outcome.done.inj h
  refine ⟨hn, hs, fun v hv more hmore => ?_⟩
  change v ∈ s.heap.itemArray a at hv
  unfold Heap.itemArray at hv
  split at hv
  · next ho => exact hs.objects a _ more ho hmore v hv
  · simp at hv

theorem dictionary (a : Address) :
    Stays n (fun m d => ∀ more, Behind m more → d.Apart more) (Run.look (·.dictionary a)) := by
  intro s hn hs d t h
  obtain ⟨rfl, rfl⟩ := Outcome.done.inj h
  refine ⟨hn, hs, fun more hmore => ?_⟩
  change (s.heap.dictionary a).Apart more
  unfold Heap.dictionary
  split
  · next ho => exact hs.objects a _ more ho hmore
  · exact Dictionary.apart_empty

end Run.Stays

namespace Value

variable {n : Nat}

theorem within_of_apart {v : Value} (h : ∀ more, v.Apart more) : v.Within n := fun more _ => h more

def LabelsWithin (n : Nat) (known : Labels) : Prop := ∀ more, Behind n more → known.Apart more

theorem LabelsWithin.of_le {known : Labels} {m : Nat} (h : LabelsWithin m known) (hmn : m ≤ n) :
    LabelsWithin n known := fun more hmore => h more (hmore.of_le hmn)

theorem stays_become (v w : Value) : Run.Stays n (fun _ _ => True) (v.become w) := by
  unfold become
  split
  · exact .bind (.itemArray _) fun _ _ _ hitems => .put _ fun more hmore x hx => hitems x hx more hmore
  · exact .bind (.dictionary _) fun _ _ _ hd => .put _ hd
  · exact .pure fun _ _ => trivial

theorem stays_emptyOf (d : Data) : Run.Stays n Within (Value.emptyOf d) := by
  unfold emptyOf
  split
  · exact .makeList (by simp)
  · exact .makeDict fun _ _ => Dictionary.apart_empty
  · exact .pure fun _ _ => within_of_apart fun _ => trivial

mutual

theorem stays_ofDataWith {n : Nat} (known : Labels) (d : Data) (hknown : LabelsWithin n known) :
    Run.Stays n (fun m r => r.1.Within m ∧ LabelsWithin m r.2) (ofDataWith known d) := by
  have hsettle : ∀ v : Value, (∀ more, v.Apart more) →
      Run.Stays n (fun m r => r.1.Within m ∧ LabelsWithin m r.2)
        (Run.settle v >>= fun v => Pure.pure (v, known)) :=
    fun v hv => .bind (.settle (within_of_apart hv)) fun _ _ hm hw =>
      .pure fun _ hk => ⟨hw.of_le hk, hknown.of_le (Nat.le_trans hm hk)⟩
  cases d with
  | null | bool b => exact .pure fun _ hm => ⟨within_of_apart fun _ => trivial, hknown.of_le hm⟩
  | int i | float f | text t | date d | moment m => exact hsettle _ fun _ => trivial
  | list ds =>
    exact .bind (stays_ofAllDataWith known ds hknown) fun _ _ _ hr =>
      .bind (.makeList hr.1) fun _ _ hm hv => .pure fun _ hk =>
        ⟨hv.of_le hk, hr.2.of_le (Nat.le_trans hm hk)⟩
  | dict es =>
    exact .bind (stays_ofEntryDataWith known es hknown) fun _ _ _ hr =>
      .bind (.makeDict fun more hmore => Dictionary.apart_ofEntries fun e he => hr.1 e he more hmore)
        fun _ _ hm hv => .pure fun _ hk => ⟨hv.of_le hk, hr.2.of_le (Nat.le_trans hm hk)⟩
  | inside l b =>
    refine .pure fun m hm => ⟨fun more hmore => ?_, hknown.of_le hm⟩
    cases hl : known.find? l with
    | none => trivial
    | some v => exact hknown more (hmore.of_le hm) l v hl
  | shared l d =>
    rw [ofDataWith]
    split
    · next v hl => exact .pure fun _ hm =>
        ⟨fun more hmore => hknown more (hmore.of_le hm) l v hl, hknown.of_le hm⟩
    · exact .bind (stays_emptyOf d) fun _ v hm hv =>
        .bind (stays_ofDataWith _ d fun more hmore =>
            (hknown more (hmore.of_le hm)).insert l (hv more hmore)) fun _ _ hk hr =>
          .bind (stays_become v _) fun _ _ hj _ => .pure fun _ hi =>
            ⟨hv.of_le (Nat.le_trans hk (Nat.le_trans hj hi)), hr.2.of_le (Nat.le_trans hj hi)⟩

theorem stays_ofAllDataWith {n : Nat} (known : Labels) (ds : List Data) (hknown : LabelsWithin n known) :
    Run.Stays n (fun m r => (∀ v ∈ r.1, v.Within m) ∧ LabelsWithin m r.2)
      (ofAllDataWith known ds) := by
  cases ds with
  | nil => exact .pure fun _ hm => ⟨by simp, hknown.of_le hm⟩
  | cons d ds =>
    exact .bind (stays_ofDataWith known d hknown) fun _ _ _ hr =>
      .bind (stays_ofAllDataWith _ ds hr.2) fun _ _ hm hq => .pure fun _ hk =>
        ⟨List.forall_mem_cons.2 ⟨hr.1.of_le (Nat.le_trans hm hk), fun v hv => (hq.1 v hv).of_le hk⟩,
          hq.2.of_le hk⟩

theorem stays_ofEntryDataWith {n : Nat} (known : Labels) (es : List (Data × Data))
    (hknown : LabelsWithin n known) :
    Run.Stays n (fun m r => (∀ e ∈ r.1, ∀ more, Behind m more → Item.Apart more e) ∧
      LabelsWithin m r.2) (ofEntryDataWith known es) := by
  cases es with
  | nil => exact .pure fun _ hm => ⟨by simp, hknown.of_le hm⟩
  | cons e es =>
    obtain ⟨k, d⟩ := e
    refine .bind (stays_ofDataWith known k hknown) fun _ _ _ hk =>
      .bind (stays_ofDataWith _ d hk.2) fun _ _ hm hr =>
        .bind (stays_ofEntryDataWith _ es hr.2) fun _ _ hj hq => .pure fun _ hi =>
          ⟨List.forall_mem_cons.2 ⟨fun more hmore => ⟨apart_asKey ?_, ?_⟩, fun e he more hmore => ?_⟩,
            hq.2.of_le hi⟩
    · exact hk.1 more (hmore.of_le (Nat.le_trans hm (Nat.le_trans hj hi)))
    · exact hr.1 more (hmore.of_le (Nat.le_trans hj hi))
    · exact hq.1 e he more (hmore.of_le hi)

end

theorem stays_ofAllData (ds : List Data) :
    Run.Stays n (fun m vs => ∀ v ∈ vs, v.Within m) (ofAllData ds) :=
  .bind (stays_ofAllDataWith {} ds fun _ _ => Labels.apart_empty) fun _ _ _ hr =>
    .pure fun _ hm v hv => (hr.1 v hv).of_le hm

end Value
end TemplateEngine.Script
