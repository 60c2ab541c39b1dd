import TemplateEngine.Proofs.Confined.Value

set_option autoImplicit false

/-!
# Runs that do not get at secret objects

Some objects are secret, and so are the variables with hidden names. A run is confined if it goes the
same way whatever the secrets are, and leaves them as they are. The scopes of running functions may be
among the secret objects; then only their hidden variables are secret. Confined runs are closed under
sequencing, where the values that one hands over to the next lead to no secret.
-/
namespace TemplateEngine.Script

variable {α β : Type} {hidden : Reserved} {secret : List Address}

structure Heap.Alike (hidden : Reserved) (secret : List Address) (h h' : Heap) : Prop where
  size : h'.objects.size = h.objects.size
  unused : h'.unused = h.unused
  depth : h'.depth = h.depth
  known : ∀ a ∈ secret, a < h.objects.size
  objects : ∀ a o, a ∉ secret → h.objects[a]? = some o →
    ∃ o', h'.objects[a]? = some o' ∧ o.Alike hidden secret o'
  scopes : ∀ a ∈ secret, Option.Rel (Scope.Alike hidden secret) (h.scope? a) (h'.scope? a)

inductive Object.Keeps (hidden : Reserved) : Object → Object → Prop
  | same (o : Object) : Keeps hidden o o
  | scope {s t : Scope} (outer : t.outer = s.outer)
      (bindings : ∀ n ∈ hidden.kept, t.bindings.find? n = s.bindings.find? n) :
      Keeps hidden (.scope s) (.scope t)

structure Heap.Keeps (hidden : Reserved) (secret : List Address) (h g : Heap) : Prop where
  depth : g.depth = h.depth
  objects : ∀ a ∈ secret, ∀ o, h.objects[a]? = some o →
    ∃ o', g.objects[a]? = some o' ∧ o.Keeps hidden o'

theorem Object.Keeps.trans {o p q : Object} (h : o.Keeps hidden p) (h' : p.Keeps hidden q) :
    o.Keeps hidden q := by
  cases h with
  | same => exact h'
  | scope outer bindings =>
    cases h' with
    | same => exact .scope outer bindings
    | scope outer' bindings' =>
      exact .scope (outer'.trans outer) fun n hn => (bindings' n hn).trans (bindings n hn)

namespace Heap.Keeps

variable {g h k : Heap}

theorem refl (h : Heap) : h.Keeps hidden secret h := ⟨rfl, fun _ _ o ho => ⟨o, ho, .same o⟩⟩

theorem trans (hg : h.Keeps hidden secret g) (hk : g.Keeps hidden secret k) :
    h.Keeps hidden secret k where
  depth := hk.depth.trans hg.depth
  objects a ha o ho := by
    obtain ⟨p, hp, hop⟩ := hg.objects a ha o ho
    obtain ⟨q, hq, hpq⟩ := hk.objects a ha p hp
    exact ⟨q, hq, hop.trans hpq⟩

theorem of_objects (hdepth : g.depth = h.depth)
    (hobjects : ∀ a ∈ secret, g.objects[a]? = h.objects[a]?) : h.Keeps hidden secret g :=
  ⟨hdepth, fun a ha o ho => ⟨o, (hobjects a ha).trans ho, .same o⟩⟩

end Heap.Keeps

namespace Heap

theorem scope?_eq_some {h : Heap} {a : Address} {s : Scope} :
    h.scope? a = some s ↔ h.objects[a]? = some (.scope s) := by
  unfold Heap.scope? Heap.object?
  split
  · next t ht => simp [ht]
  · next hno => exact ⟨nofun, fun hs => absurd hs (hno s)⟩

namespace Alike

variable {h h' : Heap} {a : Address}

theorem object_cases (hh : h.Alike hidden secret h') (ha : a ∉ secret) :
    h.objects[a]? = none ∧ h'.objects[a]? = none ∨
      ∃ o o', h.objects[a]? = some o ∧ h'.objects[a]? = some o' ∧ o.Alike hidden secret o' := by
  cases ho : h.objects[a]? with
  | none =>
    refine .inl ⟨rfl, ?_⟩
    rw [Array.getElem?_eq_none_iff] at ho ⊢
    rwa [hh.size]
  | some o =>
    obtain ⟨o', ho', halike⟩ := hh.objects a o ha ho
    exact .inr ⟨o, o', rfl, ho', halike⟩

theorem itemArray (hh : h.Alike hidden secret h') (ha : a ∉ secret) :
    h'.itemArray a = h.itemArray a ∧ ∀ v ∈ h.itemArray a, v.Apart secret := by
  unfold Heap.itemArray Heap.object?
  obtain ⟨ho, ho'⟩ | ⟨o, o', ho, ho', halike⟩ := hh.object_cases ha
  · simp [ho, ho']
  · rw [ho, ho']
    cases halike with
    | list h => exact ⟨rfl, h⟩
    | _ => simp

theorem items (hh : h.Alike hidden secret h') (ha : a ∉ secret) :
    h'.items a = h.items a ∧ ∀ v ∈ h.items a, v.Apart secret := by
  obtain ⟨heq, hapart⟩ := hh.itemArray ha
  exact ⟨by rw [Heap.items, Heap.items, heq], fun v hv => hapart v (by simpa [Heap.items] using hv)⟩

theorem dictionary (hh : h.Alike hidden secret h') (ha : a ∉ secret) :
    h'.dictionary a = h.dictionary a ∧ (h.dictionary a).Apart secret := by
  unfold Heap.dictionary Heap.object?
  obtain ⟨ho, ho'⟩ | ⟨o, o', ho, ho', halike⟩ := hh.object_cases ha
  · rw [ho, ho']
    exact ⟨rfl, Dictionary.apart_empty⟩
  · rw [ho, ho']
    cases halike with
    | dict h => exact ⟨rfl, h⟩
    | _ => exact ⟨rfl, Dictionary.apart_empty⟩

theorem entries (hh : h.Alike hidden secret h') (ha : a ∉ secret) :
    h'.entries a = h.entries a ∧ ∀ e ∈ h.entries a, Item.Apart secret e := by
  obtain ⟨heq, hapart⟩ := hh.dictionary ha
  exact ⟨by rw [Heap.entries, Heap.entries, heq], hapart.entries⟩

theorem cursor (hh : h.Alike hidden secret h') (ha : a ∉ secret) :
    h'.cursor a = h.cursor a ∧ (h.cursor a).Apart secret := by
  unfold Heap.cursor Heap.object?
  obtain ⟨ho, ho'⟩ | ⟨o, o', ho, ho', halike⟩ := hh.object_cases ha
  · rw [ho, ho']
    exact ⟨rfl, trivial⟩
  · rw [ho, ho']
    cases halike with
    | iterator h => exact ⟨rfl, h⟩
    | _ => exact ⟨rfl, trivial⟩

theorem closure? (hh : h.Alike hidden secret h') (ha : a ∉ secret) :
    h'.closure? a = h.closure? a ∧ ∀ c, h.closure? a = some c → c.Apart hidden secret := by
  unfold Heap.closure? Heap.object?
  obtain ⟨ho, ho'⟩ | ⟨o, o', ho, ho', halike⟩ := hh.object_cases ha
  · simp [ho, ho']
  · rw [ho, ho']
    cases halike with
    | function h => exact ⟨rfl, fun c hc => Option.some.inj hc ▸ h⟩
    | _ => simp

theorem scope? (hh : h.Alike hidden secret h') (a : Address) :
    Option.Rel (Scope.Alike hidden secret) (h.scope? a) (h'.scope? a) := by
  by_cases ha : a ∈ secret
  · exact hh.scopes a ha
  · unfold Heap.scope? Heap.object?
    obtain ⟨ho, ho'⟩ | ⟨o, o', ho, ho', halike⟩ := hh.object_cases ha
    · rw [ho, ho']
      exact .none
    · rw [ho, ho']
      cases halike with
      | scope h => exact .some h
      | _ => exact .none

theorem room (hh : h.Alike hidden secret h') : h'.room = h.room := by
  rw [Heap.room, Heap.room, hh.depth]

theorem withUnused (hh : h.Alike hidden secret h') (n : Nat) :
    Alike hidden secret { h with unused := n } { h' with unused := n } :=
  ⟨hh.size, rfl, hh.depth, hh.known, hh.objects, hh.scopes⟩

theorem withDepth (hh : h.Alike hidden secret h') (n : Nat) :
    Alike hidden secret { h with depth := n } { h' with depth := n } :=
  ⟨hh.size, hh.unused, rfl, hh.known, hh.objects, hh.scopes⟩

theorem size_not_mem (hh : h.Alike hidden secret h') : h.objects.size ∉ secret :=
  fun hs => Nat.lt_irrefl _ (hh.known _ hs)

theorem push (hh : h.Alike hidden secret h') {o : Object} (ho : o.Alike hidden secret o) :
    Alike hidden secret { h with objects := h.objects.push o }
      { h' with objects := h'.objects.push o } where
  size := by simp [hh.size]
  unused := hh.unused
  depth := hh.depth
  known a ha := by
    rw [Array.size_push]
    exact Nat.lt_succ_of_lt (hh.known a ha)
  objects a p ha hp := by
    simp only [Array.getElem?_push, hh.size] at hp ⊢
    split at hp
    · next hlast =>
      obtain rfl := Option.some.inj hp
      exact ⟨o, if_pos hlast, ho⟩
    · next hlast =>
      rw [if_neg hlast]
      exact hh.objects a p ha hp
  scopes a ha := by
    have hne : a ≠ h.objects.size := Nat.ne_of_lt (hh.known a ha)
    have hscopes := hh.scopes a ha
    unfold Heap.scope? Heap.object? at hscopes ⊢
    simpa [Array.getElem?_push, hh.size, hne] using hscopes

/-- The object at an open address is changed. -/
theorem modify (hh : h.Alike hidden secret h') (ha : a ∉ secret) {f : Object → Object}
    (hf : ∀ o o', o.Alike hidden secret o' → (f o).Alike hidden secret (f o')) :
    Alike hidden secret { h with objects := h.objects.modify a f }
      { h' with objects := h'.objects.modify a f } where
  size := by simp [hh.size]
  unused := hh.unused
  depth := hh.depth
  known b hb := by simpa using hh.known b hb
  objects b p hb hp := by
    simp only [Array.getElem?_modify] at hp ⊢
    split at hp
    · next hab =>
      obtain ⟨o, ho, rfl⟩ := Option.map_eq_some_iff.1 hp
      obtain ⟨o', ho', halike⟩ := hh.objects b o hb ho
      exact ⟨f o', by simp [hab, ho'], hf o o' halike⟩
    · next hab =>
      obtain ⟨o', ho', halike⟩ := hh.objects b p hb hp
      exact ⟨o', by simp [hab, ho'], halike⟩
  scopes b hb := by
    have hne : a ≠ b := fun hab => ha (hab ▸ hb)
    have hscopes := hh.scopes b hb
    unfold Heap.scope? Heap.object? at hscopes ⊢
    simpa [Array.getElem?_modify, hne] using hscopes

theorem set_eq_modify (objects : Array Object) (a : Address) (o : Object) :
    objects.setIfInBounds a o = objects.modify a fun _ => o := by
  apply Array.ext_getElem?
  intro i
  rw [Array.getElem?_setIfInBounds, Array.getElem?_modify]
  by_cases hi : a = i
  · subst hi
    by_cases ha : a < objects.size
    · simp [ha]
    · simp [ha]
  · simp [hi]

theorem set (hh : h.Alike hidden secret h') (ha : a ∉ secret) {o : Object}
    (ho : o.Alike hidden secret o) :
    Alike hidden secret { h with objects := h.objects.setIfInBounds a o }
      { h' with objects := h'.objects.setIfInBounds a o } := by
  rw [set_eq_modify, set_eq_modify]
  exact hh.modify ha fun _ _ _ => ho

theorem setScope (hh : h.Alike hidden secret h') {t t' : Scope} (ht : t.Alike hidden secret t') :
    Alike hidden secret { h with objects := h.objects.setIfInBounds a (.scope t) }
      { h' with objects := h'.objects.setIfInBounds a (.scope t') } where
  size := by simp [hh.size]
  unused := hh.unused
  depth := hh.depth
  known b hb := by simpa using hh.known b hb
  objects b p hb hp := by
    simp only [Array.getElem?_setIfInBounds, hh.size] at hp ⊢
    split at hp
    · split at hp
      · next hab hlt =>
        obtain rfl := Option.some.inj hp
        exact ⟨.scope t', by rw [if_pos hab, if_pos hlt], .scope ht⟩
      · contradiction
    · next hab =>
      rw [if_neg hab]
      exact hh.objects b p hb hp
  scopes b hb := by
    by_cases hab : a = b
    · subst hab
      have hlt : a < h.objects.size := hh.known a hb
      unfold Heap.scope? Heap.object?
      simp only [Array.getElem?_setIfInBounds, hh.size, hlt, if_true]
      exact .some ht
    · have hscopes := hh.scopes b hb
      unfold Heap.scope? Heap.object? at hscopes ⊢
      simpa [Array.getElem?_setIfInBounds, hab] using hscopes

end Alike
end Heap

/-- The states are the same but for secrets, and their open variables lead to no secret. -/
structure State.Matches (hidden : Reserved) (secret : List Address) (s t : State) : Prop where
  heap : s.heap.Alike hidden secret t.heap
  handled : t.handled = s.handled
  printed : t.printed = s.printed
  globals : ∀ n, n ∉ hidden.unread → t.globals.find? n = s.globals.find? n
  apart : ∀ n v, n ∉ hidden.unread → s.globals.find? n = some v → v.Apart secret

structure State.Keeps (hidden : Reserved) (secret : List Address) (s t : State) : Prop where
  heap : s.heap.Keeps hidden secret t.heap
  handled : t.handled = s.handled
  globals : t.globals = s.globals

namespace State

variable {s t u s' t' : State}

theorem Keeps.refl (s : State) : s.Keeps hidden secret s := ⟨.refl _, rfl, rfl⟩

theorem Keeps.trans (h : s.Keeps hidden secret t) (h' : t.Keeps hidden secret u) :
    s.Keeps hidden secret u :=
  ⟨h.heap.trans h'.heap, h'.handled.trans h.handled, h'.globals.trans h.globals⟩

theorem Keeps.withHeap {h : Heap} (hk : s.heap.Keeps hidden secret h) :
    s.Keeps hidden secret { s with heap := h } := ⟨hk, rfl, rfl⟩

theorem Matches.withHeap (hs : s.Matches hidden secret s') {h h' : Heap}
    (hh : h.Alike hidden secret h') :
    State.Matches hidden secret { s with heap := h } { s' with heap := h' } :=
  ⟨hh, hs.handled, hs.printed, hs.globals, hs.apart⟩

theorem Matches.withDepth (hs : s.Matches hidden secret s') (n : Nat) :
    (s.withDepth n).Matches hidden secret (s'.withDepth n) := hs.withHeap (hs.heap.withDepth n)

end State

/-- Two runs from states that are alike, the first one from `s`, have ended the same way. -/
inductive Outcome.Alike (hidden : Reserved) (secret : List Address) (s : State) (P : α → Prop) :
    Outcome α → Outcome α → Prop
  | done {t t' : State} (a : α) (ha : P a) (halike : t.Matches hidden secret t')
      (hkeeps : s.Keeps hidden secret t) : Alike hidden secret s P (.done a t) (.done a t')
  | raised {t t' : State} (e : Raised) (halike : t.Matches hidden secret t')
      (hkeeps : s.Keeps hidden secret t) : Alike hidden secret s P (.raised e t) (.raised e t')
  | exhausted : Alike hidden secret s P .exhausted .exhausted

/-- What has been kept up to the start of runs is kept up to their ends. -/
theorem Outcome.Alike.behind {s t : State} {P : α → Prop} {o o' : Outcome α}
    (h : Outcome.Alike hidden secret t P o o') (hkeeps : s.Keeps hidden secret t) :
    Outcome.Alike hidden secret s P o o' := by
  cases h with
  | done a ha hu hkeeps' => exact .done a ha hu (hkeeps.trans hkeeps')
  | raised e hu hkeeps' => exact .raised e hu (hkeeps.trans hkeeps')
  | exhausted => exact .exhausted

/-- The run goes the same way in states that are alike, leaves the secrets as they are, and what it
yields has a property. -/
def Run.Confined (hidden : Reserved) (secret : List Address) (P : α → Prop) (x : Run α) : Prop :=
  ∀ s s' : State, s.Matches hidden secret s' → Outcome.Alike hidden secret s P (x s) (x s')

/-- What is read off the heap is the same where heaps are alike, and has a property. -/
def Reads (hidden : Reserved) (secret : List Address) (P : α → Prop) (f : Heap → α) : Prop :=
  ∀ h h' : Heap, h.Alike hidden secret h' → f h' = f h ∧ P (f h)

variable {ε γ : Type}

def Yields (P : β → Prop) (x : Except ε β) : Prop := ∀ b, x = .ok b → P b

namespace Yields

variable {P Q : β → Prop} {x y : Except ε γ} {f : γ → Except ε β}

theorem pure {b : β} (hb : P b) : Yields (ε := ε) P (Pure.pure b) := fun _ h => Except.ok.inj h ▸ hb

theorem error (e : ε) : Yields (β := β) P (.error e) := fun _ h => by contradiction

theorem bind (hf : ∀ c, x = .ok c → Yields P (f c)) : Yields P (x >>= f) := by
  intro b hb
  cases hx : x with
  | error e =>
    rw [hx] at hb
    contradiction
  | ok c =>
    rw [hx] at hb
    exact hf c hx b hb

theorem mapM {g : γ → Except ε β} {cs : List γ} (hg : ∀ c ∈ cs, Yields P (g c)) :
    Yields (fun bs => ∀ b ∈ bs, P b) (cs.mapM g) := by
  induction cs with
  | nil => exact pure (by simp)
  | cons c cs ih =>
    obtain ⟨hc, hcs⟩ := List.forall_mem_cons.1 hg
    rw [List.mapM_cons]
    exact bind fun b hb => bind fun bs hbs => pure (List.forall_mem_cons.2 ⟨hc b hb, ih hcs bs hbs⟩)

end Yields

def SameWith (P : β → Prop) (x y : Except ε β) : Prop := y = x ∧ Yields P x

namespace SameWith

variable {P : β → Prop} {Q : γ → Prop} {x y : Except ε β} {f g : β → Except ε γ}

theorem pure {b : β} (hb : P b) : SameWith (ε := ε) P (Pure.pure b) (Pure.pure b) :=
  ⟨rfl, fun _ h => Except.ok.inj h ▸ hb⟩

theorem bind (hx : SameWith P x y) (hf : ∀ b, P b → SameWith Q (f b) (g b)) :
    SameWith Q (x >>= f) (y >>= g) := by
  obtain ⟨rfl, hP⟩ := hx
  cases y with
  | error e => exact ⟨rfl, fun b h => by contradiction⟩
  | ok b => exact hf b (hP b rfl)

theorem of_eq (h : y = x) : SameWith (fun _ => True) x y := ⟨h, fun _ _ => trivial⟩

theorem refl (x : Except ε β) : SameWith (fun _ => True) x x := of_eq rfl

theorem ite {c : Prop} [Decidable c] {x x' y y' : Except ε β} (hyes : SameWith P x y)
    (hno : SameWith P x' y') : SameWith P (if c then x else x') (if c then y else y') := by
  split
  · exact hyes
  · exact hno

end SameWith

namespace Run.Confined

variable {P Q : α → Prop} {x : Run α}

theorem pure {a : α} (ha : P a) : Confined hidden secret P (Pure.pure a : Run α) :=
  fun s _ h => .done a ha h (.refl s)

theorem bind {R : β → Prop} {f : α → Run β} (hx : Confined hidden secret P x)
    (hf : ∀ a, P a → Confined hidden secret R (f a)) : Confined hidden secret R (x >>= f) := by
  intro s s' h
  have hrun : ∀ u, (x >>= f) u = Run.bind x f u := fun _ => rfl
  have hxs := hx s s' h
  rw [hrun, hrun, Run.bind, Run.bind]
  generalize x s = o at hxs
  generalize x s' = o' at hxs
  cases hxs with
  | done a ha ht hkeeps => exact (hf a ha _ _ ht).behind hkeeps
  | raised e ht hkeeps => exact .raised e ht hkeeps
  | exhausted => exact .exhausted

theorem exhausted : Confined hidden secret P (Run.exhausted : Run α) := fun _ _ _ => .exhausted

theorem raise (c : ExceptionClass) (arguments : List Value) :
    Confined hidden secret P (Run.raise c arguments : Run α) := fun s _ h => .raised _ h (.refl s)

theorem ofResult {r : Result α} (hr : Yields P r) :
    Confined hidden secret P (Run.ofResult r) := by
  cases r with
  | ok a => exact pure (hr a rfl)
  | error e => exact fun s _ h => .raised e h (.refl s)

theorem look {f : Heap → α} (hf : Reads hidden secret P f) :
    Confined hidden secret P (Run.look f) := by
  intro s s' h
  obtain ⟨heq, hP⟩ := hf _ _ h.heap
  rw [Run.look, Run.look, heq]
  exact .done _ hP h (.refl s)

theorem withHeap {f : Heap → Result α}
    (hf : ∀ h h' : Heap, h.Alike hidden secret h' → SameWith P (f h) (f h')) :
    Confined hidden secret P (Run.withHeap f) := by
  intro s s' h
  obtain ⟨heq, hP⟩ := hf _ _ h.heap
  rw [Run.withHeap, Run.withHeap, heq]
  exact ofResult hP s s' h

theorem deeper (hx : Confined hidden secret P x) : Confined hidden secret P (Run.deeper x) := by
  intro s s' h
  simp only [Run.deeper, h.heap.depth]
  split
  · have hxs := hx _ _ (h.withDepth (s.heap.depth + 1))
    generalize x (s.withDepth (s.heap.depth + 1)) = o at hxs
    generalize x (s'.withDepth (s.heap.depth + 1)) = o' at hxs
    have hback : ∀ t : State, (s.withDepth (s.heap.depth + 1)).Keeps hidden secret t →
        s.Keeps hidden secret (t.withDepth s.heap.depth) :=
      fun t ht => ⟨⟨rfl, ht.heap.objects⟩, ht.handled, ht.globals⟩
    cases hxs with
    | done a ha ht hkeeps => exact .done a ha (ht.withDepth _) (hback _ hkeeps)
    | raised e ht hkeeps => exact .raised e (ht.withDepth _) (hback _ hkeeps)
    | exhausted => exact .exhausted
  · exact .raised _ h (.refl s)

theorem settle {v : Value} (hv : v.Apart secret) :
    Confined hidden secret (Value.Apart secret) (Run.settle v) := by
  intro s s' h
  simp only [Run.settle, h.heap.unused]
  split
  · exact .done v hv h (.refl s)
  · exact .done _ (Value.apart_settle hv _) (h.withHeap (h.heap.withUnused _))
      (.withHeap (.of_objects rfl fun _ _ => rfl))

theorem settleAll {vs : List Value} (hvs : ∀ v ∈ vs, v.Apart secret) :
    Confined hidden secret (fun ws => ∀ v ∈ ws, v.Apart secret) (Run.settleAll vs) := by
  intro s s' h
  simp only [Run.settleAll, h.heap.unused]
  split
  · exact .done vs hvs h (.refl s)
  · exact .done _ (Value.apart_settleAll hvs (by simp) _) (h.withHeap (h.heap.withUnused _))
      (.withHeap (.of_objects rfl fun _ _ => rfl))

theorem settled {x : Run Value} (hx : Confined hidden secret (Value.Apart secret) x) :
    Confined hidden secret (Value.Apart secret) (Run.settled x) := bind hx fun _ hv => settle hv

theorem allSettled {x : Run (List Value)}
    (hx : Confined hidden secret (fun ws => ∀ v ∈ ws, v.Apart secret) x) :
    Confined hidden secret (fun ws => ∀ v ∈ ws, v.Apart secret) (Run.allSettled x) :=
  bind hx fun _ hvs => settleAll hvs

theorem make {o : Object} (ho : o.Alike hidden secret o) :
    Confined hidden secret (fun a => a ∉ secret) (Run.make o) := by
  intro s s' h
  simp only [Run.make, h.heap.size]
  refine .done _ h.heap.size_not_mem (h.withHeap (h.heap.push ho))
    (.withHeap (.of_objects rfl fun a ha => ?_))
  have hne : a ≠ s.heap.objects.size := Nat.ne_of_lt (h.heap.known a ha)
  simp [Array.getElem?_push, hne]

theorem change {a : Address} (ha : a ∉ secret) {f : Object → Object}
    (hf : ∀ o o', o.Alike hidden secret o' → (f o).Alike hidden secret (f o')) :
    Confined hidden secret (fun _ => True) (Run.change a f) := by
  intro s s' h
  refine .done _ trivial (h.withHeap (h.heap.modify ha hf))
    (.withHeap (.of_objects rfl fun b hb => ?_))
  have hne : a ≠ b := fun hab => ha (hab ▸ hb)
  simp [Array.getElem?_modify, hne]

theorem put {a : Address} (ha : a ∉ secret) {o : Object} (ho : o.Alike hidden secret o) :
    Confined hidden secret (fun _ => True) (Run.put a o) := by
  intro s s' h
  refine .done _ trivial (h.withHeap (h.heap.set ha ho)) (.withHeap (.of_objects rfl fun b hb => ?_))
  have hne : a ≠ b := fun hab => ha (hab ▸ hb)
  simp [hne]

theorem print (u : Str) : Confined hidden secret (fun _ => True) (Run.print u) := by
  intro s s' h
  unfold Run.print
  cases u.text? with
  | none => exact .raised _ h (.refl s)
  | some t =>
    exact .done () trivial ⟨h.heap, h.handled, by rw [h.printed], h.globals, h.apart⟩ ⟨.refl _, rfl, rfl⟩

theorem makeList {items : List Value} (h : ∀ v ∈ items, v.Apart secret) :
    Confined hidden secret (Value.Apart secret) (Run.makeList items) :=
  .bind (.settleAll h) fun vs hvs =>
    .bind (.make (.list (by simpa using hvs))) fun _ ha => .pure ha

theorem putItems {a : Address} (ha : a ∉ secret) {items : List Value}
    (h : ∀ v ∈ items, v.Apart secret) :
    Confined hidden secret (fun _ => True) (Run.putItems a items) :=
  .bind (.settleAll h) fun vs hvs => .put ha (.list (by simpa using hvs))

theorem changeItems {a : Address} (ha : a ∉ secret) {f : Array Value → Array Value}
    (hf : ∀ items, (∀ v ∈ items, v.Apart secret) → ∀ v ∈ f items, v.Apart secret) :
    Confined hidden secret (fun _ => True) (Run.changeItems a f) := by
  refine .change ha fun o o' ho => ?_
  cases ho with
  | list h => exact .list (hf _ h)
  | dict h => exact .dict h
  | iterator h => exact .iterator h
  | function h => exact .function h
  | scope h => exact .scope h

theorem makeDict {d : Dictionary} (hd : d.Apart secret) :
    Confined hidden secret (Value.Apart secret) (Run.makeDict d) :=
  .bind (.make (.dict hd)) fun _ ha => .pure ha

theorem putDict {a : Address} (ha : a ∉ secret) {d : Dictionary} (hd : d.Apart secret) :
    Confined hidden secret (fun _ => True) (Run.putDict a d) := .put ha (.dict hd)

theorem changeDict {a : Address} (ha : a ∉ secret) {f : Dictionary → Dictionary}
    (hf : ∀ d, d.Apart secret → (f d).Apart secret) :
    Confined hidden secret (fun _ => True) (Run.changeDict a f) := by
  refine .change ha fun o o' ho => ?_
  cases ho with
  | list h => exact .list h
  | dict h => exact .dict (hf _ h)
  | iterator h => exact .iterator h
  | function h => exact .function h
  | scope h => exact .scope h

theorem makeIterator {t : TypeName} (ht : t ≠ .str) {c : Cursor} (hc : c.Apart secret) :
    Confined hidden secret (Value.Apart secret) (Run.makeIterator t c) :=
  .bind (.make (.iterator hc)) fun _ ha => .pure ⟨ha, ht⟩

theorem mapM {R : β → Prop} {f : α → Run β} (as : List α)
    (hf : ∀ a ∈ as, Confined hidden secret R (f a)) :
    Confined hidden secret (fun bs => ∀ b ∈ bs, R b) (as.mapM f) := by
  have hloop : ∀ done : List β, (∀ b ∈ done, R b) →
      Confined hidden secret (fun bs => ∀ b ∈ bs, R b) (List.mapM.loop f as done) := by
    induction as with
    | nil => exact fun done hdone => .pure (by simpa using hdone)
    | cons a as ih =>
      intro done hdone
      exact .bind (hf a List.mem_cons_self) fun b hb =>
        ih (fun a' ha' => hf a' (List.mem_cons_of_mem a ha')) (b :: done)
          (List.forall_mem_cons.2 ⟨hb, hdone⟩)
  exact hloop [] (by simp)

theorem foldlM {R : β → Prop} {f : β → α → Run β} (as : List α)
    (hf : ∀ b, R b → ∀ a ∈ as, Confined hidden secret R (f b a)) {b : β} (hb : R b) :
    Confined hidden secret R (as.foldlM f b) := by
  induction as generalizing b with
  | nil => exact .pure hb
  | cons a as ih =>
    exact .bind (hf b hb a List.mem_cons_self) fun c hc =>
      ih (fun b hb a' ha' => hf b hb a' (List.mem_cons_of_mem a ha')) hc

theorem filterM {f : α → Run Bool} (as : List α)
    (hf : ∀ a ∈ as, Confined hidden secret (fun _ => True) (f a)) (hP : ∀ a ∈ as, P a) :
    Confined hidden secret (fun bs => ∀ b ∈ bs, P b) (as.filterM f) := by
  have hloop : ∀ done : List α, (∀ b ∈ done, P b) →
      Confined hidden secret (fun bs => ∀ b ∈ bs, P b) (List.filterAuxM f as done) := by
    induction as with
    | nil => exact fun done hdone => .pure hdone
    | cons a as ih =>
      intro done hdone
      obtain ⟨ha, has⟩ := List.forall_mem_cons.1 hP
      refine .bind (hf a List.mem_cons_self) fun b _ =>
        ih (fun a' ha' => hf a' (List.mem_cons_of_mem a ha')) has _ ?_
      cases b with
      | false => exact hdone
      | true => exact List.forall_mem_cons.2 ⟨ha, hdone⟩
  refine .bind (hloop [] (by simp)) fun bs hbs => .pure ?_
  simpa using hbs

end Run.Confined

namespace Frame

variable {n : Text} (f : Frame)

theorem alike_findVariable {h h' : Heap} (hh : h.Alike hidden secret h') (hn : n ∉ hidden.unread) (k : Nat)
    (a : Option Address) :
    findVariable h' n k a = findVariable h n k a ∧
      ∀ b v, findVariable h n k a = some (b, some v) → v.Apart secret := by
  induction k generalizing a with
  | zero => simp [findVariable]
  | succ k ih =>
    cases a with
    | none => simp [findVariable]
    | some a =>
      have hscope := hh.scope? a
      rw [findVariable, findVariable]
      generalize h.scope? a = s at hscope
      generalize h'.scope? a = s' at hscope
      cases hscope with
      | none => simp
      | @some s s' hscope =>
        dsimp only
        rw [hscope.bindings n hn, hscope.outer]
        cases hv : s.bindings.find? n with
        | none => exact ih s.outer
        | some v =>
          refine ⟨rfl, fun b w hw => ?_⟩
          obtain ⟨-, rfl⟩ := Prod.mk.inj (Option.some.inj hw)
          exact hscope.apart n w hn hv

theorem confined_read (hn : n ∉ hidden.unread) :
    Run.Confined hidden secret (Value.Apart secret) (f.read n) := by
  intro s s' h
  obtain ⟨heq, hapart⟩ := alike_findVariable h.heap hn (s.heap.objects.size + 1) f.scope
  simp only [Frame.read, h.heap.size, h.globals n hn, heq]
  split
  · next b v hv => exact .done v (hapart b v hv) h (.refl s)
  · exact .raised _ h (.refl s)
  · split
    · next v hv => exact .done v (h.apart n v hn hv) h (.refl s)
    · split
      · next v hv => exact .done v (Value.apart_builtin? hv) h (.refl s)
      · exact .raised _ h (.refl s)

theorem confined_setVariable {a : Address} (hn : a ∈ secret → n ∉ hidden.kept) {o : Option Value}
    (ho : ∀ v, o = some v → v.Apart secret) : Run.Confined hidden secret (fun _ => True) fun s =>
      match s.heap.scope? a with
      | some t => Run.put a (.scope { t with bindings := t.bindings.insert n o }) s
      | none => .done () s := by
  intro s s' h
  have hscope := h.heap.scope? a
  cases hs : s.heap.scope? a with
  | none =>
    rw [hs] at hscope
    cases hs' : s'.heap.scope? a with
    | none =>
      simp only [hs, hs']
      exact Run.Confined.pure (by trivial) s s' h
    | some t' =>
      rw [hs'] at hscope
      cases hscope
  | some t =>
    rw [hs] at hscope
    cases hs' : s'.heap.scope? a with
    | none =>
      rw [hs'] at hscope
      cases hscope
    | some t' =>
      rw [hs'] at hscope
      cases hscope with
      | some hscope =>
        have hnew : Scope.Alike hidden secret { t with bindings := t.bindings.insert n o }
            { t' with bindings := t'.bindings.insert n o } := by
          refine ⟨hscope.outer, fun m hm => ?_, fun m v hm hv => ?_⟩
          · rw [Table.find?_insert, Table.find?_insert, hscope.bindings m hm]
          · rw [Table.find?_insert] at hv
            split at hv
            · exact ho v (Option.some.inj hv)
            · exact hscope.apart m v hm hv
        simp only [hs, hs', Run.put]
        refine .done () trivial (h.withHeap (h.heap.setScope hnew)) (.withHeap ⟨rfl, ?_⟩)
        intro b hb p hp
        by_cases hab : a = b
        · subst hab
          rw [Heap.scope?_eq_some.1 hs] at hp
          obtain rfl := Option.some.inj hp
          refine ⟨.scope { t with bindings := t.bindings.insert n o }, ?_, .scope rfl fun m hm => ?_⟩
          · simp [h.heap.known a hb]
          · rw [Table.find?_insert, if_neg fun hnm : n = m => hn hb (hnm ▸ hm)]
        · exact ⟨p, by simpa [Array.getElem?_setIfInBounds, hab] using hp, .same p⟩

/-- The frame of a function or a comprehension whose variables are not secret. -/
def IsOpen (secret : List Address) (f : Frame) : Prop := ∃ a, f = ⟨some a⟩ ∧ a ∉ secret

/-- The frame of a function or a comprehension in which some variables may change: if its variables are
secret, these are none that keep their values. -/
def Admits (hidden : Reserved) (secret : List Address) (names : List Text) (f : Frame) : Prop :=
  ∃ a, f = ⟨some a⟩ ∧ (a ∈ secret → Avoids hidden.kept names)

section

variable {f} {names more : List Text}

theorem IsOpen.admits (h : f.IsOpen secret) : f.Admits hidden secret names := by
  obtain ⟨a, rfl, ha⟩ := h
  exact ⟨a, rfl, fun hmem => absurd hmem ha⟩

theorem Admits.of_subset (h : f.Admits hidden secret names) (hsub : more ⊆ names) :
    f.Admits hidden secret more := by
  obtain ⟨a, rfl, ha⟩ := h
  exact ⟨a, rfl, fun hmem n hn => ha hmem n (hsub hn)⟩

theorem Admits.left (h : f.Admits hidden secret (names ++ more)) : f.Admits hidden secret names :=
  h.of_subset (List.subset_append_left names more)

theorem Admits.right (h : f.Admits hidden secret (names ++ more)) : f.Admits hidden secret more :=
  h.of_subset (List.subset_append_right names more)

theorem Admits.confined_write (h : f.Admits hidden secret [n]) {v : Value} (hv : v.Apart secret) :
    Run.Confined hidden secret (fun _ => True) (f.write n v) := by
  obtain ⟨a, rfl, ha⟩ := h
  exact confined_setVariable (fun hmem => ha hmem n List.mem_cons_self) fun _ hw => Option.some.inj hw ▸ hv

theorem Admits.confined_forget (h : f.Admits hidden secret [n]) :
    Run.Confined hidden secret (fun _ => True) (f.forget n) := by
  obtain ⟨a, rfl, ha⟩ := h
  exact confined_setVariable (fun hmem => ha hmem n List.mem_cons_self) nofun

theorem Admits.confined_readOwn (h : f.Admits hidden secret names) (hn : n ∉ hidden.unread) :
    Run.Confined hidden secret (Value.Apart secret) (f.readOwn n) := by
  obtain ⟨a, rfl, -⟩ := h
  exact confined_read _ hn

end

theorem confined_enter (outer : Option Address) {bindings : List (Text × Option Value)}
    (hb : ∀ e ∈ bindings, ∀ v, e.2 = some v → v.Apart secret) :
    Run.Confined hidden secret (IsOpen secret) (Frame.enter outer bindings) := by
  have hfold : ∀ t : Table Text (Option Value),
      (∀ n v, t.find? n = some (some v) → v.Apart secret) →
      ∀ n v, (bindings.foldl (fun t e => t.insert e.1 e.2) t).find? n = some (some v) →
        v.Apart secret := by
    induction bindings with
    | nil => exact fun t ht => ht
    | cons e es ih =>
      intro t ht
      obtain ⟨he, hes⟩ := List.forall_mem_cons.1 hb
      refine ih hes _ fun n v hv => ?_
      rw [Table.find?_insert] at hv
      split at hv
      · exact he v (Option.some.inj hv)
      · exact ht n v hv
  have htable := hfold {} fun n v hv => by simp [Table.find?, Table.lookup] at hv
  exact .bind (.make (.scope ⟨rfl, fun _ _ => rfl, fun n v _ hv => htable n v hv⟩)) fun _ ha =>
    .pure ⟨_, rfl, ha⟩

end Frame
end TemplateEngine.Script
