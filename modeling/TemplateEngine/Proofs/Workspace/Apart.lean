import TemplateEngine.Workspace

set_option autoImplicit false

/-!
# Actions that know of no cache

An action is told by what it gives and leaves for each workspace. Most actions neither look at the
caches nor change them, and none takes a module or a store away: a module only becomes what calls
make of it. Both are closed under sequencing, so they hold of whatever is put together from such
actions.
-/
namespace TemplateEngine

/-- What calls make of a module. -/
inductive Script.Module.Evolves : Script.Module → Script.Module → Prop where
  | refl (m : Script.Module) : Evolves m m
  | done {m n : Script.Module} {f : Script.Value} {arguments : List Data} {v : Script.Value}
      {s : Script.State} : Evolves m n → n.call f arguments = .done v s →
      Evolves m ⟨{ s with printed := [] }⟩
  | raised {m n : Script.Module} {f : Script.Value} {arguments : List Data} {e : Script.Raised}
      {s : Script.State} : Evolves m n → n.call f arguments = .raised e s →
      Evolves m ⟨{ s with printed := [] }⟩

theorem Script.Module.Evolves.trans {a b c : Script.Module} (h : a.Evolves b) (g : b.Evolves c) :
    a.Evolves c := by
  induction g with
  | refl => exact h
  | done _ hc ih => exact .done ih hc
  | raised _ hc ih => exact .raised ih hc

namespace Workspace

def withCaches (w : Workspace) (cs : Array Cache) : Workspace := { w with caches := cs }

structure Keeps (w v : Workspace) : Prop where
  here : v.here = w.here
  memories : w.memories.size ≤ v.memories.size
  modules : ∀ (i : Nat) (m : Script.Module), w.modules[i]? = some m →
    ∃ n, v.modules[i]? = some n ∧ m.Evolves n

namespace Keeps

variable {u v w : Workspace}

theorem of_eq (hh : v.here = w.here) (hs : v.memories.size = w.memories.size)
    (hm : v.modules = w.modules) : w.Keeps v :=
  ⟨hh, Nat.le_of_eq hs.symm, fun _ m h => ⟨m, by rw [hm, h], .refl m⟩⟩

theorem refl (w : Workspace) : w.Keeps w := of_eq rfl rfl rfl

theorem trans (h : u.Keeps v) (g : v.Keeps w) : u.Keeps w := by
  refine ⟨g.here.trans h.here, Nat.le_trans h.memories g.memories, fun i m hm => ?_⟩
  obtain ⟨n, hn, hmn⟩ := h.modules i m hm
  obtain ⟨k, hk, hnk⟩ := g.modules i n hn
  exact ⟨k, hk, hmn.trans hnk⟩

theorem lt_size {i : Nat} {m : Script.Module} (h : w.modules[i]? = some m) :
    i < w.modules.size := by
  obtain ⟨hi, -⟩ := Array.getElem?_eq_some_iff.1 h
  exact hi

theorem size_le (h : w.Keeps v) : w.modules.size ≤ v.modules.size := by
  by_cases hlt : v.modules.size < w.modules.size
  · obtain ⟨n, hn, -⟩ := h.modules _ _ (Array.getElem?_eq_getElem hlt)
    exact absurd (lt_size hn) (Nat.lt_irrefl _)
  · exact Nat.not_lt.1 hlt

theorem push (w : Workspace) (m : Script.Module) :
    w.Keeps { w with modules := w.modules.push m } := by
  refine ⟨rfl, Nat.le_refl _, fun i n hn => ⟨n, ?_, .refl n⟩⟩
  have hi := lt_size hn
  simpa [Array.getElem?_push, Nat.ne_of_lt hi] using hn

theorem leave {owner : Nat} {n : Script.Module} {s : Script.State}
    (hn : w.modules[owner]? = some n) (hs : n.Evolves ⟨{ s with printed := [] }⟩) :
    w.Keeps (w.leave owner s) := by
  refine ⟨rfl, Nat.le_refl _, fun i m hm => ?_⟩
  by_cases h : owner = i
  · subst h
    obtain rfl : n = m := Option.some.inj (hn.symm.trans hm)
    refine ⟨_, ?_, hs⟩
    simp [Workspace.leave, lt_size hn]
  · refine ⟨m, ?_, .refl m⟩
    simpa [Workspace.leave, Array.getElem?_setIfInBounds, h] using hm

end Keeps
end Workspace

namespace Action

variable {α β : Type}

def exec (x : Action α) (w : Workspace) : Except Failure α × Workspace := x.run.run w

@[simp] theorem exec_pure (a : α) (w : Workspace) : (pure a : Action α).exec w = (.ok a, w) := rfl

@[simp] theorem exec_throw (e : Failure) (w : Workspace) :
    (throw e : Action α).exec w = (.error e, w) := rfl

@[simp] theorem exec_get (w : Workspace) : (get : Action Workspace).exec w = (.ok w, w) := rfl

@[simp] theorem exec_set (v w : Workspace) : (set v : Action PUnit).exec w = (.ok ⟨⟩, v) := rfl

@[simp] theorem exec_modify (f : Workspace → Workspace) (w : Workspace) :
    (modify f : Action PUnit).exec w = (.ok ⟨⟩, f w) := rfl

theorem exec_bind (x : Action α) (f : α → Action β) (w : Workspace) :
    (x >>= f).exec w =
      match x.exec w with
      | (.ok a, v) => (f a).exec v
      | (.error e, v) => (.error e, v) := by
  simp only [exec, ExceptT.run_bind, StateT.run_bind]
  obtain ⟨r, v⟩ := x.run.run w
  cases r <;> rfl

theorem exec_bind_ok {x : Action α} {f : α → Action β} {w v : Workspace} {a : α}
    (h : x.exec w = (.ok a, v)) : (x >>= f).exec w = (f a).exec v := by
  rw [exec_bind, h]

theorem exec_bind_error {x : Action α} {f : α → Action β} {w v : Workspace} {e : Failure}
    (h : x.exec w = (.error e, v)) : (x >>= f).exec w = (.error e, v) := by
  rw [exec_bind, h]

@[simp] theorem exec_ofExcept {ε : Type} (f : ε → Failure) (r : Except ε α) (w : Workspace) :
    (ofExcept f r).exec w = (r.mapError f, w) := by
  cases r <;> rfl

@[simp] theorem exec_attempt (x : Action α) (w : Workspace) :
    x.attempt.exec w = (.ok (x.exec w).1, (x.exec w).2) := rfl

theorem exec_tryCatch (x : Action α) (f : Failure → Action α) (w : Workspace) :
    (tryCatch x f).exec w =
      match x.exec w with
      | (.ok a, v) => (.ok a, v)
      | (.error e, v) => (f e).exec v := by
  unfold exec ExceptT.run StateT.run
  simp only [tryCatch, tryCatchThe, MonadExceptOf.tryCatch, ExceptT.tryCatch, ExceptT.mk, bind,
    StateT.bind]
  obtain ⟨r, v⟩ := x w
  cases r <;> rfl

theorem exec_changeFiles (f : FileTree.Change Unit) (w : Workspace) :
    (changeFiles f).exec w =
      ((f.run.run w.files).1.mapError .file, { w with files := (f.run.run w.files).2 }) := by
  unfold changeFiles
  rw [exec_bind, exec_get]
  dsimp only
  generalize StateT.run (ExceptT.run f) w.files = p
  obtain ⟨r, t⟩ := p
  dsimp only
  rw [exec_bind, exec_modify]
  exact exec_ofExcept _ _ _

theorem exec_call {f : Runnable} {w : Workspace} {m : Script.Module} (hm : w.modules[f.owner]? = some m)
    (arguments : List Data) : (f.call arguments).exec w =
      match m.call f.function arguments with
      | .done v s => (.ok (v, s.heap), w.leave f.owner s)
      | .raised e s => (.error (.raised e s.heap), w.leave f.owner s)
      | .exhausted => (.error .endless, w) := by
  simp only [Runnable.call, exec_bind, exec_get, hm]
  cases m.call f.function arguments <;> rfl

/-- The action neither looks at the caches nor changes them, and takes nothing away. -/
structure Apart (x : Action α) : Prop where
  blind : ∀ (w : Workspace) (cs : Array Cache),
    x.exec (w.withCaches cs) = ((x.exec w).1, (x.exec w).2.withCaches cs)
  keeps : ∀ w : Workspace, w.Keeps (x.exec w).2

namespace Apart

theorem pure (a : α) : Apart (pure a : Action α) := ⟨fun _ _ => rfl, .refl⟩

theorem throw (e : Failure) : Apart (throw e : Action α) := ⟨fun _ _ => rfl, .refl⟩

theorem ofExcept {ε : Type} (f : ε → Failure) (r : Except ε α) : Apart (ofExcept f r) :=
  ⟨fun _ _ => by simp only [exec_ofExcept], fun w => by
    rw [exec_ofExcept]
    exact .refl w⟩

theorem bind {x : Action α} {f : α → Action β} (hx : Apart x) (hf : ∀ a, Apart (f a)) :
    Apart (x >>= f) := by
  refine ⟨fun w cs => ?_, fun w => ?_⟩
  · rw [exec_bind, exec_bind, hx.blind]
    obtain ⟨r, v⟩ := x.exec w
    cases r with
    | ok a => exact (hf a).blind v cs
    | error e => rfl
  · have hk := hx.keeps w
    rw [exec_bind]
    generalize x.exec w = p at hk ⊢
    obtain ⟨r, v⟩ := p
    cases r with
    | ok a => exact hk.trans ((hf a).keeps v)
    | error e => exact hk

/-- What is looked up in the workspace may not be its caches. -/
theorem get {f : Workspace → Action β} (hf : ∀ w, Apart (f w))
    (hc : ∀ w cs, f (w.withCaches cs) = f w) : Apart (get >>= f) := by
  refine ⟨fun w cs => ?_, fun w => (hf w).keeps w⟩
  have h : (MonadState.get >>= f : Action β).exec (w.withCaches cs) =
      (f (w.withCaches cs)).exec (w.withCaches cs) := rfl
  rw [h, hc, (hf w).blind]
  rfl

theorem modify {f : Workspace → Workspace} (hc : ∀ w cs, f (w.withCaches cs) = (f w).withCaches cs)
    (hk : ∀ w : Workspace, w.Keeps (f w)) : Apart (modify f : Action PUnit) :=
  ⟨fun w cs => by simp [hc], hk⟩

theorem changeFiles (f : FileTree.Change Unit) : Apart (changeFiles f) := by
  refine ⟨fun w cs => ?_, fun w => ?_⟩
  · rw [exec_changeFiles, exec_changeFiles]
    rfl
  · rw [exec_changeFiles]
    exact .of_eq rfl rfl rfl

theorem call (f : Runnable) (arguments : List Data) : Apart (f.call arguments) := by
  refine ⟨fun w cs => ?_, fun w => ?_⟩
  · have hm : (w.withCaches cs).modules[f.owner]? = w.modules[f.owner]? := rfl
    simp only [Runnable.call, exec_bind, exec_get, hm]
    cases w.modules[f.owner]? with
    | none => rfl
    | some m =>
      dsimp only
      cases m.call f.function arguments <;> rfl
  · simp only [Runnable.call, exec_bind, exec_get]
    cases hm : w.modules[f.owner]? with
    | none => exact .refl w
    | some m =>
      dsimp only
      cases hc : m.call f.function arguments with
      | done v s => exact .leave hm (.done (.refl m) hc)
      | raised e s => exact .leave hm (.raised (.refl m) hc)
      | exhausted => exact .refl w

end Apart
end Action
end TemplateEngine
