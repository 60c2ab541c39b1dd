import Mathlib.Logic.Function.Basic
import TemplateEngine.Proofs.Store.Holding

set_option autoImplicit false

/-!
# Deposits

A deposit is all that matters of a store under one reference: the code that is kept, the modules that
were made of it so far, the earliest first, and which of them is in use. What a store in memory or in
files is asked about a reference is told by a deposit alone; the other references play no part.

Orders are what can be asked of several stores, each about the reference of an identity. They are
carried out in a workspace, and told by deposits that begin with nothing.
-/
namespace TemplateEngine.Keeping

structure Spot where
  store : Nat
  identity : Text
  deriving DecidableEq

inductive Task where
  | persist (code : Text)
  | load
  | unload
  | remove
  /-- Calls one of the functions that loading has given under the reference, by its number. -/
  | call (k : Nat) (arguments : List Data)

structure Order where
  spot : Spot
  task : Task

inductive Answer where
  /-- Code is kept, and under the reference that goes with the identity or not. -/
  | kept (isOwn : Bool)
  | done
  | given (f : Runnable)
  /-- The code could not be loaded. -/
  | failed (c : LoadCause)
  /-- A call has given a value that lives on a heap, and has printed a text. -/
  | returned (v : Script.Value) (h : Script.Heap) (printed : Text)
  | raised (e : Script.Raised) (h : Script.Heap) (printed : Text)
  | endless
  /-- There is no store or no function of that number. -/
  | unbound
  /-- Any other failure. -/
  | broken (f : Failure)

structure Session where
  world : Workspace
  given : Spot → List Runnable := fun _ => []

def Answer.ofUnit : Except Failure Unit → Answer
  | .ok _ => .done
  | .error e => .broken e

def Answer.ofCall (printed : Text) : Except Failure (Script.Value × Script.Heap) → Answer
  | .ok (v, h) => .returned v h printed
  | .error (.raised e h) => .raised e h printed
  | .error .endless => .endless
  | .error e => .broken e

namespace Session

def leave (x : Session) (w : Workspace) : Session := { x with world := w }

def receive (x : Session) (p : Spot) : Except Failure Runnable × Workspace → Answer × Session
  | (.ok f, w) => (.given f, ⟨w, Function.update x.given p (x.given p ++ [f])⟩)
  | (.error (.load e), w) => (.failed e.cause, x.leave w)
  | (.error e, w) => (.broken e, x.leave w)

def perform (x : Session) (s : Store) (p : Spot) : Task → Answer × Session
  | .persist code =>
    let (r, w) := (s.persist p.identity code).exec x.world
    match r with
    | .ok ref => (.kept (ref = s.refOf p.identity), x.leave w)
    | .error e => (.broken e, x.leave w)
  | .load => x.receive p ((s.load (s.refOf p.identity)).exec x.world)
  | .unload =>
    let (r, w) := (s.unload (s.refOf p.identity)).exec x.world
    (.ofUnit r, x.leave w)
  | .remove =>
    let (r, w) := (s.remove (s.refOf p.identity)).exec x.world
    (.ofUnit r, x.leave w)
  | .call k arguments =>
    match (x.given p)[k]? with
    | none => (.unbound, x)
    | some f =>
      let (r, w) := (f.call arguments).exec x.world
      (.ofCall (w.printed.drop x.world.printed.length) r, x.leave w)

def step (stores : List Store) (x : Session) (o : Order) : Answer × Session :=
  match stores[o.spot.store]? with
  | some s => x.perform s o.spot o.task
  | none => (.unbound, x)

def answers (stores : List Store) (x : Session) : List Order → List Answer
  | [] => []
  | o :: os => (x.step stores o).1 :: (x.step stores o).2.answers stores os

end Session

def serve (stores : List Store) (w : Workspace) (os : List Order) : List Answer :=
  Session.answers stores { world := w } os

/-- What there is under a reference. A function that was given is known by the number of its module among
those made here. -/
structure Deposit where
  kept : Option Text := none
  /-- The module in use. -/
  current : Option Nat := none
  made : List Script.Module := []
  given : List Runnable := []

def commonGlobals : Table Text Script.Value := Store.startingWith [("__doc__", .none)]

namespace Deposit

def give (d : Deposit) (k : Nat) : Answer × Deposit :=
  match d.made[k]?.bind fun m => m.function? Generated.renderName with
  | some v => (.given ⟨k, v⟩, { d with given := d.given ++ [⟨k, v⟩] })
  | none => (.failed .noFunction, d)

def make (d : Deposit) (m : Script.Module) : Deposit :=
  { d with current := some d.made.length, made := d.made ++ [m] }

def leave (d : Deposit) (k : Nat) (s : Script.State) : Deposit :=
  { d with made := d.made.set k ⟨{ s with printed := [] }⟩ }

def call (d : Deposit) (f : Runnable) (arguments : List Data) : Answer × Deposit :=
  match d.made[f.owner]? with
  | none => (.unbound, d)
  | some m =>
    match m.call f.function arguments with
    | .done v s => (.returned v s.heap s.printed, d.leave f.owner s)
    | .raised e s => (.raised e s.heap s.printed, d.leave f.owner s)
    | .exhausted => (.endless, d)

def step (d : Deposit) : Task → Answer × Deposit
  | .persist code => (.kept true, { d with kept := some code })
  | .load =>
    match d.current with
    | some k => d.give k
    | none =>
      match d.kept with
      | none => (.failed .nothingKept, d)
      | some code =>
        match Script.Module.load commonGlobals code with
        | .ok m => (d.make m).give d.made.length
        | .error f => (.failed (.ofFault f), d)
  | .unload => (.done, { d with current := none })
  | .remove => (.done, { d with current := none, kept := none })
  | .call k arguments =>
    match d.given[k]? with
    | some f => d.call f arguments
    | none => (.unbound, d)

variable {d : Deposit} {f : Runnable} {k n : Nat} {t : Task}

theorem give_cases (d : Deposit) (k : Nat) :
    (k < d.made.length ∧
      ∃ v, d.give k = (.given ⟨k, v⟩, { d with given := d.given ++ [⟨k, v⟩] })) ∨
      d.give k = (.failed .noFunction, d) := by
  unfold give
  split
  · next v hv =>
    obtain ⟨m, hm, -⟩ := Option.bind_eq_some_iff.1 hv
    obtain ⟨hk, -⟩ := List.getElem?_eq_some_iff.1 hm
    exact .inl ⟨hk, v, rfl⟩
  · exact .inr rfl

theorem load_cases (d : Deposit) : (∃ k, d.current = some k ∧ d.step .load = d.give k) ∨
    (d.current = none ∧ ∃ c, d.step .load = (.failed c, d)) ∨
    (d.current = none ∧ ∃ m, d.step .load = (d.make m).give d.made.length) := by
  cases hc : d.current with
  | some k => exact .inl ⟨k, rfl, by simp only [step, hc]⟩
  | none =>
    refine .inr ?_
    cases hk : d.kept with
    | none => exact .inl ⟨rfl, .nothingKept, by simp only [step, hc, hk]⟩
    | some code =>
      cases hm : Script.Module.load commonGlobals code with
      | error f => exact .inl ⟨rfl, .ofFault f, by simp only [step, hc, hk, hm]⟩
      | ok m => exact .inr ⟨rfl, m, by simp only [step, hc, hk, hm]⟩

/-- A call gives no function, and leaves all but what modules hold as it is. -/
structure Calls (d : Deposit) (r : Answer × Deposit) : Prop where
  ne_given : ∀ f, r.1 ≠ .given f
  ne_broken : ∀ f, r.1 ≠ .broken f
  current : r.2.current = d.current
  made : r.2.made.length = d.made.length

theorem calls_step (d : Deposit) (k : Nat) (arguments : List Data) :
    Calls d (d.step (.call k arguments)) := by
  unfold step
  dsimp only
  split
  · unfold call
    split
    · exact ⟨by simp, by simp, rfl, rfl⟩
    · split
      · exact ⟨by simp, by simp, rfl, by simp [Deposit.leave]⟩
      · exact ⟨by simp, by simp, rfl, by simp [Deposit.leave]⟩
      · exact ⟨by simp, by simp, rfl, rfl⟩
  · exact ⟨by simp, by simp, rfl, rfl⟩

theorem made_give (d : Deposit) (k : Nat) : (d.give k).2.made = d.made := by
  obtain ⟨-, v, h⟩ | h := d.give_cases k <;> rw [h]

theorem current_give (d : Deposit) (k : Nat) : (d.give k).2.current = d.current := by
  obtain ⟨-, v, h⟩ | h := d.give_cases k <;> rw [h]

theorem owner_give (h : (d.give k).1 = .given f) :
    f.owner = k ∧ k < d.made.length ∧ f ∈ (d.give k).2.given := by
  obtain ⟨hk, v, hv⟩ | hv := d.give_cases k
  · rw [hv] at h ⊢
    obtain rfl := Answer.given.inj h
    exact ⟨rfl, hk, by simp⟩
  · simp [hv] at h

theorem eq_load_of_given (h : (d.step t).1 = .given f) : t = .load := by
  cases t with
  | load => rfl
  | call k arguments => exact absurd h ((d.calls_step k arguments).ne_given f)
  | _ => simp [step] at h

theorem mem_given_of_step (h : (d.step t).1 = .given f) : f ∈ (d.step t).2.given := by
  obtain rfl := eq_load_of_given h
  obtain ⟨k, -, hload⟩ | ⟨-, c, hload⟩ | ⟨-, m, hload⟩ := d.load_cases
  · rw [hload] at h ⊢
    exact (owner_give h).2.2
  · simp [hload] at h
  · rw [hload] at h ⊢
    exact (owner_give h).2.2

theorem step_ne_broken (d : Deposit) (t : Task) (e : Failure) : (d.step t).1 ≠ .broken e := by
  have hgive : ∀ (d : Deposit) k, (d.give k).1 ≠ .broken e := by
    intro d k
    obtain ⟨-, v, h⟩ | h := d.give_cases k <;> simp [h]
  cases t with
  | load =>
    obtain ⟨k, -, hload⟩ | ⟨-, c, hload⟩ | ⟨-, m, hload⟩ := d.load_cases
    · rw [hload]
      exact hgive _ _
    · simp [hload]
    · rw [hload]
      exact hgive _ _
  | call k arguments => exact (d.calls_step k arguments).ne_broken e
  | _ => simp [step]

theorem length_le_step (d : Deposit) (t : Task) : d.made.length ≤ (d.step t).2.made.length := by
  cases t with
  | load =>
    obtain ⟨k, -, hload⟩ | ⟨-, c, hload⟩ | ⟨-, m, hload⟩ := d.load_cases
    · rw [hload, made_give]
    · rw [hload]
    · rw [hload, made_give]
      simp [make]
  | call k arguments => exact Nat.le_of_eq (d.calls_step k arguments).made.symm
  | _ => exact Nat.le_refl _

theorem current_of_load (h : (d.step .load).1 = .given f) :
    (d.step .load).2.current = some f.owner := by
  obtain ⟨k, hk, hload⟩ | ⟨-, c, hload⟩ | ⟨-, m, hload⟩ := d.load_cases
  · rw [hload] at h ⊢
    rw [current_give, hk, (owner_give h).1]
  · simp [hload] at h
  · rw [hload] at h ⊢
    rw [current_give, (owner_give h).1]
    rfl

/-- The module in use, if there is one, is not among the first `n` that were made. -/
structure Past (n : Nat) (d : Deposit) : Prop where
  made : n ≤ d.made.length
  current : ∀ k, d.current = some k → n ≤ k

theorem Past.step (h : d.Past n) (t : Task) : (d.step t).2.Past n := by
  refine ⟨Nat.le_trans h.made (d.length_le_step t), fun k hk => ?_⟩
  cases t with
  | load =>
    obtain ⟨l, -, hload⟩ | ⟨-, c, hload⟩ | ⟨-, m, hload⟩ := d.load_cases
    · rw [hload, current_give] at hk
      exact h.current k hk
    · rw [hload] at hk
      exact h.current k hk
    · rw [hload, current_give] at hk
      exact Option.some.inj hk ▸ h.made
  | call l arguments =>
    rw [(d.calls_step l arguments).current] at hk
    exact h.current k hk
  | persist code => exact h.current k hk
  | unload => simp [Deposit.step] at hk
  | remove => simp [Deposit.step] at hk

theorem Past.owner (h : d.Past n) (hf : (d.step .load).1 = .given f) : n ≤ f.owner :=
  (h.step .load).current _ (current_of_load hf)

end Deposit

abbrev Depot := Spot → Deposit

namespace Depot

def step (d : Depot) (o : Order) : Answer × Depot :=
  (((d o.spot).step o.task).1, Function.update d o.spot ((d o.spot).step o.task).2)

def after (d : Depot) : List Order → Depot
  | [] => d
  | o :: os => (d.step o).2.after os

def answers (d : Depot) : List Order → List (Spot × Answer)
  | [] => []
  | o :: os => (o.spot, (d.step o).1) :: (d.step o).2.answers os

theorem step_apply_of_ne (d : Depot) {o : Order} {p : Spot} (h : o.spot ≠ p) :
    (d.step o).2 p = d p := Function.update_of_ne (Ne.symm h) _ _

theorem answers_congr {d e : Depot} {os : List Order} (h : ∀ o ∈ os, d o.spot = e o.spot) :
    d.answers os = e.answers os := by
  induction os generalizing d e with
  | nil => rfl
  | cons o os ih =>
    have ho := h o (by simp)
    have hrest : (d.step o).2.answers os = (e.step o).2.answers os := by
      refine ih fun o' ho' => ?_
      by_cases hs : o.spot = o'.spot
      · simp [step, ← hs, ho]
      · rw [step_apply_of_ne d hs, step_apply_of_ne e hs]
        exact h o' (List.mem_cons_of_mem o ho')
    have hhead : (d.step o).1 = (e.step o).1 := by simp only [step, ho]
    rw [answers, answers, hrest, hhead]

/-- The answers about one reference are those to the orders about it. -/
theorem answers_filter (d : Depot) (p : Spot) (os : List Order) :
    (d.answers os).filter (fun a => a.1 = p) = d.answers (os.filter fun o => o.spot = p) := by
  induction os generalizing d with
  | nil => rfl
  | cons o os ih =>
    by_cases hs : o.spot = p
    · simp [answers, hs, ih]
    · have hrest : (d.step o).2.answers (os.filter fun o => o.spot = p) =
          d.answers (os.filter fun o => o.spot = p) := by
        refine answers_congr fun o' ho' => step_apply_of_ne d ?_
        have : o'.spot = p := by simpa using (List.mem_filter.1 ho').2
        rwa [this]
      simp [answers, hs, ih, hrest]

/-- No order unloads or removes what is under a reference. -/
def Leaves (p : Spot) (os : List Order) : Prop :=
  ∀ o ∈ os, o.spot = p → o.task ≠ .unload ∧ o.task ≠ .remove

end Depot

namespace Answer

def numbered (number : Nat → Nat) : Answer → Answer
  | given f => given ⟨number f.owner, f.function⟩
  | a => a

def unnumbered : Answer → Answer := numbered fun _ => 0

def because (c : LoadCause) : Answer → Answer
  | failed .nothingKept => failed c
  | a => a

end Answer
end TemplateEngine.Keeping
