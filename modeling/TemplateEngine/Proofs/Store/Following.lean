import TemplateEngine.Proofs.Script.BlindEvaluate
import TemplateEngine.Proofs.Store.Deposit

set_option autoImplicit false

/-!
# Sessions follow deposits

A session with stores of either kind answers each order as the deposits do, up to the numbers of modules
and to the reason why nothing can be loaded that was not kept.
-/
namespace TemplateEngine.Keeping

open TemplateEngine.Action

def originNames : List Text :=
  ["__name__".toList, "__package__".toList, "__loader__".toList, "__spec__".toList,
    "__file__".toList, "__cached__".toList]

/-- Code that does not ask where its module comes from. Running it ends, or ends in an exception of an
ordinary class. -/
structure Portable (code : Text) : Prop where
  avoids : Script.Program.Avoids originNames code
  ordinary : ∀ e m, Script.Module.load commonGlobals code = .error (.raised e m) →
    e.cls.isA .exception = true

theorem find?_startingWith (name : String) (v : Script.Value) (es : List (String × Script.Value))
    (n : Text) : (Store.startingWith ((name, v) :: es)).find? n =
      if name.toList = n then some v else (Store.startingWith es).find? n := rfl

theorem find?_globals (s : Store) (ref : Text) {n : Text} (hn : n ∉ originNames) :
    (s.globals ref).find? n = commonGlobals.find? n := by
  simp only [originNames, List.mem_cons, List.not_mem_nil, or_false, not_or] at hn
  obtain ⟨hname, hpackage, hloader, hspec, hfile, hcached⟩ := hn
  cases s with
  | memory k =>
    rw [Store.globals, MemoryStore.globals, commonGlobals, find?_startingWith,
      if_neg (Ne.symm hname), find?_startingWith, find?_startingWith "__package__",
      if_neg (Ne.symm hpackage), find?_startingWith "__loader__", if_neg (Ne.symm hloader),
      find?_startingWith "__spec__", if_neg (Ne.symm hspec), find?_startingWith]
  | files workArea =>
    rw [Store.globals, FileStore.globals, commonGlobals, find?_startingWith,
      if_neg (Ne.symm hname), find?_startingWith, find?_startingWith "__package__",
      if_neg (Ne.symm hpackage), find?_startingWith "__file__", if_neg (Ne.symm hfile),
      find?_startingWith "__cached__", if_neg (Ne.symm hcached), find?_startingWith]

variable {code : Text}

theorem Portable.load (h : Portable code) (s : Store) (ref : Text) :
    (∃ f f', Script.Module.load commonGlobals code = .error f ∧
      Script.Module.load (s.globals ref) code = .error f' ∧ f.Agrees originNames f') ∨
    ∃ m m', Script.Module.load commonGlobals code = .ok m ∧
      Script.Module.load (s.globals ref) code = .ok m' ∧ m.Agrees originNames m' :=
  Script.Module.load_agrees (fun _ hn => find?_globals s ref hn) h.avoids

/-- Where portable code gives no module, it leaves none, and the load fails for the same cause wherever the
code is kept. -/
theorem Portable.ofFault (h : Portable code) {f f' : Script.LoadFault}
    (hf : Script.Module.load commonGlobals code = .error f) (hagrees : f.Agrees originNames f')
    (ref : Text) : Failure.ofFault ref f' = .load ⟨ref, .ofFault f⟩ ∧ f'.abandoned? = none := by
  cases hagrees with
  | same f =>
    cases f with
    | program f => exact ⟨rfl, rfl⟩
    | endless => exact ⟨rfl, rfl⟩
    | raised e m =>
      have hordinary := h.ordinary e m hf
      exact ⟨by rw [Failure.ofFault, if_pos hordinary], if_pos hordinary⟩
  | raised e hm =>
    have hordinary := h.ordinary e _ hf
    refine ⟨?_, if_pos hordinary⟩
    rw [Failure.ofFault, if_pos hordinary, LoadCause.ofFault, hm.heap, LoadCause.ofFault]

namespace Deposit

variable {d : Deposit} {f : Runnable} {k : Nat}

structure Sound (d : Deposit) : Prop where
  current : ∀ k, d.current = some k → k < d.made.length
  given : ∀ f ∈ d.given, f.owner < d.made.length
  portable : ∀ code, d.kept = some code → Portable code

theorem Sound.give (h : d.Sound) (hk : k < d.made.length) : (d.give k).2.Sound := by
  unfold Deposit.give
  split
  · refine ⟨h.current, fun f hf => ?_, h.portable⟩
    obtain hf | hf := List.mem_append.1 hf
    · exact h.given f hf
    · obtain rfl := List.mem_singleton.1 hf
      exact hk
  · exact h

theorem Sound.make (h : d.Sound) (m : Script.Module) : (d.make m).Sound := by
  refine ⟨fun k hk => ?_, fun f hf => ?_, h.portable⟩
  · obtain rfl : d.made.length = k := Option.some.inj hk
    simp [Deposit.make]
  · have := h.given f hf
    simp only [Deposit.make, List.length_append, List.length_singleton]
    omega

theorem Sound.leave (h : d.Sound) (k : Nat) (s : Script.State) : (d.leave k s).Sound :=
  ⟨by simpa [Deposit.leave] using h.current, by simpa [Deposit.leave] using h.given, h.portable⟩

end Deposit

/-- What a session has under each reference is what the deposit has. The modules made there are among
those of the workspace, where each has a number of its own. -/
structure Mirrors (stores : List Store) (x : Session) (d : Depot) (number : Spot → Nat → Nat) :
    Prop where
  has : ∀ (p : Spot) (s : Store), stores[p.store]? = some s → s.Takes p.identity →
    s.Has x.world p.identity (d p).kept ((d p).current.map (number p))
  sound : ∀ p, (d p).Sound
  made : ∀ p k m, (d p).made[k]? = some m →
    ∃ m', x.world.modules[number p k]? = some m' ∧ m.Agrees originNames m'
  distinct : ∀ p q k l, k < (d p).made.length → l < (d q).made.length →
    number p k = number q l → p = q ∧ k = l
  given : ∀ p, x.given p = (d p).given.map fun f => ⟨number p f.owner, f.function⟩

/-- An answer and what follows are told by a deposit. Modules that had a number keep it. -/
def Follows (stores : List Store) (d : Depot) (number : Spot → Nat → Nat) (s : Store) (p : Spot)
    (r : Answer × Session) (e : Answer × Deposit) : Prop :=
  ∃ number' : Spot → Nat → Nat,
    (∀ q k, k < (d q).made.length → number' q k = number q k) ∧
    r.1 = (e.1.because s.absence).numbered (number' p) ∧
    Mirrors stores r.2 (Function.update d p e.2) number'

def AllApart (stores : List Store) : Prop := stores.Pairwise Store.Apart

variable {stores : List Store} {x : Session} {d : Depot} {number : Spot → Nat → Nat} {s s' : Store}
  {p q : Spot} {w : Workspace} {k : Nat}

theorem apartAt (ha : AllApart stores) (hs : stores[p.store]? = some s)
    (hs' : stores[q.store]? = some s') (ht : s.Takes p.identity) (ht' : s'.Takes q.identity)
    (hne : p ≠ q) : s.ApartAt p.identity s' q.identity := by
  obtain ⟨hi, rfl⟩ := List.getElem?_eq_some_iff.1 hs
  obtain ⟨hj, rfl⟩ := List.getElem?_eq_some_iff.1 hs'
  obtain hlt | heq | hlt := Nat.lt_trichotomy p.store q.store
  · exact (List.pairwise_iff_getElem.1 ha _ _ hi hj hlt).at ht ht'
  · have hidentity : p.identity ≠ q.identity := fun he => hne (by
      cases p
      cases q
      simp_all)
    simp only [heq] at ht ⊢
    exact Store.apartAt_of_ne hidentity ht ht'
  · exact (List.pairwise_iff_getElem.1 ha _ _ hj hi hlt).symm.at ht ht'

theorem field_update {α : Type} (field : Deposit → α) (e : Deposit) (he : field e = field (d p))
    (q : Spot) : field (Function.update d p e q) = field (d q) := by
  by_cases hq : q = p
  · rw [hq, Function.update_self, he]
  · rw [Function.update_of_ne hq]

theorem sound_update (h : ∀ q, (d q).Sound) {e : Deposit} (he : e.Sound) (q : Spot) :
    (Function.update d p e q).Sound := by
  by_cases hq : q = p
  · rw [hq, Function.update_self]
    exact he
  · rw [Function.update_of_ne hq]
    exact h q

def addNumber (number : Spot → Nat → Nat) (p : Spot) (k n : Nat) : Spot → Nat → Nat :=
  Function.update number p (Function.update (number p) k n)

theorem addNumber_self (number : Spot → Nat → Nat) (p : Spot) (k n : Nat) :
    addNumber number p k n p k = n := by
  rw [addNumber, Function.update_self, Function.update_self]

theorem addNumber_of_ne {number : Spot → Nat → Nat} {k l n : Nat} (h : ¬ (q = p ∧ l = k)) :
    addNumber number p k n q l = number q l := by
  by_cases hq : q = p
  · subst hq
    rw [addNumber, Function.update_self, Function.update_of_ne fun hl => h ⟨rfl, hl⟩]
  · rw [addNumber, Function.update_of_ne hq]

theorem addNumber_of_lt (d : Depot) (number : Spot → Nat → Nat) (p : Spot) (n : Nat) {l : Nat}
    (h : l < (d q).made.length) : addNumber number p (d p).made.length n q l = number q l := by
  refine addNumber_of_ne fun he => ?_
  rw [he.1, he.2] at h
  exact Nat.lt_irrefl _ h

theorem made_or_new (d : Depot) {m : Script.Module} {l : Nat}
    (h : l < (Function.update d p ((d p).make m) q).made.length) :
    l < (d q).made.length ∨ (q = p ∧ l = (d p).made.length) := by
  by_cases hq : q = p
  · subst hq
    simp only [Function.update_self, Deposit.make, List.length_append, List.length_singleton] at h
    obtain hlt | heq := Nat.lt_or_eq_of_le (Nat.le_of_lt_succ h)
    · exact .inl hlt
    · exact .inr ⟨rfl, heq⟩
  · rw [Function.update_of_ne hq] at h
    exact .inl h

namespace Mirrors

theorem number_lt (h : Mirrors stores x d number) (hk : k < (d p).made.length) :
    number p k < x.world.modules.size := by
  obtain ⟨m', hm', -⟩ := h.made p k _ (List.getElem?_eq_getElem hk)
  exact Workspace.Keeps.lt_size hm'

theorem has_update (h : Mirrors stores x d number) (ha : AllApart stores)
    (hs : stores[p.store]? = some s) (ht : s.Takes p.identity) {code? : Option Text}
    {number? : Option Nat} (hw : s.Leaves p.identity x.world w code? number?) {e : Deposit}
    {number' : Spot → Nat → Nat} (hkept : e.kept = code?)
    (hcurrent : e.current.map (number' p) = number?)
    (hsame : ∀ q k, k < (d q).made.length → number' q k = number q k) :
    ∀ (q : Spot) (s' : Store), stores[q.store]? = some s' → s'.Takes q.identity →
      s'.Has w q.identity (Function.update d p e q).kept
        ((Function.update d p e q).current.map (number' q)) := by
  intro q s' hs' ht'
  by_cases hq : q = p
  · subst hq
    obtain rfl : s = s' := Option.some.inj (hs.symm.trans hs')
    rw [Function.update_self, hkept, hcurrent]
    exact hw.has
  · have hnumbers : (d q).current.map (number' q) = (d q).current.map (number q) := by
      cases hc : (d q).current with
      | none => rfl
      | some k => exact congrArg some (hsame q k ((h.sound q).current k hc))
    rw [Function.update_of_ne hq, hnumbers]
    exact hw.elsewhere _ _ _ _ (apartAt ha hs hs' ht ht' (Ne.symm hq)) (h.has q s' hs' ht')

theorem leave (h : Mirrors stores x d number) (ha : AllApart stores)
    (hs : stores[p.store]? = some s) (ht : s.Takes p.identity) {e : Deposit}
    (hw : s.Leaves p.identity x.world w e.kept (e.current.map (number p))) (he : e.Sound)
    (hmade : e.made = (d p).made) (hgiven : e.given = (d p).given) :
    Mirrors stores (x.leave w) (Function.update d p e) number where
  has := h.has_update ha hs ht hw rfl rfl fun _ _ _ => rfl
  sound := sound_update h.sound he
  made q k m hm := by
    rw [field_update Deposit.made _ hmade] at hm
    obtain ⟨m', hm', hagrees⟩ := h.made q k m hm
    exact ⟨m', by rw [Session.leave, hw.modules, hm'], hagrees⟩
  distinct q r k l hk hl := by
    rw [field_update Deposit.made _ hmade] at hk hl
    exact h.distinct q r k l hk hl
  given q := by
    rw [field_update Deposit.given _ hgiven]
    exact h.given q

theorem give (h : Mirrors stores x d number) (hk : k < (d p).made.length) (ref : Text) :
    (x.receive p ((Store.runnable ref (number p k)).exec x.world)).1 =
        (((d p).give k).1.because s.absence).numbered (number p) ∧
      Mirrors stores (x.receive p ((Store.runnable ref (number p k)).exec x.world)).2
        (Function.update d p ((d p).give k).2) number := by
  obtain ⟨m', hm', hagrees⟩ := h.made p k _ (List.getElem?_eq_getElem hk)
  have hname : Generated.renderName ∉ originNames := by decide
  have hfunction : (d p).made[k]?.bind (fun m => m.function? Generated.renderName) =
      m'.function? Generated.renderName := by
    rw [List.getElem?_eq_getElem hk, Option.bind_some, hagrees.function? hname]
  have hsound := (h.sound p).give hk
  have hmade := (d p).made_give k
  unfold Deposit.give at hsound hmade ⊢
  simp only [Store.runnable, exec_bind, exec_get, hm', Option.bind_some]
  rw [hfunction] at hsound hmade ⊢
  cases hv : m'.function? Generated.renderName with
  | none =>
    refine ⟨rfl, ?_⟩
    rw [Function.update_eq_self]
    exact h
  | some v =>
    rw [hv] at hsound hmade
    refine ⟨rfl, ⟨fun q s' hs' ht' => ?_, sound_update h.sound hsound, fun q l m hm => ?_,
      fun q r l n hl hn => ?_, fun q => ?_⟩⟩
    · rw [field_update Deposit.kept { d p with given := (d p).given ++ [⟨k, v⟩] } rfl,
        field_update Deposit.current { d p with given := (d p).given ++ [⟨k, v⟩] } rfl]
      exact h.has q s' hs' ht'
    · rw [field_update Deposit.made _ hmade] at hm
      exact h.made q l m hm
    · rw [field_update Deposit.made _ hmade] at hl hn
      exact h.distinct q r l n hl hn
    · by_cases he : q = p
      · subst he
        simp [Session.receive, h.given q]
      · rw [Function.update_of_ne he]
        exact (Function.update_of_ne he _ _).trans (h.given q)

theorem push (h : Mirrors stores x d number) (m : Script.Module) :
    Mirrors stores (x.leave { x.world with modules := x.world.modules.push m }) d number where
  has p s hs ht := (h.has p s hs ht).of_same rfl rfl rfl
  sound := h.sound
  made p k m₀ hm := by
    obtain ⟨m', hm', hagrees⟩ := h.made p k m₀ hm
    have hlt := Workspace.Keeps.lt_size hm'
    exact ⟨m', by simpa [Session.leave, Array.getElem?_push, Nat.ne_of_lt hlt] using hm', hagrees⟩
  distinct := h.distinct
  given := h.given

/-- The module that was made last has the number that comes next. -/
theorem make (h : Mirrors stores x d number) (ha : AllApart stores)
    (hs : stores[p.store]? = some s) (ht : s.Takes p.identity) {m m' : Script.Module}
    (hagrees : m.Agrees originNames m')
    (hw : s.Leaves p.identity { x.world with modules := x.world.modules.push m' } w (d p).kept
      (some x.world.modules.size)) :
    Mirrors stores (x.leave w) (Function.update d p ((d p).make m))
      (addNumber number p (d p).made.length x.world.modules.size) where
  has := (h.push m').has_update ha hs ht hw rfl
    (congrArg some (addNumber_self number p _ _)) fun q k hk => addNumber_of_lt d number p _ hk
  sound := sound_update h.sound ((h.sound p).make m)
  made q k m₀ hm := by
    have hmodules : (x.leave w).world.modules = x.world.modules.push m' := hw.modules
    obtain ⟨hk, -⟩ := List.getElem?_eq_some_iff.1 hm
    rw [hmodules]
    obtain hold | ⟨rfl, rfl⟩ := made_or_new d hk
    · have hm₀ : (d q).made[k]? = some m₀ := by
        by_cases hq : q = p
        · subst hq
          rwa [Function.update_self, Deposit.make, List.getElem?_append_left hold] at hm
        · rwa [Function.update_of_ne hq] at hm
      rw [addNumber_of_lt d number p _ hold]
      exact (h.push m').made q k m₀ hm₀
    · obtain rfl : m = m₀ := by simpa [Deposit.make] using hm
      exact ⟨m', by rw [addNumber_self]; simp, hagrees⟩
  distinct q r k l hk hl heq := by
    obtain hqk | ⟨rfl, rfl⟩ := made_or_new d hk
    · rw [addNumber_of_lt d number p _ hqk] at heq
      obtain hrl | ⟨rfl, rfl⟩ := made_or_new d hl
      · rw [addNumber_of_lt d number p _ hrl] at heq
        exact h.distinct q r k l hqk hrl heq
      · rw [addNumber_self] at heq
        exact absurd heq (Nat.ne_of_lt (h.number_lt hqk))
    · rw [addNumber_self] at heq
      obtain hrl | ⟨rfl, rfl⟩ := made_or_new d hl
      · rw [addNumber_of_lt d number q _ hrl] at heq
        exact absurd heq.symm (Nat.ne_of_lt (h.number_lt hrl))
      · exact ⟨rfl, rfl⟩
  given q := by
    rw [field_update Deposit.given ((d p).make m) rfl, Session.leave]
    refine (h.given q).trans (List.map_congr_left fun f hf => ?_)
    rw [addNumber_of_lt d number p _ ((h.sound q).given f hf)]

theorem leaveModule (h : Mirrors stores x d number) (hk : k < (d p).made.length)
    {t t' : Script.State} (ht : t.Agrees originNames t') :
    Mirrors stores (x.leave (x.world.leave (number p k) t'))
      (Function.update d p ((d p).leave k t)) number where
  has q s' hs' ht' := by
    rw [field_update Deposit.kept ((d p).leave k t) rfl,
      field_update Deposit.current ((d p).leave k t) rfl]
    exact (h.has q s' hs' ht').of_same rfl rfl rfl
  sound := sound_update h.sound ((h.sound p).leave k t)
  made q l m hm := by
    have hlt := h.number_lt hk
    by_cases hql : q = p ∧ l = k
    · obtain ⟨rfl, rfl⟩ := hql
      rw [Function.update_self, Deposit.leave, List.getElem?_set_self hk] at hm
      obtain rfl := Option.some.inj hm
      refine ⟨⟨{ t' with printed := [] }⟩, ?_, ?_⟩
      · simp [Session.leave, Workspace.leave, hlt]
      · exact ⟨ht.heap, ht.handled, rfl, ht.globals, ht.closures⟩
    · have hm' : (d q).made[l]? = some m := by
        by_cases hq : q = p
        · subst hq
          have hl : k ≠ l := fun he => hql ⟨rfl, he.symm⟩
          rwa [Function.update_self, Deposit.leave, List.getElem?_set_ne hl] at hm
        · rwa [Function.update_of_ne hq] at hm
      obtain ⟨m', hat, hagrees⟩ := h.made q l m hm'
      obtain ⟨hl, -⟩ := List.getElem?_eq_some_iff.1 hm'
      have hne : number p k ≠ number q l := fun he => hql (by
        obtain ⟨rfl, rfl⟩ := h.distinct p q k l hk hl he
        exact ⟨rfl, rfl⟩)
      exact ⟨m', by simpa [Session.leave, Workspace.leave, Array.getElem?_setIfInBounds, hne] using hat,
        hagrees⟩
  distinct q r l n hl hn := by
    have hlength : ((d p).leave k t).made.length = (d p).made.length := List.length_set ..
    rw [field_update (fun e => e.made.length) _ hlength] at hl hn
    exact h.distinct q r l n hl hn
  given q := by
    rw [field_update Deposit.given ((d p).leave k t) rfl]
    exact h.given q

end Mirrors

theorem because_ofFault (c : LoadCause) (f : Script.LoadFault) :
    (Answer.failed (.ofFault f)).because c = .failed (.ofFault f) := by
  cases f with
  | program f => cases f <;> rfl
  | raised e heap => rfl
  | endless => rfl

section Step

variable (h : Mirrors stores x d number) (ha : AllApart stores) (hs : stores[p.store]? = some s)
  (ht : s.Takes p.identity)
include h ha hs ht

theorem follows_persist (hcode : Portable code) :
    Follows stores d number s p (x.perform s p (.persist code)) ((d p).step (.persist code)) := by
  obtain ⟨w, hexec, hleaves⟩ := Store.persist_leaves ht (h.has p s hs ht) code
  have hperform : x.perform s p (.persist code) = (.kept true, x.leave w) := by
    simp [Session.perform, hexec]
  have hsound : ((d p).step (.persist code)).2.Sound :=
    ⟨(h.sound p).current, (h.sound p).given, fun c hc => Option.some.inj hc ▸ hcode⟩
  rw [hperform]
  exact ⟨number, fun _ _ _ => rfl, rfl, h.leave ha hs ht hleaves hsound rfl rfl⟩

theorem follows_unload :
    Follows stores d number s p (x.perform s p .unload) ((d p).step .unload) := by
  obtain ⟨w, hexec, hleaves⟩ := Store.unload_leaves ht (h.has p s hs ht)
  have hperform : x.perform s p .unload = (.done, x.leave w) := by
    simp [Session.perform, hexec, Answer.ofUnit]
  have hsound : ((d p).step .unload).2.Sound :=
    ⟨fun k hk => by simp [Deposit.step] at hk, (h.sound p).given, (h.sound p).portable⟩
  rw [hperform]
  exact ⟨number, fun _ _ _ => rfl, rfl, h.leave ha hs ht hleaves hsound rfl rfl⟩

theorem follows_remove :
    Follows stores d number s p (x.perform s p .remove) ((d p).step .remove) := by
  obtain ⟨w, hexec, hleaves⟩ := Store.remove_leaves ht (h.has p s hs ht)
  have hperform : x.perform s p .remove = (.done, x.leave w) := by
    simp [Session.perform, hexec, Answer.ofUnit]
  have hsound : ((d p).step .remove).2.Sound :=
    ⟨fun k hk => by simp [Deposit.step] at hk, (h.sound p).given,
      fun c hc => by simp [Deposit.step] at hc⟩
  rw [hperform]
  exact ⟨number, fun _ _ _ => rfl, rfl, h.leave ha hs ht hleaves hsound rfl rfl⟩

theorem follows_load : Follows stores d number s p (x.perform s p .load) ((d p).step .load) := by
  have hhas := h.has p s hs ht
  rw [Session.perform, Deposit.step]
  -- the store has a module in use, and code, where the deposit has, so both go the same way
  cases hcurrent : (d p).current with
  | some k =>
    rw [hcurrent] at hhas
    rw [Store.load_loaded ht hhas]
    obtain ⟨hanswer, hmirrors⟩ := h.give (s := s) ((h.sound p).current k hcurrent)
      (s.refOf p.identity)
    exact ⟨number, fun _ _ _ => rfl, hanswer, hmirrors⟩
  | none =>
    rw [hcurrent] at hhas
    dsimp only
    cases hkept : (d p).kept with
    | none =>
      rw [hkept] at hhas
      rw [Store.load_absent ht hhas]
      refine ⟨number, fun _ _ _ => rfl, rfl, ?_⟩
      rw [Function.update_eq_self]
      exact h
    | some code =>
      rw [hkept] at hhas
      rw [Store.load_kept ht hhas]
      have hcode := (h.sound p).portable code hkept
      dsimp only
      obtain ⟨f, f', hf, hf', hagrees⟩ | ⟨m, m', hm, hm', hagrees⟩ :=
        hcode.load s (s.refOf p.identity)
      · obtain ⟨hcause, hordinary⟩ := hcode.ofFault hf hagrees (s.refOf p.identity)
        rw [Store.instantiate_fault ht hf' hordinary, hcause, hf]
        refine ⟨number, fun _ _ _ => rfl, ?_, ?_⟩
        · rw [because_ofFault]
          rfl
        · rw [Function.update_eq_self]
          exact h
      · obtain ⟨w, hexec, hleaves⟩ := Store.instantiate_leaves ht hhas hm'
        have hmake := h.make ha hs ht hagrees (hkept ▸ hleaves)
        have hlast : (d p).made.length <
            (Function.update d p ((d p).make m) p).made.length := by
          simp [Deposit.make]
        obtain ⟨hanswer, hmirrors⟩ := hmake.give (s := s) hlast (s.refOf p.identity)
        rw [addNumber_self, Function.update_self] at hanswer hmirrors
        rw [Function.update_idem] at hmirrors
        rw [hexec, hm]
        exact ⟨_, fun q k hk => addNumber_of_lt d number p _ hk, hanswer, hmirrors⟩

end Step

theorem follows_call (h : Mirrors stores x d number) (k : Nat) (arguments : List Data) :
    Follows stores d number s p (x.perform s p (.call k arguments))
      ((d p).step (.call k arguments)) := by
  rw [Session.perform, Deposit.step, h.given p, List.getElem?_map]
  cases hf : (d p).given[k]? with
  | none =>
    refine ⟨number, fun _ _ _ => rfl, rfl, ?_⟩
    rw [Function.update_eq_self]
    exact h
  | some f =>
    have howner := (h.sound p).given f (List.mem_of_getElem? hf)
    have hm := List.getElem?_eq_getElem howner
    obtain ⟨m', hm', hagrees⟩ := h.made p f.owner _ hm
    have hcall := hagrees.call f.function arguments
    have hexec := exec_call (f := ⟨number p f.owner, f.function⟩) hm' arguments
    have hprinted : ∀ t : Script.State, (x.world.leave (number p f.owner) t).printed.drop
        x.world.printed.length = t.printed := fun t => List.drop_left
    simp only [Option.map_some, hexec, Deposit.call, hm]
    generalize ((d p).made[f.owner]).call f.function arguments = o at hcall
    generalize m'.call f.function arguments = o' at hcall
    cases hcall with
    | done v hagrees =>
      refine ⟨number, fun _ _ _ => rfl, ?_, h.leaveModule howner hagrees⟩
      simp only [hprinted, Answer.ofCall, hagrees.heap, hagrees.printed]
      rfl
    | raised e hagrees =>
      refine ⟨number, fun _ _ _ => rfl, ?_, h.leaveModule howner hagrees⟩
      simp only [hprinted, Answer.ofCall, hagrees.heap, hagrees.printed]
      rfl
    | exhausted =>
      refine ⟨number, fun _ _ _ => rfl, rfl, ?_⟩
      rw [Function.update_eq_self]
      exact h

/-- An order that a store can carry out: the identity and the code are such that files can hold them. -/
structure Order.Proper (stores : List Store) (o : Order) : Prop where
  store : ∃ s, stores[o.spot.store]? = some s ∧ s.Takes o.spot.identity
  code : ∀ code, o.task = .persist code → Portable code

def Answer.seenAt (stores : List Store) (p : Spot) (a : Answer) : Answer :=
  match stores[p.store]? with
  | some s => a.because s.absence
  | none => a

variable {o : Order} {os : List Order}

theorem follows_step (h : Mirrors stores x d number) (ha : AllApart stores)
    (ho : o.Proper stores) : ∃ number' : Spot → Nat → Nat,
      (∀ q k, k < (d q).made.length → number' q k = number q k) ∧
      (x.step stores o).1 = ((d.step o).1.seenAt stores o.spot).numbered (number' o.spot) ∧
      Mirrors stores (x.step stores o).2 (d.step o).2 number' := by
  obtain ⟨s, hs, ht⟩ := ho.store
  have hfollows : Follows stores d number s o.spot (x.perform s o.spot o.task)
      ((d o.spot).step o.task) := by
    cases htask : o.task with
    | persist code => exact follows_persist h ha hs ht (ho.code code htask)
    | load => exact follows_load h ha hs ht
    | unload => exact follows_unload h ha hs ht
    | remove => exact follows_remove h ha hs ht
    | call k arguments => exact follows_call h k arguments
  have hstep : x.step stores o = x.perform s o.spot o.task := by rw [Session.step, hs]
  have hseen : ∀ a : Answer, a.seenAt stores o.spot = a.because s.absence := fun a => by
    rw [Answer.seenAt, hs]
  rw [hstep, hseen]
  exact hfollows

theorem seenAt_given (p : Spot) (f : Runnable) : (Answer.given f).seenAt stores p = .given f := by
  unfold Answer.seenAt
  split <;> rfl

theorem numbered_congr {a : Answer} {m n : Nat → Nat}
    (h : ∀ f, a = .given f → m f.owner = n f.owner) :
    (a.seenAt stores p).numbered m = (a.seenAt stores p).numbered n := by
  cases a with
  | given f => simp only [seenAt_given, Answer.numbered, h f rfl]
  | failed c =>
    unfold Answer.seenAt
    split
    · cases c <;> rfl
    · rfl
  | _ =>
    unfold Answer.seenAt
    split <;> rfl

theorem Depot.length_le_after (d : Depot) (os : List Order) (q : Spot) :
    (d q).made.length ≤ (d.after os q).made.length := by
  induction os generalizing d with
  | nil => exact Nat.le_refl _
  | cons o os ih =>
    refine Nat.le_trans ?_ (ih (d.step o).2)
    by_cases hq : q = o.spot
    · subst hq
      simp only [Depot.step, Function.update_self]
      exact (d o.spot).length_le_step o.task
    · rw [Depot.step_apply_of_ne d (Ne.symm hq)]

/-- A session answers what the deposits tell, with other numbers for the modules. -/
theorem answers_eq (h : Mirrors stores x d number) (ha : AllApart stores)
    (hos : ∀ o ∈ os, o.Proper stores) : ∃ number' : Spot → Nat → Nat,
      (∀ q k, k < (d q).made.length → number' q k = number q k) ∧
      (∀ p q k l, k < (d.after os p).made.length → l < (d.after os q).made.length →
        number' p k = number' q l → p = q ∧ k = l) ∧
      (∀ p f, (p, .given f) ∈ d.answers os → f.owner < (d.after os p).made.length) ∧
      x.answers stores os =
        (d.answers os).map fun a => (a.2.seenAt stores a.1).numbered (number' a.1) := by
  induction os generalizing x d number with
  | nil => exact ⟨number, fun _ _ _ => rfl, h.distinct, fun _ _ hf => by simp [Depot.answers] at hf, rfl⟩
  | cons o os ih =>
    obtain ⟨n, hn, hanswer, hmirrors⟩ := follows_step h ha (hos o (by simp))
    obtain ⟨n', hn', hdistinct, howners, hrest⟩ :=
      ih hmirrors fun o' ho' => hos o' (List.mem_cons_of_mem o ho')
    -- a function that the first order gives is one of a module made by then
    have howner : ∀ f, (d.step o).1 = .given f → f.owner < ((d.step o).2 o.spot).made.length := by
      intro f hf
      have hmem := Deposit.mem_given_of_step (d := d o.spot) (t := o.task) hf
      have hgiven := (hmirrors.sound o.spot).given f
      simp only [Depot.step, Function.update_self] at hgiven ⊢
      exact hgiven hmem
    refine ⟨n', fun q k hk => ?_, hdistinct, fun p f hf => ?_, ?_⟩
    · have hlater := Depot.length_le_after d [o] q
      rw [hn' q k (Nat.lt_of_lt_of_le hk hlater), hn q k hk]
    · obtain hf | hf := List.mem_cons.1 hf
      · obtain ⟨rfl, hgiven⟩ := Prod.mk.inj hf
        exact Nat.lt_of_lt_of_le (howner f hgiven.symm) (Depot.length_le_after _ os _)
      · exact howners p f hf
    · rw [Session.answers, Depot.answers, List.map_cons, hrest, hanswer]
      exact congrArg (· :: _) (numbered_congr fun f hf => (hn' o.spot f.owner (howner f hf)).symm)

end TemplateEngine.Keeping
