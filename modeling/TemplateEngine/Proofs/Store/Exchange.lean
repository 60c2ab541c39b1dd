import TemplateEngine.Proofs.Generated.LiteralText
import TemplateEngine.Proofs.Store.Following

set_option autoImplicit false

/-!
# Stores are interchangeable

Stores with nothing in them answer any orders as deposits do that begin with nothing, each reference by
itself. So a store in memory and one in files answer alike, and what is asked about one reference is of no
account to another one.
-/
namespace TemplateEngine

/-- Nothing is in the store yet. The work area of a store in files does not exist, but it can be made, and
no module has been loaded from it. -/
def Store.Fresh (w : Workspace) : Store → Prop
  | memory n => w.memories[n]? = some {}
  | files workArea => w.files.Clear workArea ∧ (∀ q, workArea <+: q → w.files.node? q = none) ∧
      ∀ identity, w.imported.find? (workArea.toText, identity) = none

theorem Store.Fresh.has {s : Store} {w : Workspace} {identity : Text} (h : s.Fresh w)
    (ht : s.Takes identity) : s.Has w identity none none := by
  cases s with
  | memory n => exact ⟨{}, h, rfl, rfl⟩
  | files workArea =>
    obtain ⟨hclear, hnothing, himported⟩ := h
    refine ⟨hclear, by simp, hnothing _ (List.prefix_append _ _), ?_⟩
    rw [Artifact.key_path ht.plain]
    exact himported identity

theorem Runnable.same_congr {f g f' g' : Runnable} (hf : f'.function = f.function)
    (hg : g'.function = g.function) (h : f'.owner = g'.owner ↔ f.owner = g.owner) :
    f'.same g' = f.same g := by
  have howner : decide (f'.owner = g'.owner) = decide (f.owner = g.owner) := by rw [decide_eq_decide, h]
  unfold Runnable.same
  rw [hf, hg, howner]

namespace Keeping

structure AllFresh (stores : List Store) (w : Workspace) : Prop where
  fresh : ∀ s ∈ stores, s.Fresh w
  apart : AllApart stores

def Depot.empty : Depot := fun _ => {}

theorem AllFresh.mirrors {stores : List Store} {w : Workspace} (h : AllFresh stores w) :
    Mirrors stores { world := w } Depot.empty fun _ _ => 0 where
  has _ s hs ht := (h.fresh s (List.mem_of_getElem? hs)).has ht
  sound _ := ⟨fun _ hk => by simp [Depot.empty] at hk, fun _ hf => by simp [Depot.empty] at hf,
    fun _ hc => by simp [Depot.empty] at hc⟩
  made _ _ _ hm := by simp [Depot.empty] at hm
  distinct _ _ _ _ hk _ _ := by simp [Depot.empty] at hk
  given _ := rfl

/-- The second answers say what the first ones say, each seen in another way, and functions are one and
the same in the one where they are in the other. -/
structure Alike (see : Answer → Answer) (as bs : List Answer) : Prop where
  answers : bs.map Answer.unnumbered = as.map fun a => (see a).unnumbered
  functions : ∀ (i j : Nat) (f g f' g' : Runnable), as[i]? = some (.given f) →
    as[j]? = some (.given g) → bs[i]? = some (.given f') → bs[j]? = some (.given g') →
    f'.same g' = f.same g

/-- Modules that were made under different references, or one after the other, have different numbers. -/
def Separates (number : Spot → Nat → Nat) (ts : List (Spot × Answer)) : Prop :=
  ∀ p q f g, (p, .given f) ∈ ts → (q, .given g) ∈ ts →
    number p f.owner = number q g.owner → p = q ∧ f.owner = g.owner

def spoken (stores : List Store) (number : Spot → Nat → Nat) (ts : List (Spot × Answer)) :
    List Answer := ts.map fun a => (a.2.seenAt stores a.1).numbered (number a.1)

def Told (stores : List Store) (os : List Order) (as : List Answer) : Prop :=
  ∃ number : Spot → Nat → Nat, Separates number (Depot.empty.answers os) ∧
    as = spoken stores number (Depot.empty.answers os)

variable {stores stores' : List Store} {number number' : Spot → Nat → Nat} {p : Spot}
  {ts : List (Spot × Answer)} {os : List Order} {w w' : Workspace} {f : Runnable} {i : Nat}

theorem unnumbered_numbered (a : Answer) (n : Nat → Nat) :
    (a.numbered n).unnumbered = a.unnumbered := by
  cases a <;> rfl

theorem eq_given_of_numbered {a : Answer} {n : Nat → Nat}
    (h : (a.seenAt stores p).numbered n = .given f) :
    ∃ g, a = .given g ∧ n g.owner = f.owner ∧ g.function = f.function := by
  cases a with
  | given g =>
    rw [seenAt_given] at h
    obtain rfl := Answer.given.inj h
    exact ⟨g, rfl, rfl, rfl⟩
  | failed c =>
    unfold Answer.seenAt at h
    split at h
    · cases c <;> simp [Answer.because, Answer.numbered] at h
    · simp [Answer.numbered] at h
  | _ =>
    unfold Answer.seenAt at h
    split at h <;> simp [Answer.because, Answer.numbered] at h

theorem told_of_spoken (h : (spoken stores number ts)[i]? = some (.given f)) :
    ∃ p g, ts[i]? = some (p, .given g) ∧ number p g.owner = f.owner ∧ g.function = f.function := by
  rw [spoken, List.getElem?_map, Option.map_eq_some_iff] at h
  obtain ⟨⟨p, a⟩, ha, h⟩ := h
  obtain ⟨g, rfl, ho, hf⟩ := eq_given_of_numbered h
  exact ⟨p, g, ha, ho, hf⟩

theorem alike_spoken {see : Answer → Answer} (h : Separates number ts)
    (h' : Separates number' ts)
    (hsee : ∀ a ∈ ts, ∀ n, (a.2.seenAt stores' a.1).unnumbered =
      (see ((a.2.seenAt stores a.1).numbered n)).unnumbered) :
    Alike see (spoken stores number ts) (spoken stores' number' ts) where
  answers := by
    simp only [spoken, List.map_map]
    refine List.map_congr_left fun a ha => ?_
    simp only [Function.comp_apply, unnumbered_numbered]
    exact hsee a ha _
  functions i j f g f' g' hf hg hf' hg' := by
    obtain ⟨p, f₀, hp, howner, hfunction⟩ := told_of_spoken hf
    obtain ⟨q, g₀, hq, gowner, gfunction⟩ := told_of_spoken hg
    obtain ⟨p', f₁, hp', howner', hfunction'⟩ := told_of_spoken hf'
    obtain ⟨q', g₁, hq', gowner', gfunction'⟩ := told_of_spoken hg'
    obtain ⟨rfl, rfl⟩ : p = p' ∧ f₀ = f₁ := by simpa using hp.symm.trans hp'
    obtain ⟨rfl, rfl⟩ : q = q' ∧ g₀ = g₁ := by simpa using hq.symm.trans hq'
    have hp := List.mem_of_getElem? hp
    have hq := List.mem_of_getElem? hq
    refine Runnable.same_congr (hfunction'.symm.trans hfunction) (gfunction'.symm.trans gfunction) ?_
    rw [← howner, ← gowner, ← howner', ← gowner']
    -- both numberings tell modules apart by reference and order of making
    refine ⟨fun he => ?_, fun he => ?_⟩
    · obtain ⟨rfl, hk⟩ := h' p q f₀ g₀ hp hq he
      rw [hk]
    · obtain ⟨rfl, hk⟩ := h p q f₀ g₀ hp hq he
      rw [hk]

theorem AllFresh.told (h : AllFresh stores w) (hos : ∀ o ∈ os, o.Proper stores) :
    Told stores os (serve stores w os) := by
  obtain ⟨number, -, hdistinct, howners, hanswers⟩ := answers_eq h.mirrors h.apart hos
  exact ⟨number, fun p q f g hf hg he => hdistinct p q _ _ (howners p f hf) (howners q g hg) he,
    hanswers⟩

def answersAt (p : Spot) (os : List Order) (as : List Answer) : List Answer :=
  ((os.zip as).filter fun e => e.1.spot = p).map Prod.snd

theorem answersAt_spoken (d : Depot) (p : Spot) (os : List Order) :
    answersAt p os (spoken stores number (d.answers os)) =
      spoken stores number (d.answers (os.filter fun o => o.spot = p)) := by
  rw [← Depot.answers_filter]
  induction os generalizing d with
  | nil => rfl
  | cons o os ih =>
    have hrest := ih (d.step o).2
    simp only [answersAt, spoken] at hrest
    by_cases hp : o.spot = p
    · simp [answersAt, spoken, Depot.answers, hp, hrest]
    · simp [answersAt, spoken, Depot.answers, hp, hrest]

theorem Told.alone {as bs : List Answer} (h : Told stores os as)
    (h' : Told stores (os.filter fun o => o.spot = p) bs) : Alike id (answersAt p os as) bs := by
  obtain ⟨n, hn, rfl⟩ := h
  obtain ⟨n', hn', rfl⟩ := h'
  rw [answersAt_spoken]
  refine alike_spoken (fun q r f g hf hg => ?_) hn' fun a _ n => (unnumbered_numbered _ n).symm
  rw [← Depot.answers_filter] at hf hg
  exact hn q r f g (List.mem_of_mem_filter hf) (List.mem_of_mem_filter hg)

theorem Told.unbroken {as : List Answer} (h : Told stores os as) (e : Failure) :
    .broken e ∉ as := by
  obtain ⟨n, -, rfl⟩ := h
  have hanswers : ∀ (d : Depot) (os : List Order), ∀ a ∈ d.answers os, a.2 ≠ .broken e := by
    intro d os
    induction os generalizing d with
    | nil => simp [Depot.answers]
    | cons o os ih =>
      intro a ha
      obtain rfl | ha := List.mem_cons.1 ha
      · exact Deposit.step_ne_broken _ _ e
      · exact ih _ a ha
  intro he
  obtain ⟨⟨p, a⟩, ha, he⟩ := List.mem_map.1 he
  have hne := hanswers _ _ _ ha
  cases a with
  | broken f =>
    unfold Answer.seenAt at he
    split at he <;> exact hne he
  | failed c =>
    unfold Answer.seenAt at he
    split at he
    · cases c <;> simp [Answer.because, Answer.numbered] at he
    · simp [Answer.numbered] at he
  | _ =>
    unfold Answer.seenAt at he
    split at he <;> simp [Answer.because, Answer.numbered] at he

open Script Generated

def Answer.cls? : Answer → Option ExceptionClass
  | .failed c => some c.cls
  | .broken (.file e) => some e.cls
  | _ => none

theorem Alike.classes {as bs : List Answer} {see : Answer → Answer} (h : Alike see as bs) :
    bs.map Answer.cls? = as.map fun a => (see a).cls? := by
  have hcls : ∀ a : Answer, a.unnumbered.cls? = a.cls? := fun a => by cases a <;> rfl
  have hmap := congrArg (List.map Answer.cls?) h.answers
  simpa [List.map_map, Function.comp_def, hcls] using hmap

end Keeping
end TemplateEngine
