import TemplateEngine.Proofs.Confined.Statements
import TemplateEngine.Proofs.Generated.Showing

set_option autoImplicit false

/-!
# States of a generated function without its output

Where the function of a generated module runs, the same expressions may run in a state without the list
for the output. Two such states are paired: they are the same but for the list and for the function that
renders, and in none of them expressions get at what the function uses itself. What a state collects
shows only in the list.
-/
namespace TemplateEngine

open Script

namespace Script

variable {hidden : Reserved} {secret : List Address} {s t : State} {a : Address}

theorem State.Keeps.object? {o : Object} (h : s.Keeps hidden secret t) (ha : a ∈ secret)
    (ho : s.heap.object? a = some o) (hno : ∀ c, o ≠ .scope c) : t.heap.object? a = some o := by
  obtain ⟨o', ho', hkeeps⟩ := h.heap.objects a ha o ho
  cases hkeeps with
  | same => exact ho'
  | scope => exact absurd rfl (hno _)

theorem State.Keeps.scope? {c : Scope} (h : s.Keeps hidden secret t) (ha : a ∈ secret)
    (hc : s.heap.scope? a = some c) : ∃ d, t.heap.scope? a = some d ∧ d.outer = c.outer ∧
      ∀ n ∈ hidden.kept, d.bindings.find? n = c.bindings.find? n := by
  obtain ⟨o', ho', hkeeps⟩ := h.heap.objects a ha _ (Heap.scope?_eq_some.1 hc)
  cases hkeeps with
  | same => exact ⟨c, Heap.scope?_eq_some.2 ho', rfl, fun _ _ => rfl⟩
  | scope outer bindings => exact ⟨_, Heap.scope?_eq_some.2 ho', outer, bindings⟩

theorem ExceptionClass.name_ne_str (c : ExceptionClass) : c.name ≠ TypeName.str.name := by
  have htable : ∀ e ∈ table, e.1 ≠ "str" := by decide
  have hname : TypeName.str.name = "str".toList := rfl
  rw [hname, name]
  split
  · next e he => exact fun heq => htable e (List.mem_of_find?_eq_some he) (String.toList_injective heq)
  · decide

/-- Values that lead to no secret are texts if they have the type of texts. -/
theorem Value.Apart.isPlain {v : Value} (h : v.Apart secret) : v.IsPlain := by
  cases v with
  | text x id => exact fun _ => ⟨x, id, rfl⟩
  | iterator k i =>
    cases k with
    | str => exact absurd rfl h.2
    | _ => exact isPlain_of_not_belongs rfl
  | view k i id => cases k <;> exact isPlain_of_not_belongs rfl
  | exception c vs id => exact isPlain_of_not_belongs (decide_eq_false c.name_ne_str)
  | _ => exact isPlain_of_not_belongs rfl

variable {s' : State}

theorem State.Extended.matches (h : State.Extended (Value.Apart secret) s t)
    (hs : s.Matches hidden secret s) : t.Matches hidden secret t := by
  have hold : ∀ i, i ∈ secret → t.heap.object? i = s.heap.object? i := fun i hi =>
    h.kept i (hs.heap.known i hi)
  refine ⟨⟨rfl, rfl, rfl, fun i hi => Nat.lt_of_lt_of_le (hs.heap.known i hi) h.size, ?_, ?_⟩, rfl, rfl,
    fun _ _ => rfl, fun n v hn hv => hs.apart n v hn (by rw [← h.globals]; exact hv)⟩
  · intro i o hi ho
    refine ⟨o, ho, ?_⟩
    by_cases hlt : i < s.heap.objects.size
    · obtain ⟨o', ho', halike⟩ := hs.heap.objects i o hi ((h.kept i hlt).symm.trans ho)
      rwa [Option.some.inj (ho'.symm.trans ((h.kept i hlt).symm.trans ho))] at halike
    · obtain ⟨c, rfl, -, hc⟩ := h.added i o (Nat.le_of_not_lt hlt) ho
      exact .scope ⟨rfl, fun _ _ => rfl, fun n v _ hv => hc n v hv⟩
  · intro i hi
    have := hs.heap.scopes i hi
    simpa only [Heap.scope?, hold i hi] using this

theorem State.Extended.keeps {P : Value → Prop} (h : State.Extended P s t)
    (hs : ∀ i ∈ secret, i < s.heap.objects.size) : s.Keeps hidden secret t :=
  ⟨.of_objects h.depth fun i hi => h.kept i (hs i hi), h.handled, h.globals⟩

end Script

namespace Generated

def outputNames : List Text := [bufferName, renderName]

def ownNames : List Text := [bufferName, escapeName, renderName, entityName]

/-- The names that no variable of a template may have: those that generated code looks up. -/
def calledNames : List Text := Compile.textCall :: ownNames

/-- What is left alone because it is different in paired states. -/
def outputReserved : Reserved := ⟨outputNames, outputNames⟩

def ownReserved : Reserved := ⟨ownNames, calledNames⟩

/-- The objects that are different in paired states: the list, the variables of the function that renders
and the function. -/
def outputObjects (b : Address) : List Address := [b + 1, b, 0]

/-- The objects that expressions do not get at: the variables of the function that renders, the table of
entities and the functions of the module. -/
def ownObjects (b : Address) : List Address := [b, 3, 1, 0]

/-- The first state is one of the function that renders, whose variables are at `b` and whose list for the
output holds a text; the second one is the same without the list. -/
structure Paired (b : Address) (x : Str) (s s' : State) : Prop where
  place : 4 ≤ b
  alike : s.Matches outputReserved (outputObjects b) s'
  sealed : s'.Matches ownReserved (ownObjects b) s'
  escapes : Escapes s' 1 3
  depth : s'.heap.depth = 1
  /-- The names of the functions that are called are no variables of the function that renders. -/
  free : ∃ c, s'.heap.scope? b = some c ∧ c.outer = none ∧
    ∀ escaped, c.bindings.find? (callName escaped) = none
  buffer : ∃ c, s.heap.scope? b = some c ∧ c.bindings.find? bufferName = some (some (.list (b + 1)))
  collected : ∃ items ts, s.heap.object? (b + 1) = some (.list items) ∧
    items.toList.mapM Value.needText = .ok ts ∧ ts.flatten = x

variable {b : Address} {x : Str} {s s' t t' : State}

theorem mem_calledNames_callName (escaped : Bool) : callName escaped ∈ calledNames := by
  cases escaped <;> decide

theorem not_mem_outputNames_callName (escaped : Bool) : callName escaped ∉ outputNames := by
  cases escaped <;> decide

theorem not_mem_outputNames {n : Text} (h : n ∉ ownNames) : n ∉ outputNames := fun hn =>
  h ((show ∀ n ∈ outputNames, n ∈ ownNames by decide) n hn)

theorem not_mem_ownNames {n : Text} (h : n ∉ calledNames) : n ∉ ownNames := fun hn =>
  h (List.mem_cons_of_mem _ hn)

namespace Paired

/-- Paired states go on to paired states where secrets are kept. -/
theorem step (h : Paired b x s s') (halike : t.Matches outputReserved (outputObjects b) t')
    (hkeeps : s.Keeps outputReserved (outputObjects b) t) (hsealed : t'.Matches ownReserved (ownObjects b) t')
    (hkeeps' : s'.Keeps ownReserved (ownObjects b) t') : Paired b x t t' where
  place := h.place
  alike := halike
  sealed := hsealed
  escapes := {
    escape := hkeeps'.globals ▸ h.escapes.escape
    special := hkeeps'.globals ▸ h.escapes.special
    entity := hkeeps'.globals ▸ h.escapes.entity
    str := hkeeps'.globals ▸ h.escapes.str
    isinstance := hkeeps'.globals ▸ h.escapes.isinstance
    closure := hkeeps'.object? (by simp [ownObjects]) h.escapes.closure nofun
    table := hkeeps'.object? (by simp [ownObjects]) h.escapes.table nofun }
  depth := hkeeps'.heap.depth.trans h.depth
  free := by
    obtain ⟨c, hc, houter, hfree⟩ := h.free
    obtain ⟨d, hd, houter', hsame⟩ := hkeeps'.scope? (by simp [ownObjects]) hc
    exact ⟨d, hd, houter'.trans houter, fun escaped =>
      (hsame _ (mem_calledNames_callName escaped)).trans (hfree escaped)⟩
  buffer := by
    obtain ⟨c, hc, hbuffer⟩ := h.buffer
    obtain ⟨d, hd, -, hsame⟩ := hkeeps.scope? (by simp [outputObjects]) hc
    exact ⟨d, hd, (hsame _ (by simp [outputReserved, outputNames])).trans hbuffer⟩
  collected := by
    obtain ⟨items, ts, ho, hts⟩ := h.collected
    exact ⟨items, ts, hkeeps.object? (by simp [outputObjects]) ho nofun, hts⟩

theorem spend (h : Paired b x s s') : Paired b x s.spend s'.spend :=
  h.step (h.alike.withHeap (h.alike.heap.withUnused (s.heap.unused + 1)) |> fun hs => by
      have hunused : s'.heap.unused = s.heap.unused := h.alike.heap.unused
      simpa only [State.spend, State.withUnused, hunused] using hs)
    (.withHeap (.of_objects rfl fun _ _ => rfl))
    (h.sealed.withHeap (h.sealed.heap.withUnused _)) (.withHeap (.of_objects rfl fun _ _ => rfl))

theorem collecting (h : Paired b x s s') : ∃ items ts, Collecting ⟨some b⟩ (b + 1) items s ∧
    items.toList.mapM Value.needText = .ok ts ∧ ts.flatten = x := by
  obtain ⟨items, ts, ho, hts⟩ := h.collected
  obtain ⟨c, hc, hbuffer⟩ := h.buffer
  refine ⟨items, ts, ⟨⟨b, ?_⟩, ho, ?_⟩, hts⟩
  · simp only [findVariable, hc, hbuffer]
  · have hdepth : s.heap.depth = 1 := h.alike.heap.depth.symm.trans h.depth
    rw [hdepth]
    decide

theorem collect (h : Paired b x s s') (y : Str) (id : Identity) :
    Paired b (x ++ y) (s.collect (b + 1) (.text y id)) s' := by
  obtain ⟨items, ts, ho, hts, rfl⟩ := h.collected
  have hsecret : b + 1 ∈ outputObjects b := by simp [outputObjects]
  have hsize : (s.collect (b + 1) (.text y id)).heap.objects.size = s.heap.objects.size := by
    simp [State.collect]
  have hother : ∀ i, i ≠ b + 1 →
      (s.collect (b + 1) (.text y id)).heap.objects[i]? = s.heap.objects[i]? := by
    intro i hi
    simp [State.collect, Array.getElem?_modify, Ne.symm hi]
  refine { h with alike := ?_, buffer := ?_, collected := ?_ }
  · refine ⟨⟨hsize ▸ h.alike.heap.size, h.alike.heap.unused, h.alike.heap.depth,
      fun i hi => hsize ▸ h.alike.heap.known i hi, fun i o hi hio => ?_, fun i hi => ?_⟩,
      h.alike.handled, h.alike.printed, h.alike.globals, h.alike.apart⟩
    · have hne : i ≠ b + 1 := fun hib => hi (hib ▸ hsecret)
      exact h.alike.heap.objects i o hi ((hother i hne).symm.trans hio)
    · rw [scope?_collect]
      exact h.alike.heap.scopes i hi
  · simpa only [scope?_collect] using h.buffer
  · refine ⟨items.push (.text y id), ts ++ [y], ?_, ?_, ?_⟩
    · rw [Heap.object?] at ho
      simp [Heap.object?, State.collect, Array.getElem?_modify, ho]
    · simp [List.mapM_append, hts, Value.needText, pure, Except.pure, bind, Except.bind]
    · simp

end Paired
end Generated
end TemplateEngine
