import TemplateEngine.Proofs.Confined.Data
import TemplateEngine.Proofs.Generated.Calling
import TemplateEngine.Proofs.Template.Following

set_option autoImplicit false

/-!
# Where rendering starts

The function that renders starts with variables of its own and an empty list, which come onto the heap
behind all that the context leads to. So its start is paired with that of the interpretation.
-/
namespace TemplateEngine

open Script

namespace Script

variable {hidden : Reserved} {secret : List Address} {a : Address}

mutual

theorem Value.Apart.cons {v : Value} (ha : v.Apart [a]) (h : v.Apart secret) :
    v.Apart (a :: secret) := by
  have hmem : ∀ {b : Address}, b ∉ [a] → b ∉ secret → b ∉ a :: secret := fun hb hs => by
    simpa using ⟨List.ne_of_not_mem_cons hb, hs⟩
  cases v with
  | tuple vs id | frozenset vs id | exception c vs id => exact Value.AllApart.cons ha h
  | slice x y z id => exact ⟨ha.1.cons h.1, ha.2.1.cons h.2.1, ha.2.2.cons h.2.2⟩
  | method v m id => exact Value.Apart.cons (v := v) ha h
  | list b | dict b | view k b id | function b => exact hmem ha h
  | iterator k b => exact ⟨hmem ha.1 h.1, h.2⟩
  | _ => trivial

theorem Value.AllApart.cons {vs : List Value} (ha : Value.AllApart [a] vs)
    (h : Value.AllApart secret vs) : Value.AllApart (a :: secret) vs := by
  cases vs with
  | nil => trivial
  | cons v vs => exact ⟨ha.1.cons h.1, Value.AllApart.cons ha.2 h.2⟩

end

theorem Cursor.Apart.cons {c : Cursor} (ha : c.Apart [a]) (h : c.Apart secret) :
    c.Apart (a :: secret) := by
  have hmem : ∀ {b : Address}, b ∉ [a] → b ∉ secret → b ∉ a :: secret := fun hb hs => by
    simpa using ⟨List.ne_of_not_mem_cons hb, hs⟩
  cases c with
  | done | range i n k => trivial
  | items vs => exact fun v hv => (ha v hv).cons (h v hv)
  | list b i | backwards b i | dict k b m n i | iterator b | numbered i b => exact hmem ha h
  | zipped bs => exact fun b hb => hmem (ha b hb) (h b hb)

theorem Scope.Alike.cons {c d : Scope} (h : c.Alike hidden secret d)
    (ha : ∀ n v, c.bindings.find? n = some (some v) → v.Apart [a]) :
    c.Alike hidden (a :: secret) d :=
  ⟨h.outer, h.bindings, fun n v hn hv => (ha n v hv).cons (h.apart n v hn hv)⟩

theorem Object.Alike.cons {o o' : Object} (h : o.Alike hidden secret o') (ha : o.Apart [a]) :
    o.Alike hidden (a :: secret) o' := by
  cases h with
  | list h => exact .list fun v hv => (ha v hv).cons (h v hv)
  | dict h => exact .dict fun e he => ⟨(ha e he).1.cons (h e he).1, (ha e he).2.cons (h e he).2⟩
  | iterator h => exact .iterator (Cursor.Apart.cons ha h)
  | function h => exact .function ⟨fun p hp v hv => (ha p hp v hv).cons (h.defaults p hp v hv), h.body⟩
  | scope h => exact .scope (h.cons ha)

def Object.scope? : Object → Option Scope
  | .scope c => some c
  | _ => none

end Script

namespace Generated

variable {hidden : Reserved} {secret : List Address} {s s' : State} {o o' : Object}

theorem heap_push_scope? (s : State) (o : Object) (i : Address) : (push s o).heap.scope? i =
    if i = s.heap.objects.size then o.scope? else s.heap.scope? i := by
  unfold Heap.scope? Heap.object?
  simp only [push, Array.getElem?_push]
  by_cases hi : i = s.heap.objects.size
  · rw [if_pos hi, if_pos hi]
    cases o <;> rfl
  · rw [if_neg hi, if_neg hi]

theorem size_push (s : State) (o : Object) :
    (push s o).heap.objects.size = s.heap.objects.size + 1 := Array.size_push o

theorem matches_push_secret (h : s.Matches hidden secret s') (hs : s.Bounded)
    (ho : Option.Rel (Scope.Alike hidden (s.heap.objects.size :: secret)) o.scope? o'.scope?) :
    (push s o).Matches hidden (s.heap.objects.size :: secret) (push s' o') := by
  have hbehind : Behind s.heap.objects.size [s.heap.objects.size] := by
    intro i hi
    rw [List.mem_singleton.1 hi]
  have hsize := h.heap.size
  refine ⟨⟨?_, h.heap.unused, h.heap.depth, ?_, ?_, ?_⟩, h.handled, h.printed, h.globals,
    fun n v hn hv => (hs.globals n v _ hv hbehind).cons (h.apart n v hn hv)⟩
  · rw [size_push, size_push, hsize]
  · intro i hi
    rw [size_push]
    obtain rfl | hi := List.mem_cons.1 hi
    · exact Nat.lt_succ_self _
    · exact Nat.lt_succ_of_lt (h.heap.known i hi)
  · intro i p hi hp
    obtain ⟨hne, hi⟩ := not_or.1 fun h => hi (List.mem_cons.2 h)
    simp only [push, Array.getElem?_push, hsize, if_neg hne] at hp ⊢
    obtain ⟨p', hp', halike⟩ := h.heap.objects i p hi hp
    exact ⟨p', hp', halike.cons (hs.objects i p _ hp hbehind)⟩
  · intro i hi
    rw [heap_push_scope?, heap_push_scope?, hsize]
    by_cases hlast : i = s.heap.objects.size
    · rwa [if_pos hlast, if_pos hlast]
    · rw [if_neg hlast, if_neg hlast]
      have hscopes := h.heap.scope? i
      have hapart : ∀ c, s.heap.scope? i = some c → Object.Apart [s.heap.objects.size] (.scope c) :=
        fun c hc => hs.objects i _ _ (Heap.scope?_eq_some.1 hc) hbehind
      generalize s.heap.scope? i = c at hscopes hapart ⊢
      generalize s'.heap.scope? i = c' at hscopes ⊢
      cases hscopes with
      | none => exact .none
      | some halike => exact .some (halike.cons (hapart _ rfl))

theorem matches_push (h : s.Matches hidden secret s') (ho : o.Alike hidden secret o) :
    (push s o).Matches hidden secret (push s' o) := h.withHeap (h.heap.push ho)

section

variable {globals : Table Text Value} {param : Text} {body : List Stmt}

theorem apart_literalTable : literalTable.Apart secret :=
  Dictionary.apart_ofEntries fun e he => by
    obtain ⟨c, -, rfl⟩ := List.mem_map.1 he
    exact ⟨trivial, trivial⟩

theorem apart_entityTable : entityTable.Apart secret :=
  Dictionary.apart_ofEntries fun e he => by
    obtain ⟨c, -, rfl⟩ := List.mem_map.1 he
    exact ⟨trivial, trivial⟩

theorem apart_specialValue : specialValue.Apart secret := by
  refine (Value.apart_frozenset _ _).2 fun v hv => ?_
  obtain ⟨c, -, rfl⟩ := List.mem_map.1 hv
  trivial

theorem apart_escapeClosure : escapeClosure.Apart outputReserved secret where
  defaults := by simp [escapeClosure]
  body := ⟨show ∀ n ∈ Stmt.namesOfAll escapeBody, n ∉ outputNames by decide, rfl⟩

/-- The values of the variables that a module has from the start lead nowhere. -/
def LeadsNowhere (globals : Table Text Value) : Prop :=
  ∀ n v secret, globals.find? n = some v → v.Apart secret

theorem find?_loaded_cases {n : Text} {v : Value} (h : (loaded globals param body).globals.find? n = some v) :
    n = entityName ∧ v = .dict 3 ∨ v = specialValue ∨ n = escapeName ∧ v = .function 1 ∨
      n = renderName ∧ v = .function 0 ∨ globals.find? n = some v := by
  simp only [loaded, Table.find?_insert] at h
  grind

theorem bounded_loaded (hg : LeadsNowhere globals) : (loaded globals param body).Bounded where
  objects a o more ho hmore := by
    have hcases : o = .function (renderClosure param body) ∨ o = .function escapeClosure ∨
        o = .dict literalTable ∨ o = .dict entityTable := by
      simpa [loaded] using Array.mem_of_getElem? ho
    obtain rfl | rfl | rfl | rfl := hcases
    · simp [Object.Apart, renderClosure]
    · simp [Object.Apart, escapeClosure]
    · exact apart_literalTable
    · exact apart_entityTable
  globals n v more hv hmore := by
    have hnot : ∀ a < 4, a ∉ more := fun a ha hmem => Nat.not_lt_of_le (hmore a hmem) ha
    obtain ⟨-, rfl⟩ | rfl | ⟨-, rfl⟩ | ⟨-, rfl⟩ | hv := find?_loaded_cases hv
    · exact hnot 3 (by decide)
    · exact apart_specialValue
    · exact hnot 1 (by decide)
    · exact hnot 0 (by decide)
    · exact hg n v more hv

theorem matches_loaded (hg : LeadsNowhere globals) (body' : List Stmt) :
    (loaded globals param body).Matches outputReserved [0] (loaded globals param body') where
  heap := {
    size := rfl
    unused := rfl
    depth := rfl
    known := by simp [loaded]
    objects := fun a o ha ho => by
      obtain _ | _ | _ | _ | a := a
      · simp at ha
      · exact ⟨o, ho, Option.some.inj ho ▸ .function apart_escapeClosure⟩
      · exact ⟨o, ho, Option.some.inj ho ▸ .dict apart_literalTable⟩
      · exact ⟨o, ho, Option.some.inj ho ▸ .dict apart_entityTable⟩
      · simp [loaded] at ho
    scopes := fun a ha => by
      obtain rfl := List.mem_singleton.1 ha
      exact .none }
  handled := rfl
  printed := rfl
  globals n _ := rfl
  apart n v hn hv := by
    obtain ⟨-, rfl⟩ | rfl | ⟨-, rfl⟩ | ⟨rfl, -⟩ | hv := find?_loaded_cases hv
    · exact (Value.apart_dict 3).2 (by decide)
    · exact apart_specialValue
    · exact (Value.apart_function 1).2 (by decide)
    · exact absurd (by decide) hn
    · exact hg n v _ hv

/-- In the module of an empty template expressions do not get at what its functions use. -/
theorem sealed_loaded (hg : LeadsNowhere globals) :
    (loaded globals param body).Matches ownReserved [3, 1, 0] (loaded globals param body) where
  heap := {
    size := rfl
    unused := rfl
    depth := rfl
    known := by simp [loaded]
    objects := fun a o ha ho => by
      obtain _ | _ | _ | _ | a := a
      · simp at ha
      · simp at ha
      · exact ⟨o, ho, Option.some.inj ho ▸ .dict apart_literalTable⟩
      · simp at ha
      · simp [loaded] at ho
    scopes := fun a ha => by
      simp only [List.mem_cons, List.not_mem_nil, or_false] at ha
      obtain rfl | rfl | rfl := ha <;> exact .none }
  handled := rfl
  printed := rfl
  globals n _ := rfl
  apart n v hn hv := by
    obtain ⟨rfl, -⟩ | rfl | ⟨rfl, -⟩ | ⟨rfl, -⟩ | hv := find?_loaded_cases hv
    · exact absurd (by decide) hn
    · exact apart_specialValue
    · exact absurd (by decide) hn
    · exact absurd (by decide) hn
    · exact hg n v _ hv

end

section

variable {names : List Text} {body : List Stmt} {v : Value} {x : Text}

def startScope (names : List Text) (v : Value) : Scope :=
  ⟨(Element.startBindings names v).foldl (fun t e => t.insert e.1 e.2) {}, none⟩

theorem find?_startScope : (startScope names v).bindings.find? x =
    if "arg".toList = x then some (some v) else if x ∈ names then some none else none := by
  have hempty : ({} : Table Text (Option Value)).find? x = none := rfl
  rw [startScope, Element.startBindings, List.foldl_append, List.foldl_cons, List.foldl_nil,
    Table.find?_insert, find?_foldl_none, hempty]

def startState (s : State) (names : List Text) (v : Value) : State :=
  push (push (s.withDepth (s.heap.depth + 1)) (.scope (startScope names v))) (.list #[])

theorem eq_of_startScope {w : Value} (h : (startScope names v).bindings.find? x = some (some w)) : w = v := by
  rw [find?_startScope] at h
  grind

theorem eq_of_firstScope {param : Text} {w : Value}
    (h : (firstScope param body v).bindings.find? x = some (some w)) : w = v := by
  rw [find?_firstScope] at h
  grind

theorem alike_firstScope (hv : v.Apart secret) :
    (firstScope "arg".toList body v).Alike outputReserved secret (startScope (Stmt.boundAll body) v) where
  outer := rfl
  bindings n hn := by
    have hne : n ≠ bufferName := fun h => hn (h ▸ List.mem_cons_self)
    rw [find?_startScope, find?_firstScope]
    simp only [List.mem_cons, hne, false_or]
  apart n w hn hw := eq_of_firstScope hw ▸ hv

theorem matches_setScope {i : Address} {c c' : Scope} (h : s.Matches hidden secret s')
    (hc' : s'.heap.scope? i = some c') (hc : c.Alike hidden secret c') :
    State.Matches hidden secret
      { s with heap := { s.heap with objects := s.heap.objects.setIfInBounds i (.scope c) } } s' := by
  have hsame : s'.heap.objects.setIfInBounds i (.scope c') = s'.heap.objects := by
    apply Array.ext_getElem?
    intro j
    rw [Array.getElem?_setIfInBounds]
    split
    · next hij =>
      subst hij
      have hobject := Heap.scope?_eq_some.1 hc'
      obtain ⟨hlt, -⟩ := Array.getElem?_eq_some_iff.1 hobject
      rw [if_pos hlt, hobject]
    · rfl
  have hset := h.withHeap (h.heap.setScope (a := i) hc)
  rwa [hsame] at hset

theorem bounded_withDepth (h : s.Bounded) (n : Nat) : (s.withDepth n).Bounded := ⟨h.objects, h.globals⟩

theorem object?_push_of_some {i : Address} (h : s.heap.object? i = some o) (o' : Object) :
    (push s o').heap.object? i = some o := by
  obtain ⟨hlt, -⟩ := Array.getElem?_eq_some_iff.1 h
  rw [← h]
  simp [push, Heap.object?, Array.getElem?_push, Nat.ne_of_lt hlt]

theorem behind_singleton (n : Nat) : Behind n [n] := fun _ hi => Nat.le_of_eq (List.mem_singleton.1 hi).symm

theorem matches_startBuffer {c c' : Scope} (hs : s.Matches outputReserved secret s') (hbounded : s.Bounded)
    (hc : c.Alike outputReserved secret c')
    (hwithin : ∀ n w, c.bindings.find? n = some (some w) → w.Within s.heap.objects.size) :
    (startBuffer (push s (.scope c)) s.heap.objects.size c).Matches outputReserved
      ((s.heap.objects.size + 1) :: s.heap.objects.size :: secret)
      (push (push s' (.scope c')) (.list #[])) := by
  have hbuffer : bufferName ∈ outputNames := by decide
  have hapart : ∀ n w, c.bindings.find? n = some (some w) →
      w.Apart [s.heap.objects.size] ∧ w.Apart [s.heap.objects.size + 1] := fun n w hw =>
    ⟨hwithin n w hw _ (behind_singleton _),
      hwithin n w hw _ ((behind_singleton _).of_le (Nat.le_succ _))⟩
  have hscope := hc.cons fun n w hw => (hapart n w hw).1
  have hpushed := @matches_push_secret _ _ _ _ (.scope c) (.scope c') hs hbounded (.some hscope)
  have hpushedBounded : (push s (.scope c)).Bounded := hbounded.push fun more hmore n w hw =>
    hwithin n w hw more (hmore.of_le (Nat.le_succ _))
  have hlist := @matches_push_secret _ _ _ _ (.list #[]) (.list #[]) hpushed hpushedBounded .none
  have hfound : (push (push s' (.scope c')) (.list #[])).heap.scope? s.heap.objects.size = some c' := by
    rw [← hs.heap.size]
    exact scope?_push (scope?_push_self s' c')
  rw [size_push] at hlist
  rw [startBuffer, size_push]
  refine matches_setScope hlist hfound ⟨hc.outer, fun n hn => ?_, fun n w hn hw => ?_⟩
  · rw [bufferScope, Table.find?_insert, if_neg fun h : bufferName = n => hn (h ▸ hbuffer), hc.bindings n hn]
  · rw [bufferScope, Table.find?_insert, if_neg fun h : bufferName = n => hn (h ▸ hbuffer)] at hw
    exact (hapart n w hw).2.cons (hscope.apart n w hn hw)

/-- The start of the function is paired with that of the interpretation if nothing in them leads behind
the end of the heap. -/
theorem Paired.start (hs : s.Matches outputReserved [0] s')
    (hsealed : s'.Matches ownReserved [3, 1, 0] s') (hbounded : s.Bounded) (hbounded' : s'.Bounded)
    (hescapes : Escapes s' 1 3) (hdepth : s'.heap.depth = 0) (hsize : 4 ≤ s.heap.objects.size)
    (hv : v.Apart [0]) (hv' : v.Apart [3, 1, 0]) (hwithin : v.Within s.heap.objects.size)
    (hbound : Avoids calledNames (Stmt.boundAll body)) :
    Paired s.heap.objects.size [] (bodyState s "arg".toList body v)
      (startState s' (Stmt.boundAll body) v) := by
  have hsize' : s'.heap.objects.size = s.heap.objects.size := hs.heap.size
  have hdepth' : s.heap.depth = 0 := hs.heap.depth.symm.trans hdepth
  have hfree : ∀ escaped, (startScope (Stmt.boundAll body) v).bindings.find? (callName escaped) = none := by
    intro escaped
    have harg : "arg".toList ≠ callName escaped := by cases escaped <;> decide
    have hnot : callName escaped ∉ Stmt.boundAll body := fun h =>
      hbound _ h (mem_calledNames_callName escaped)
    rw [find?_startScope, if_neg harg, if_neg hnot]
  have hscope : (startState s' (Stmt.boundAll body) v).heap.scope? s.heap.objects.size =
      some (startScope (Stmt.boundAll body) v) := by
    rw [← hsize']
    exact scope?_push (scope?_push_self (s'.withDepth (s'.heap.depth + 1)) _)
  have hentered : (entered s "arg".toList body v).heap.objects.size =
      s.heap.objects.size + 1 := size_push _ _
  have hcollecting := collecting_bodyState s "arg".toList body v (by
    rw [hdepth']
    decide)
  have hstarted : (startScope (Stmt.boundAll body) v).Alike ownReserved
      (s.heap.objects.size :: [3, 1, 0]) (startScope (Stmt.boundAll body) v) :=
    ⟨rfl, fun _ _ => rfl, fun n w _ hw => by
      rw [eq_of_startScope hw]
      exact (hwithin _ (behind_singleton _)).cons hv'⟩
  refine {
    place := hsize
    alike := ?_
    sealed := ?_
    escapes := hescapes.kept rfl fun i o ho => object?_push_of_some (object?_push_of_some ho _) _
    depth := congrArg Nat.succ hdepth
    free := ⟨_, hscope, rfl, hfree⟩
    buffer := ⟨_, scope?_startBuffer (scope?_push_self (s.withDepth (s.heap.depth + 1)) _), ?_⟩
    collected := ⟨#[], [], hcollecting.list, rfl, rfl⟩ }
  · have hmatches := matches_startBuffer (hs.withDepth (s.heap.depth + 1))
      (bounded_withDepth hbounded _) (@alike_firstScope _ body _ hv)
      fun n w hw => eq_of_firstScope hw ▸ hwithin
    rw [startState, hs.heap.depth]
    exact hmatches
  · have hpushed := @matches_push_secret _ _ _ _ (.scope (startScope (Stmt.boundAll body) v))
      (.scope (startScope (Stmt.boundAll body) v)) (hsealed.withDepth (s'.heap.depth + 1))
      (bounded_withDepth hbounded' _) (.some (hsize' ▸ hstarted))
    rw [ownObjects, ← hsize']
    exact matches_push hpushed (.list (by simp))
  · rw [bufferScope, Table.find?_insert, if_pos rfl]
    exact congrArg (fun i => some (some (Value.list i))) hentered

end

end Generated
end TemplateEngine
