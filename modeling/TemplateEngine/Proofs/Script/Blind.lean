import TemplateEngine.Proofs.Script.Names
import TemplateEngine.Script.Variables

set_option autoImplicit false

/-!
# Runs that do not look at some variables

A run is blind to some names if it goes the same way in any two states that agree in everything but the
variables of the module with these names. Such runs are closed under sequencing; so a run is blind that
is put together from others and reads and writes none of these variables itself. The functions on the
heap have to be blind too, since they may be called.
-/
namespace TemplateEngine.Script

def Avoids (hidden names : List Text) : Prop := ∀ n ∈ names, n ∉ hidden

theorem avoids_append {hidden as bs : List Text} :
    Avoids hidden (as ++ bs) ↔ Avoids hidden as ∧ Avoids hidden bs := List.forall_mem_append

theorem avoids_cons {hidden as : List Text} {n : Text} :
    Avoids hidden (n :: as) ↔ n ∉ hidden ∧ Avoids hidden as := List.forall_mem_cons

/-- The states are the same but for module variables with hidden names, and no function of the program
has such a name in its body. -/
structure State.Agrees (hidden : List Text) (s t : State) : Prop where
  heap : t.heap = s.heap
  handled : t.handled = s.handled
  printed : t.printed = s.printed
  globals : ∀ n, n ∉ hidden → t.globals.find? n = s.globals.find? n
  closures : ∀ a c, s.heap.closure? a = some c → Avoids hidden (Stmt.namesOfAll c.body)

inductive Outcome.Agrees {α : Type} (hidden : List Text) : Outcome α → Outcome α → Prop
  | done {s t : State} (a : α) (h : State.Agrees hidden s t) : Agrees hidden (.done a s) (.done a t)
  | raised {s t : State} (e : Raised) (h : State.Agrees hidden s t) :
      Agrees hidden (.raised e s) (.raised e t)
  | exhausted : Agrees hidden .exhausted .exhausted

/-- The run goes the same way in states that agree. -/
def Run.Blind {α : Type} (hidden : List Text) (x : Run α) : Prop :=
  ∀ s t : State, s.Agrees hidden t → Outcome.Agrees hidden (x s) (x t)

variable {α β : Type} {hidden : List Text}

namespace State.Agrees

variable {s t : State}

theorem withHeap (h : s.Agrees hidden t) (heap : Heap)
    (hclosures : ∀ a c, heap.closure? a = some c → Avoids hidden (Stmt.namesOfAll c.body)) :
    State.Agrees hidden { s with heap := heap } { t with heap := heap } :=
  ⟨rfl, h.handled, h.printed, h.globals, hclosures⟩

theorem withHandled (h : s.Agrees hidden t) (r : Option Raised) :
    State.Agrees hidden { s with handled := r } { t with handled := r } :=
  ⟨h.heap, rfl, h.printed, h.globals, h.closures⟩

theorem withDepth (h : s.Agrees hidden t) (n : Nat) :
    (s.withDepth n).Agrees hidden (t.withDepth n) := by
  refine ⟨?_, h.handled, h.printed, h.globals, h.closures⟩
  simp only [State.withDepth, h.heap]

end State.Agrees

namespace Run.Blind

variable {x : Run α}

theorem pure (a : α) : Blind hidden (Pure.pure a : Run α) := fun _ _ h => .done a h

theorem bind {f : α → Run β} (hx : Blind hidden x) (hf : ∀ a, Blind hidden (f a)) :
    Blind hidden (x >>= f) := by
  intro s t h
  have hrun : ∀ u, (x >>= f) u = Run.bind x f u := fun _ => rfl
  have hxs := hx s t h
  rw [hrun, hrun, Run.bind, Run.bind]
  generalize x s = o at hxs
  generalize x t = p at hxs
  cases hxs with
  | done a h => exact hf a _ _ h
  | raised e h => exact .raised e h
  | exhausted => exact .exhausted

theorem exhausted : Blind hidden (Run.exhausted : Run α) := fun _ _ _ => .exhausted

theorem raise (c : ExceptionClass) (arguments : List Value) :
    Blind hidden (Run.raise c arguments : Run α) := fun _ _ h => .raised _ h

theorem ofResult (r : Result α) : Blind hidden (Run.ofResult r) := by
  cases r with
  | ok a => exact pure a
  | error e => exact fun _ _ h => .raised e h

theorem look (f : Heap → α) : Blind hidden (Run.look f) := by
  intro s t h
  rw [Run.look, Run.look, h.heap]
  exact .done _ h

theorem withHeap (f : Heap → Result α) : Blind hidden (Run.withHeap f) := by
  intro s t h
  rw [Run.withHeap, Run.withHeap, h.heap]
  exact ofResult (f s.heap) s t h

theorem deeper (hx : Blind hidden x) : Blind hidden (Run.deeper x) := by
  intro s t h
  simp only [Run.deeper, h.heap]
  split
  · have hxs := hx _ _ (h.withDepth (s.heap.depth + 1))
    generalize x (s.withDepth (s.heap.depth + 1)) = o at hxs
    generalize x (t.withDepth (s.heap.depth + 1)) = p at hxs
    cases hxs with
    | done a h => exact .done a (h.withDepth _)
    | raised e h => exact .raised e (h.withDepth _)
    | exhausted => exact .exhausted
  · exact .raised _ h

theorem settle (v : Value) : Blind hidden (Run.settle v) := by
  intro s t h
  simp only [Run.settle, h.heap]
  split
  · exact .done v h
  · exact .done _ (h.withHeap _ h.closures)

theorem settleAll (vs : List Value) : Blind hidden (Run.settleAll vs) := by
  intro s t h
  simp only [Run.settleAll, h.heap]
  split
  · exact .done vs h
  · exact .done _ (h.withHeap _ h.closures)

theorem settled {x : Run Value} (hx : Blind hidden x) : Blind hidden (Run.settled x) :=
  bind hx settle

theorem allSettled {x : Run (List Value)} (hx : Blind hidden x) : Blind hidden (Run.allSettled x) :=
  bind hx settleAll

end Run.Blind

def Object.Avoids (hidden : List Text) : Object → Prop
  | .function c => Script.Avoids hidden (Stmt.namesOfAll c.body)
  | _ => True

theorem Object.avoids_scope (s : Scope) : (Object.scope s).Avoids hidden := trivial

theorem Heap.closure?_eq_some {h : Heap} {a : Address} {c : Closure} :
    h.closure? a = some c ↔ h.objects[a]? = some (.function c) := by
  unfold Heap.closure? Heap.object?
  split
  · next f hf => simp [hf]
  · next hno => exact ⟨nofun, fun hc => absurd hc (hno c)⟩

namespace State.Agrees

variable {s t : State}

theorem avoids (h : s.Agrees hidden t) {a : Address} {o : Object} (ho : s.heap.objects[a]? = some o) :
    o.Avoids hidden := by
  cases o with
  | function c => exact h.closures a c (Heap.closure?_eq_some.2 ho)
  | _ => trivial

theorem withObjects (h : s.Agrees hidden t) {objects : Array Object}
    (ho : ∀ o ∈ objects, o.Avoids hidden) :
    State.Agrees hidden { s with heap := { s.heap with objects := objects } }
      { t with heap := { s.heap with objects := objects } } :=
  h.withHeap _ fun _ _ hc => ho _ (Array.mem_of_getElem? (Heap.closure?_eq_some.1 hc))

end State.Agrees

namespace Run.Blind

theorem make {o : Object} (ho : o.Avoids hidden) : Blind hidden (Run.make o) := by
  intro s t h
  simp only [Run.make, h.heap]
  refine .done _ (h.withObjects fun o' ho' => ?_)
  obtain ho' | rfl := Array.mem_push.1 ho'
  · obtain ⟨i, hi⟩ := Array.mem_iff_getElem?.1 ho'
    exact h.avoids hi
  · exact ho

theorem put (a : Address) {o : Object} (ho : o.Avoids hidden) : Blind hidden (Run.put a o) := by
  intro s t h
  simp only [Run.put, h.heap]
  refine .done _ (h.withObjects fun o' ho' => ?_)
  obtain ⟨i, hi⟩ := Array.mem_iff_getElem?.1 ho'
  rw [Array.getElem?_setIfInBounds] at hi
  split at hi
  · split at hi
    · exact Option.some.inj hi ▸ ho
    · contradiction
  · exact h.avoids hi

theorem change (a : Address) {f : Object → Object}
    (hf : ∀ o, o.Avoids hidden → (f o).Avoids hidden) : Blind hidden (Run.change a f) := by
  intro s t h
  simp only [Run.change, h.heap]
  refine .done _ (h.withObjects fun o' ho' => ?_)
  obtain ⟨i, hi⟩ := Array.mem_iff_getElem?.1 ho'
  rw [Array.getElem?_modify] at hi
  split at hi
  · obtain ⟨o, ho, rfl⟩ := Option.map_eq_some_iff.1 hi
    exact hf o (h.avoids ho)
  · exact h.avoids hi

theorem print (u : Str) : Blind hidden (Run.print u) := by
  unfold Run.print
  split
  · intro s t h
    exact .done () ⟨h.heap, h.handled, by rw [h.printed], h.globals, h.closures⟩
  · exact .raise _ _

theorem makeList (items : List Value) : Blind hidden (Run.makeList items) :=
  .bind (.settleAll items) fun _ => .bind (.make trivial) fun _ => .pure _

theorem putItems (a : Address) (items : List Value) : Blind hidden (Run.putItems a items) :=
  .bind (.settleAll items) fun _ => .put a trivial

theorem changeItems (a : Address) (f : Array Value → Array Value) :
    Blind hidden (Run.changeItems a f) := by
  refine .change a fun o ho => ?_
  cases o with
  | list items => trivial
  | _ => exact ho

theorem makeDict (d : Dictionary) : Blind hidden (Run.makeDict d) :=
  .bind (.make trivial) fun _ => .pure _

theorem putDict (a : Address) (d : Dictionary) : Blind hidden (Run.putDict a d) := .put a trivial

theorem changeDict (a : Address) (f : Dictionary → Dictionary) :
    Blind hidden (Run.changeDict a f) := by
  refine .change a fun o ho => ?_
  cases o with
  | dict d => trivial
  | _ => exact ho

theorem makeIterator (t : TypeName) (c : Cursor) : Blind hidden (Run.makeIterator t c) :=
  .bind (.make trivial) fun _ => .pure _

theorem mapM {f : α → Run β} (as : List α) (hf : ∀ a ∈ as, Blind hidden (f a)) :
    Blind hidden (as.mapM f) := by
  have hloop : ∀ done : List β, Blind hidden (List.mapM.loop f as done) := by
    induction as with
    | nil => exact fun done => .pure done.reverse
    | cons a as ih =>
      intro done
      exact .bind (hf a List.mem_cons_self) fun b =>
        ih (fun a' ha' => hf a' (List.mem_cons_of_mem a ha')) (b :: done)
  exact hloop []

theorem foldlM {f : β → α → Run β} (hf : ∀ b a, Blind hidden (f b a)) (as : List α) (b : β) :
    Blind hidden (as.foldlM f b) := by
  induction as generalizing b with
  | nil => exact .pure b
  | cons a as ih => exact .bind (hf b a) ih

theorem filterM {f : α → Run Bool} (hf : ∀ a, Blind hidden (f a)) (as : List α) :
    Blind hidden (as.filterM f) := by
  have hloop : ∀ done : List α, Blind hidden (List.filterAuxM f as done) := by
    induction as with
    | nil => exact fun done => .pure done
    | cons a as ih => exact fun done => .bind (hf a) fun b => ih _
  exact .bind (hloop []) fun _ => .pure _

end Run.Blind

namespace Frame

variable {n : Text} (f : Frame)

theorem blind_read (hn : n ∉ hidden) : Run.Blind hidden (f.read n) := by
  intro s t h
  simp only [Frame.read, h.heap, h.globals n hn]
  split
  · exact .done _ h
  · exact .raised _ h
  · split
    · exact .done _ h
    · split
      · exact .done _ h
      · exact .raised _ h

theorem blind_readOwn (hn : n ∉ hidden) : Run.Blind hidden (f.readOwn n) := by
  intro s t h
  simp only [Frame.readOwn, h.globals n hn]
  split
  · exact f.blind_read hn s t h
  · split
    · exact .done _ h
    · exact .raised _ h

/-- Gives a variable of the module another value, or none. -/
theorem agrees_globals {s t : State} (h : s.Agrees hidden t) {g g' : Table Text Value}
    (hg : ∀ m, m ∉ hidden → g'.find? m = g.find? m) :
    State.Agrees hidden { s with globals := g } { t with globals := g' } :=
  ⟨h.heap, h.handled, h.printed, hg, h.closures⟩

theorem blind_write (v : Value) : Run.Blind hidden (f.write n v) := by
  intro s t h
  simp only [Frame.write]
  split
  · refine .done () (agrees_globals h fun m hm => ?_)
    rw [Table.find?_insert, Table.find?_insert, h.globals m hm]
  · simp only [h.heap]
    split
    · exact Run.Blind.put _ (Object.avoids_scope _) s t h
    · exact .done () h

theorem blind_forget : Run.Blind hidden (f.forget n) := by
  intro s t h
  simp only [Frame.forget]
  split
  · refine .done () (agrees_globals h fun m hm => ?_)
    rw [Table.find?_erase, Table.find?_erase, h.globals m hm]
  · simp only [h.heap]
    split
    · exact Run.Blind.put _ (Object.avoids_scope _) s t h
    · exact .done () h

theorem blind_enter (outer : Option Address) (bindings : List (Text × Option Value)) :
    Run.Blind hidden (Frame.enter outer bindings) :=
  .bind (.make trivial) fun _ => .pure _

end Frame
end TemplateEngine.Script
