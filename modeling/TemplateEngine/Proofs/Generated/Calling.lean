import TemplateEngine.Proofs.Generated.Buffer
import TemplateEngine.Proofs.Script.Adding

set_option autoImplicit false

/-!
# Calling the function that renders

The function starts with an empty list for the output, runs the body of the template, and returns
what the body has collected.
-/
namespace TemplateEngine

open Script

namespace Generated

variable {n : Nat} {f : Frame} {s t : State} {a b : Address} {c : Scope}

theorem lt_of_scope? (h : s.heap.scope? b = some c) : b < s.heap.objects.size := by
  refine Nat.lt_of_not_le fun hle => ?_
  rw [Heap.scope?, Heap.object?, Array.getElem?_eq_none hle] at h
  contradiction

def bufferScope (c : Scope) (a : Address) : Scope :=
  { c with bindings := c.bindings.insert bufferName (some (.list a)) }

def push (s : State) (o : Object) : State :=
  { s with heap := { s.heap with objects := s.heap.objects.push o } }

def startBuffer (s : State) (b : Address) (c : Scope) : State :=
  { s with heap := { s.heap with objects := (s.heap.objects.push (.list #[])).setIfInBounds b (
    .scope (bufferScope c s.heap.objects.size)) } }

theorem scope?_push_self (s : State) (c : Scope) :
    (push s (.scope c)).heap.scope? s.heap.objects.size = some c := by
  simp [push, Heap.scope?, Heap.object?]

theorem scope?_push {o : Object} (h : s.heap.scope? b = some c) :
    (push s o).heap.scope? b = some c := by
  rw [← h]
  simp [push, Heap.scope?, Heap.object?, Array.getElem?_push_lt, lt_of_scope? h]

theorem run_bufferStatement (h : s.heap.scope? b = some c) :
    run (n + 4) ⟨some b⟩ bufferStatement s = .done .normal (startBuffer s b c) := by
  have hlist : eval (n + 3) ⟨some b⟩ (.list []) s =
      .done (.list s.heap.objects.size) (push s (.list #[])) := rfl
  have hwrite : Frame.write ⟨some b⟩ bufferName (.list s.heap.objects.size) (push s (.list #[])) =
      .done () (startBuffer s b c) := by
    rw [Frame.write]
    simp only [scope?_push h]
    rfl
  have hassign : assignAll (n + 3) ⟨some b⟩ [(variableOf "_buf", .list s.heap.objects.size)]
      (push s (.list #[])) = .done () (startBuffer s b c) := by
    rw [assignAll]
    exact Run.bind_done hwrite
  rw [bufferStatement, run_assign hlist]
  exact Run.bind_done hassign

theorem scope?_startBuffer (h : s.heap.scope? b = some c) :
    (startBuffer s b c).heap.scope? b = some (bufferScope c s.heap.objects.size) := by
  have hlt : b < s.heap.objects.size + 1 := Nat.lt_succ_of_lt (lt_of_scope? h)
  simp [startBuffer, Heap.scope?, Heap.object?, hlt]

theorem collecting_startBuffer (h : s.heap.scope? b = some c) (hr : s.heap.depth < maxCalls) :
    Collecting ⟨some b⟩ s.heap.objects.size #[] (startBuffer s b c) := by
  refine ⟨⟨b, ?_⟩, ?_, hr⟩
  · simp [findVariable, scope?_startBuffer h, bufferScope, Table.find?_insert]
  · have hne : b ≠ s.heap.objects.size := Nat.ne_of_lt (lt_of_scope? h)
    simp [startBuffer, Heap.object?, hne]

def firstBindings (param : Text) (body : List Stmt) (v : Value) : List (Text × Option Value) :=
  [(param, some v)] ++ ((renderClosure param body).locals.filter fun x =>
    (List.lookup x [(param, v)]).isNone).map fun x => (x, none)

def firstScope (param : Text) (body : List Stmt) (v : Value) : Scope :=
  ⟨(firstBindings param body v).foldl (fun t e => t.insert e.1 e.2) {}, none⟩

def entered (s : State) (param : Text) (body : List Stmt) (v : Value) : State :=
  push (s.withDepth (s.heap.depth + 1)) (.scope (firstScope param body v))

def bodyState (s : State) (param : Text) (body : List Stmt) (v : Value) : State :=
  startBuffer (entered s param body v) s.heap.objects.size (firstScope param body v)

theorem collecting_bodyState (s : State) (param : Text) (body : List Stmt) (v : Value)
    (h : s.heap.depth + 1 < maxCalls) :
    Collecting ⟨some s.heap.objects.size⟩ (s.heap.objects.size + 1) #[]
      (bodyState s param body v) := by
  have hsize : (entered s param body v).heap.objects.size = s.heap.objects.size + 1 := by
    simp [entered, push, State.withDepth]
  rw [← hsize]
  exact collecting_startBuffer (scope?_push_self _ _) h

theorem call_renderClosure (n : Nat) (param : Text) (body : List Stmt) (v : Value) (s : State) :
    call (n + 1) (renderClosure param body) { positional := [v] } s =
      (runAll n ⟨some s.heap.objects.size⟩ (renderClosure param body).body >>= fun flow =>
        match flow with
        | .give v => pure v
        | _ => pure .none) (push s (.scope (firstScope param body v))) := rfl

/-- A call whose body ends normally returns what has been collected. -/
theorem apply_renderClosure {param : Text} {body : List Stmt} {v : Value} {ts : List Str}
    {items : Array Value} (hs : s.heap.object? a = some (.function (renderClosure param body)))
    (hd : s.heap.depth < maxCalls)
    (hbody : runAll (n + 7 + body.length) ⟨some s.heap.objects.size⟩ body
      (bodyState s param body v) = .done .normal t)
    (ht : Collecting ⟨some s.heap.objects.size⟩ (s.heap.objects.size + 1) items t)
    (hitems : items.toList.mapM Value.needText = .ok ts) :
    ∃ id u, apply (n + 7 + body.length + 4) (.function a) { positional := [v] } s =
      .done (.text ts.flatten id) ((t.withUnused u).withDepth s.heap.depth) := by
  obtain ⟨id, u, hreturn⟩ := run_returnStatement (n := n) ht hitems
  have hend : runAll (n + 7) ⟨some s.heap.objects.size⟩ [returnStatement] t =
      .done (.give (.text ts.flatten id)) (t.withUnused u) := by
    rw [runAll, Run.bind_done hreturn]
    rfl
  have hall : runAll (n + 7 + body.length + 1) ⟨some s.heap.objects.size⟩
      (renderClosure param body).body (entered s param body v) =
      .done (.give (.text ts.flatten id)) (t.withUnused u) := by
    have hstart : run (n + 7 + body.length) ⟨some s.heap.objects.size⟩ bufferStatement
        (entered s param body v) = .done .normal (bodyState s param body v) := by
      have hn : n + 7 + body.length = n + 3 + body.length + 4 := by omega
      rw [hn]
      exact run_bufferStatement (scope?_push_self (s.withDepth (s.heap.depth + 1)) _)
    rw [renderClosure, runAll_cons hstart, runAll_append hbody, hend]
  have hcall : call (n + 7 + body.length + 2) (renderClosure param body) { positional := [v] }
      (s.withDepth (s.heap.depth + 1)) = .done (.text ts.flatten id) (t.withUnused u) := by
    rw [call_renderClosure]
    exact Run.bind_done hall
  have hwithin : applyWithin (n + 7 + body.length + 3) (.function a) { positional := [v] }
      (s.withDepth (s.heap.depth + 1)) = .done (.text ts.flatten id) (t.withUnused u) :=
    (applyWithin_function (s := s.withDepth (s.heap.depth + 1)) hs).trans hcall
  obtain ⟨id', u', hsettle⟩ := settle_text ts.flatten id
    ((t.withUnused u).withDepth s.heap.depth)
  refine ⟨id', u', ?_⟩
  rw [apply, Run.settled]
  exact (Run.bind_done (Run.deeper_done hd hwithin)).trans hsettle

theorem apply_renderClosure_raised {param : Text} {body : List Stmt} {v : Value} {e : Raised}
    (hs : s.heap.object? a = some (.function (renderClosure param body)))
    (hd : s.heap.depth < maxCalls)
    (hbody : runAll (n + 4) ⟨some s.heap.objects.size⟩ body (bodyState s param body v) =
      .raised e t) :
    apply (n + 8) (.function a) { positional := [v] } s = .raised e (t.withDepth s.heap.depth) := by
  have hall : runAll (n + 5) ⟨some s.heap.objects.size⟩ (renderClosure param body).body
      (entered s param body v) = .raised e t := by
    have hstart := run_bufferStatement (n := n)
      (scope?_push_self (s.withDepth (s.heap.depth + 1)) (firstScope param body v))
    rw [renderClosure]
    exact (runAll_cons hstart).trans (runAll_append_raised hbody)
  have hwithin : applyWithin (n + 7) (.function a) { positional := [v] }
      (s.withDepth (s.heap.depth + 1)) = .raised e t := by
    rw [applyWithin_function (s := s.withDepth (s.heap.depth + 1)) hs]
    exact (call_renderClosure (n + 5) param body v _).trans (Run.bind_raised hall)
  rw [apply, Run.settled]
  exact Run.bind_raised (Run.deeper_raised hd hwithin)

end Generated
end TemplateEngine
