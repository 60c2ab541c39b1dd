import TemplateEngine.Proofs.Script.Adding
import TemplateEngine.Proofs.Script.Running

set_option autoImplicit false

/-!
# The text of a value

Of the heap, the text of a value depends on nothing but the lists, the dictionaries and the names of
functions that it shows, and on the number of calls under way. Data become the same values on heaps that
show the same, so that their text does not depend on the code that has been loaded.
-/
namespace TemplateEngine.Script

/-- What can be shown of an object: items, entries, or the name of a function. -/
def Object.face : Object → Array Value × Dictionary × Option Text
  | .list items => (items, {}, none)
  | .dict d => (#[], d, none)
  | .function f => (#[], {}, some f.name)
  | .iterator _ | .scope _ => (#[], {}, none)

namespace Heap

/-- What can be shown of what is at an address. Nothing there looks like an empty list. -/
def face (h : Heap) (a : Address) : Array Value × Dictionary × Option Text :=
  match h.object? a with
  | some o => o.face
  | none => (#[], {}, none)

theorem itemArray_eq_face (h : Heap) (a : Address) : h.itemArray a = (h.face a).1 := by
  unfold itemArray face
  cases h.object? a with
  | none => rfl
  | some o => cases o <;> rfl

theorem dictionary_eq_face (h : Heap) (a : Address) : h.dictionary a = (h.face a).2.1 := by
  unfold dictionary face
  cases h.object? a with
  | none => rfl
  | some o => cases o <;> rfl

theorem name_eq_face (h : Heap) (a : Address) :
    (h.closure? a).map Closure.name = (h.face a).2.2 := by
  unfold closure? face
  cases h.object? a with
  | none => rfl
  | some o => cases o <;> rfl

theorem face_push (h : Heap) (o : Object) (a : Address) :
    ({ h with objects := h.objects.push o } : Heap).face a =
      if a = h.objects.size then o.face else h.face a := by
  by_cases ha : a = h.objects.size
  · simp [face, object?, ha]
  · simp [face, object?, ha, Array.getElem?_push]

theorem face_set (h : Heap) (o : Object) (a b : Address) :
    ({ h with objects := h.objects.setIfInBounds b o } : Heap).face a =
      if a = b ∧ b < h.objects.size then o.face else h.face a := by
  by_cases ha : a = b
  · subst ha
    by_cases hlt : a < h.objects.size
    · simp [face, object?, hlt]
    · simp [face, object?, hlt]
  · simp [face, object?, ha, Ne.symm ha]

end Heap

namespace Value

variable {h k : Heap}

theorem show_congr (hface : ∀ a, h.face a = k.face a) (n : Nat) (seen : List Value) (v : Value) :
    Value.show h n seen v = Value.show k n seen v := by
  have hitems : ∀ a, h.items a = k.items a := fun a => by
    simp only [Heap.items, Heap.itemArray_eq_face, hface]
  have hdict : ∀ a, h.dictionary a = k.dictionary a := fun a => by
    simp only [Heap.dictionary_eq_face, hface]
  have hentries : ∀ a, h.entries a = k.entries a := fun a => by
    simp only [Heap.entries, hdict]
  have hname : ∀ a, (h.closure? a).map Closure.name = (k.closure? a).map Closure.name :=
    fun a => by simp only [Heap.name_eq_face, hface]
  induction n using Nat.strongRecOn generalizing seen v with
  | ind n ih =>
    have hshow : ∀ m < n, Value.show h m = Value.show k m := fun m hm => by
      funext seen v
      exact ih m hm seen v
    -- Items stand one or two levels below the value, so the bound goes down by as much.
    match n with
    | 0 => rfl
    | 1 =>
      unfold Value.show
      simp only [hitems, hdict, hentries, hname, hshow 0 (by omega)]
    | n + 2 =>
      unfold Value.show
      simp only [hitems, hdict, hentries, hname, hshow (n + 1) (by omega), hshow n (by omega)]

theorem toText_congr (hface : ∀ a, h.face a = k.face a) (hdepth : h.depth = k.depth) (v : Value) :
    v.toText h = v.toText k := by
  have hshown : ∀ v : Value, v.shown h = v.shown k := fun v => by
    simp only [Value.shown, Heap.room, hdepth, show_congr hface]
  fun_induction Value.toText h v <;> simp_all [Value.toText]

/-- How a value is shown if it takes no more than one level. -/
theorem shown_of_show {v : Value} {r : Result Text} (hdepth : h.depth < maxCalls)
    (hshow : ∀ n, Value.show h (n + 1) [] v = r) : v.shown h = r := by
  obtain ⟨n, hn⟩ : ∃ n, h.room = n + 1 :=
    Nat.exists_eq_succ_of_ne_zero (Nat.sub_ne_zero_of_lt hdepth)
  rw [shown, hn, hshow]

theorem toText_bool (hdepth : h.depth < maxCalls) (b : Bool) :
    (Value.bool b).toText h = .ok (Text.toStr (if b then "True" else "False").toList) := by
  have hshow : (Value.bool b).shown h = .ok (if b then "True" else "False").toList := by
    refine shown_of_show hdepth fun n => ?_
    simp only [Value.show]
    rfl
  rw [toText, hshow]
  · rfl
  all_goals simp

theorem toTextValue_eq (hdepth : h.depth < maxCalls) (v : Value) : ∃ identity : Str → Identity,
    v.toTextValue h = (v.toText h).map fun t => .text t (identity t) := by
  have hnew : ∀ r : Result Str, (do return ofNewText (← r)) =
      r.map fun t => Value.text t (.ofOwn t) := fun r => by cases r <;> rfl
  fun_induction Value.toTextValue h v with
  | case1 t a => exact ⟨fun _ => a, rfl⟩
  | case2 b =>
    refine ⟨Identity.ofLiteral, ?_⟩
    rw [toText_bool hdepth]
    rfl
  | case3 v a => exact ⟨Identity.ofOwn, hnew _⟩
  | case4 c v a hc ih => simpa only [Value.toText, if_neg hc] using ih
  | case5 v => exact ⟨Identity.ofOwn, hnew _⟩

end Value

/-- Heaps that show the same, and on which the next object and the next number are the same. -/
structure State.Alike (s t : State) : Prop where
  face : ∀ a, s.heap.face a = t.heap.face a
  size : s.heap.objects.size = t.heap.objects.size
  unused : s.heap.unused = t.heap.unused

/-- From states that are alike the run ends with the same value, in states that are alike. -/
def Run.Even {α : Type} (x : Run α) : Prop := ∀ s t : State, s.Alike t →
  ∃ a s' t', x s = .done a s' ∧ x t = .done a t' ∧ s'.Alike t'

namespace Run.Even

variable {α β : Type}

theorem pure (a : α) : Even (Pure.pure a : Run α) := fun s t h => ⟨a, s, t, rfl, rfl, h⟩

theorem bind {x : Run α} {f : α → Run β} (h : Even x) (k : ∀ a, Even (f a)) : Even (x >>= f) := by
  intro s t hst
  obtain ⟨a, s', t', hs, ht, halike⟩ := h s t hst
  obtain ⟨b, s'', t'', hs', ht', halike'⟩ := k a s' t' halike
  exact ⟨b, s'', t'', (Run.bind_done hs).trans hs', (Run.bind_done ht).trans ht', halike'⟩

theorem settle (v : Value) : Even (Run.settle v) := by
  intro s t h
  unfold Run.settle
  rw [h.unused]
  split
  · exact ⟨v, s, t, rfl, rfl, h⟩
  · exact ⟨_, _, _, rfl, rfl, h.face, h.size, rfl⟩

theorem settleAll (vs : List Value) : Even (Run.settleAll vs) := by
  intro s t h
  unfold Run.settleAll
  rw [h.unused]
  split
  · exact ⟨vs, s, t, rfl, rfl, h⟩
  · exact ⟨_, _, _, rfl, rfl, h.face, h.size, rfl⟩

theorem look {f : Heap → α} (hf : ∀ s t : State, s.Alike t → f s.heap = f t.heap) :
    Even (Run.look f) := fun s t h => ⟨f s.heap, s, t, rfl, by rw [hf s t h]; rfl, h⟩

theorem make (o : Object) : Even (Run.make o) := by
  intro s t h
  have hmade : Run.make o t = .done s.heap.objects.size
      { t with heap := { t.heap with objects := t.heap.objects.push o } } := by
    rw [h.size]
    rfl
  refine ⟨s.heap.objects.size, _, _, rfl, hmade, fun a => ?_, ?_, h.unused⟩
  · simp only [Heap.face_push, h.size, h.face]
  · simp [h.size]

theorem put (b : Address) (o : Object) : Even (Run.put b o) := by
  intro s t h
  refine ⟨(), _, _, rfl, rfl, fun a => ?_, ?_, h.unused⟩
  · simp only [Heap.face_set, h.size, h.face]
  · simp [h.size]

theorem makeList (items : List Value) : Even (Run.makeList items) :=
  .bind (.settleAll items) fun _ => .bind (.make _) fun _ => .pure _

theorem makeDict (d : Dictionary) : Even (Run.makeDict d) := .bind (.make _) fun _ => .pure _

end Run.Even

theorem even_become (v w : Value) : Run.Even (v.become w) := by
  unfold Value.become
  split
  · refine .bind (.look fun s t h => ?_) fun _ => .put _ _
    rw [Heap.itemArray_eq_face, h.face, ← Heap.itemArray_eq_face]
  · refine .bind (.look fun s t h => ?_) fun _ => .put _ _
    rw [Heap.dictionary_eq_face, h.face, ← Heap.dictionary_eq_face]
  · exact .pure _

theorem even_emptyOf (d : Data) : Run.Even (Value.emptyOf d) := by
  unfold Value.emptyOf
  split
  · exact .makeList _
  · exact .makeDict _
  · exact .pure _

mutual

theorem even_ofDataWith (known : Labels) : (d : Data) → Run.Even (Value.ofDataWith known d)
  | .null => .pure _
  | .bool _ => .pure _
  | .int _ => .bind (.settle _) fun _ => .pure _
  | .float _ => .bind (.settle _) fun _ => .pure _
  | .text _ => .bind (.settle _) fun _ => .pure _
  | .date _ => .bind (.settle _) fun _ => .pure _
  | .moment _ => .bind (.settle _) fun _ => .pure _
  | .list ds => .bind (even_ofAllDataWith known ds) fun _ => .bind (.makeList _) fun _ => .pure _
  | .dict es => .bind (even_ofEntryDataWith known es) fun _ => .bind (.makeDict _) fun _ => .pure _
  | .inside _ _ => .pure _
  | .shared l d => by
    rw [Value.ofDataWith]
    split
    · exact .pure _
    · exact .bind (even_emptyOf d) fun _ => .bind (even_ofDataWith _ d) fun _ =>
        .bind (even_become _ _) fun _ => .pure _

theorem even_ofAllDataWith (known : Labels) : (ds : List Data) →
    Run.Even (Value.ofAllDataWith known ds)
  | [] => .pure _
  | d :: ds => .bind (even_ofDataWith known d) fun r =>
    .bind (even_ofAllDataWith r.2 ds) fun _ => .pure _

theorem even_ofEntryDataWith (known : Labels) : (es : List (Data × Data)) →
    Run.Even (Value.ofEntryDataWith known es)
  | [] => .pure _
  | (k, d) :: es => .bind (even_ofDataWith known k) fun r =>
    .bind (even_ofDataWith r.2 d) fun q =>
      .bind (even_ofEntryDataWith q.2 es) fun _ => .pure _

end

theorem even_ofAllData (ds : List Data) : Run.Even (Value.ofAllData ds) :=
  .bind (even_ofAllDataWith {} ds) fun _ => .pure _

/-- If the value has the type of texts it is one. -/
def Value.IsPlain (v : Value) : Prop := v.belongs .str = true → ∃ t id, v = .text t id

theorem Value.belongs_settle (v : Value) (n : Nat) (t : TypeName) :
    (v.settle n).1.belongs t = v.belongs t := by
  cases v <;> simp only [Value.settle] <;> split <;> cases t <;> rfl

theorem isPlain_settle {v w : Value} {s t : State} (hv : v.IsPlain)
    (h : Run.settle v s = .done w t) : w.IsPlain := by
  rw [Run.settle] at h
  split at h
  · exact (Outcome.done.inj h).1 ▸ hv
  · obtain ⟨rfl, -⟩ := Outcome.done.inj h
    intro htext
    rw [Value.belongs_settle] at htext
    obtain ⟨x, id, rfl⟩ := hv htext
    simp only [Value.settle]
    split
    · exact ⟨x, id, rfl⟩
    · exact ⟨x, _, rfl⟩

theorem isPlain_of_not_belongs {v : Value} (h : v.belongs .str = false) : v.IsPlain := by
  intro htext
  rw [h] at htext
  cases htext

theorem isPlain_makeList {vs : List Value} {s t : State} {v : Value}
    (h : Run.makeList vs s = .done v t) : v.IsPlain := by
  obtain ⟨_, _, -, h⟩ := Run.bind_eq_done h
  obtain ⟨_, _, -, h⟩ := Run.bind_eq_done h
  obtain ⟨rfl, -⟩ := Outcome.done.inj h
  exact isPlain_of_not_belongs rfl

theorem isPlain_makeDict {d : Dictionary} {s t : State} {v : Value}
    (h : Run.makeDict d s = .done v t) : v.IsPlain := by
  obtain ⟨_, _, -, h⟩ := Run.bind_eq_done h
  obtain ⟨rfl, -⟩ := Outcome.done.inj h
  exact isPlain_of_not_belongs rfl

theorem isPlain_emptyOf {d : Data} {s t : State} {v : Value} (h : Value.emptyOf d s = .done v t) :
    v.IsPlain := by
  unfold Value.emptyOf at h
  split at h
  · exact isPlain_makeList h
  · exact isPlain_makeDict h
  · obtain ⟨rfl, -⟩ := Outcome.done.inj h
    exact isPlain_of_not_belongs rfl

theorem isPlain_ofDataWith {d : Data} {s t : State} {r : Value × Labels}
    (h : Value.ofDataWith {} d s = .done r t) : r.1.IsPlain := by
  cases d with
  | text x =>
    obtain ⟨v, u, hv, h⟩ := Run.bind_eq_done h
    obtain ⟨rfl, -⟩ := Outcome.done.inj h
    exact isPlain_settle (fun _ => ⟨x, _, rfl⟩) hv
  | int i | float i | date i | moment i =>
    obtain ⟨v, u, hv, h⟩ := Run.bind_eq_done h
    obtain ⟨rfl, -⟩ := Outcome.done.inj h
    exact isPlain_settle (isPlain_of_not_belongs rfl) hv
  | null | bool b | inside l d =>
    obtain ⟨rfl, -⟩ := Outcome.done.inj h
    exact isPlain_of_not_belongs rfl
  | list ds =>
    obtain ⟨vs, u, -, h⟩ := Run.bind_eq_done h
    obtain ⟨v, u, hv, h⟩ := Run.bind_eq_done h
    obtain ⟨rfl, -⟩ := Outcome.done.inj h
    exact isPlain_makeList hv
  | dict es =>
    obtain ⟨vs, u, -, h⟩ := Run.bind_eq_done h
    obtain ⟨v, u, hv, h⟩ := Run.bind_eq_done h
    obtain ⟨rfl, -⟩ := Outcome.done.inj h
    exact isPlain_makeDict hv
  | shared l d =>
    rw [Value.ofDataWith] at h
    obtain ⟨v, u, hv, h⟩ := Run.bind_eq_done h
    obtain ⟨_, _, -, h⟩ := Run.bind_eq_done h
    obtain ⟨_, _, -, h⟩ := Run.bind_eq_done h
    obtain ⟨rfl, -⟩ := Outcome.done.inj h
    exact isPlain_emptyOf hv

theorem isPlain_ofAllData {d : Data} {s t : State} {v : Value}
    (h : Value.ofAllData [d] s = .done [v] t) : v.IsPlain := by
  obtain ⟨r, u, hr, h⟩ := Run.bind_eq_done h
  obtain ⟨q, u', hq, hr⟩ := Run.bind_eq_done hr
  obtain ⟨rfl, -⟩ := Outcome.done.inj hr
  obtain ⟨hv, -⟩ := Outcome.done.inj h
  exact (List.cons.inj hv).1 ▸ isPlain_ofDataWith hq

end TemplateEngine.Script
