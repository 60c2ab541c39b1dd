import TemplateEngine.Proofs.Cache.LiteralText
import TemplateEngine.Proofs.Generated.Showing
import TemplateEngine.Proofs.Segment.RoundTrip

set_option autoImplicit false

/-!
# Names that the context may have

A template whose only directive is the name of its context shows the context whatever this name is, as
long as its normal form is none that the generated code needs itself: that of the list for the output or
of the function that is called, or that of a constant. The check of names looks at other names than the
code does, at those before their normal forms, and leaves `str` out.
-/
namespace TemplateEngine

open Script TemplateEngine.Action

namespace Generated

def contextText (escaped : Bool) (context : Data) : Option Str :=
  match Value.ofAllData [context] (loaded {} [] []) with
  | .done [v] s =>
    (if escaped then escapedText (s.withDepth 3).heap v else v.toText (s.withDepth 2).heap).toOption
  | _ => none

variable {globals : Table Text Value} {escaped : Bool} {p : Text} {s t : State} {v g : Value}

theorem alike_loaded (globals globals' : Table Text Value) (p q : Text) (body body' : List Stmt) :
    (loaded globals p body).Alike (loaded globals' q body') where
  face a := by
    match a with
    | 0 | 1 | 2 | 3 => rfl
    | a + 4 => rfl
  size := rfl
  unused := rfl

/-- Nothing is shown of what a call adds to the heap: variables, and a list without items. -/
theorem face_callState (s : State) (f p : Text) (v : Value) (a : Address) :
    (callState s f p v).heap.face a = s.heap.face a := by
  have hempty : s.heap.objects.size ≤ a → s.heap.face a = (#[], {}, none) := by
    intro ha
    simp [Heap.face, Heap.object?, Array.getElem?_eq_none ha]
  have hset : (callState s f p v).heap.face a = if a = s.heap.objects.size ∧ _ then _ else _ :=
    Heap.face_set { (entered s p [callStatement f p] v).heap with
      objects := (entered s p [callStatement f p] v).heap.objects.push (.list #[]) } _ a _
  have hpush := Heap.face_push (entered s p [callStatement f p] v).heap (.list #[]) a
  have hscope := face_push_scope (s.withDepth (s.heap.depth + 1))
    (firstScope p [callStatement f p] v) a
  have hsize : (entered s p [callStatement f p] v).heap.objects.size = s.heap.objects.size + 1 := by
    simp [entered, push, State.withDepth]
  rw [hset]
  split
  · next h => exact (hempty (Nat.le_of_eq h.1.symm)).symm
  · rw [hpush, hsize]
    split
    · next h => exact (hempty (by rw [h]; exact Nat.le_succ _)).symm
    · exact hscope

theorem escapes_callState {a d : Address} (h : Escapes s a d) (f p : Text) (v : Value) :
    Escapes (callState s f p v) a d := by
  refine h.kept rfl fun i o ho => ?_
  obtain ⟨hlt, -⟩ := Array.getElem?_eq_some_iff.1 ho
  have hne : s.heap.objects.size ≠ i := Nat.ne_of_gt hlt
  have hlt' : i < s.heap.objects.size + 1 := Nat.lt_succ_of_lt hlt
  rw [← ho]
  simp [callState, State.spend, State.withUnused, bodyState, startBuffer, entered, push,
    State.withDepth, Heap.object?, hne, Array.getElem?_push_lt, Array.getElem_push_lt, hlt, hlt']

theorem finds_callee (h : Escapes s 1 3) : Finds s (callName escaped) (callee escaped) := by
  cases escaped with
  | true => exact ⟨by decide, .inl h.escape⟩
  | false => exact ⟨by decide, .inr ⟨h.str, rfl⟩⟩

theorem toText_emptyList {h : Heap} {a : Address} (hitems : h.items a = [])
    (hdepth : h.depth < maxCalls) : (Value.list a).toText h = .ok (Text.toStr "[]".toList) := by
  have hshow : (Value.list a).shown h = .ok "[]".toList := by
    refine Value.shown_of_show hdepth fun n => ?_
    simp [Value.show, Value.dots?, hitems]
    rfl
  rw [Value.toText, hshow]
  · rfl
  all_goals simp

theorem calledText_emptyList {a : Address} (hitems : s.heap.items a = []) :
    calledText escaped s (.list a) = .ok (Text.toStr "[]".toList) := by
  have htext : ∀ d < maxCalls,
      (Value.list a).toText (s.withDepth d).heap = .ok (Text.toStr "[]".toList) := by
    intro d hd
    exact toText_emptyList (h := (s.withDepth d).heap) hitems hd
  cases escaped with
  | true =>
    have hescaped : calledText true s (.list a) =
        ((Value.list a).toText (s.withDepth 3).heap).map escapeText := rfl
    rw [hescaped, htext 3 (by decide)]
    rfl
  | false => exact htext 2 (by decide)

abbrev pageState (globals : Table Text Value) (escaped : Bool) (p : Text) : State :=
  loaded globals p [callStatement (callName escaped) p]

section

variable {context : Data} {w : Value} {r : Result Str} {P : Value → Prop}

/-- Rendering gives what the call in the template gives. -/
theorem shows_of_apply
    (hv : Value.ofAllData [context] (pageState globals escaped p) = .done [v] s)
    (hs : State.Grown 4 (pageState globals escaped p) s)
    (hf : eval (maxSteps - 34 + 25) ⟨some s.heap.objects.size⟩ (.name (callName escaped))
      (callState s (callName escaped) p v) = .done w (callState s (callName escaped) p v))
    (hgives : (apply (maxSteps - 34 + 25) w { positional := [shownValue s p v] }).Gives P
      (callState s (callName escaped) p v) r) :
    Shows ((Script.Module.mk (pageState globals escaped p)).call (.function 0) [context]) r := by
  have hclosure : s.heap.object? 0 =
      some (.function (renderClosure p [callStatement (callName escaped) p])) :=
    hs.kept 0 (by decide)
  have hroom : s.heap.depth + 1 < maxCalls := by
    rw [hs.depth]
    show 0 + 1 < maxCalls
    decide
  have hshows := shows_render (n := maxSteps - 34 + 22) hclosure hroom
    (hgives.congr (eval_callState hf))
  have hn : maxSteps - 34 + 22 + 12 = maxSteps := by
    have := maxSteps_eq 34 (by omega)
    omega
  rw [hn] at hshows
  rw [Module.call, Module.callWithin, Run.bind_done hv]
  exact hshows

end

/-- Rendering gives the text of the context if its name is not that of the function that is called,
and that of the output, which is empty, if it has the name of the output. -/
theorem shows_call (hstr : globals.find? "str".toList = none)
    (hisinstance : globals.find? "isinstance".toList = none) (context : Data)
    (hcall : p ≠ callName escaped) : ∃ r,
    Shows ((Script.Module.mk (pageState globals escaped p)).call (.function 0) [context]) r ∧
      r.toOption = if p = bufferName then some (Text.toStr "[]".toList) else contextText escaped context := by
  obtain ⟨v, s, hv, hs⟩ := ofAllData_singleton 4 context (pageState globals escaped p) (Nat.le_refl 4)
  obtain ⟨vs, s', t, hs', ht, halike⟩ := even_ofAllData [context] _ _
    (alike_loaded globals {} p [] [callStatement (callName escaped) p] [])
  obtain ⟨rfl, rfl⟩ := Outcome.done.inj (hv.symm.trans hs')
  have hescapes : Escapes s 1 3 := (escapes_loaded hstr hisinstance p _).grown (by decide) hs
  have hplain : (shownValue s p v).IsPlain := by
    rw [shownValue]
    split
    · exact isPlain_of_not_belongs rfl
    · exact isPlain_ofAllData hv
  have hdepth : (callState s (callName escaped) p v).heap.depth = 1 := by
    show s.heap.depth + 1 = 1
    rw [hs.depth]
    rfl
  refine ⟨_, shows_of_apply hv hs (eval_function (finds_callee hescapes) (Ne.symm hcall))
    (gives_callee (fun _ _ => trivial) (maxSteps - 34) (escapes_callState hescapes _ p v) hdepth hplain
        (P := fun _ => True) trivial), ?_⟩
  by_cases hbuffer : p = bufferName
  · have hlist := (collecting_bodyState s p [callStatement (callName escaped) p] v
      (by rw [hs.depth]; show 0 + 1 < maxCalls; decide)).list
    have hitems : (callState s (callName escaped) p v).heap.items (s.heap.objects.size + 1) = [] := by
      have hobject : (callState s (callName escaped) p v).heap.object? (s.heap.objects.size + 1) =
        some (.list #[]) := hlist
      simp [Heap.items, Heap.itemArray, hobject]
    rw [if_pos hbuffer, shownValue, if_pos hbuffer, calledText_emptyList hitems]
    rfl
  · rw [if_neg hbuffer, shownValue, if_neg hbuffer,
      calledText_congr (t := t) fun a => (face_callState s _ p v a).trans (halike.face a),
      contextText, ht]
    rfl

/-- A context with the name of the function is called instead, and no value cannot be called. -/
theorem shows_call_callName (globals : Table Text Value) (escaped : Bool) : ∃ e,
    Shows ((Script.Module.mk (pageState globals escaped (callName escaped))).call (.function 0)
      [.null]) (.error e) := by
  obtain ⟨s, hpage⟩ : ∃ s, pageState globals escaped (callName escaped) = s := ⟨_, rfl⟩
  have hv : Value.ofAllData [.null] s = .done [.none] s := rfl
  have hdepth : s.heap.depth = 0 := by
    rw [← hpage]
    rfl
  have hbuffer : callName escaped ≠ bufferName := by cases escaped <;> decide
  have hf := eval_parameter (n := maxSteps - 34 + 24) s (callName escaped) (callName escaped) .none
  rw [shownValue, if_neg hbuffer] at hf
  have hroom : (callState s (callName escaped) (callName escaped) .none).heap.depth < maxCalls := by
    show s.heap.depth + 1 < maxCalls
    rw [hdepth]
    decide
  have happly := apply_raised (n := maxSteps - 34 + 24) (g := .none)
    (a := { positional := [shownValue s (callName escaped) .none] }) hroom rfl
  exact ⟨_, shows_of_apply (by rw [hpage]; exact hv) (by rw [hpage]; exact .refl _ _) hf
    (P := fun _ => True) ⟨_, happly⟩⟩

theorem contextText_null (escaped : Bool) :
    contextText escaped .null = some (if escaped then [] else Text.toStr "None".toList) := by
  cases escaped with
  | true => rfl
  | false =>
    have hshow : Value.none.shown ((loaded {} [] []).withDepth 2).heap = .ok "None".toList := by
      refine Value.shown_of_show (by decide) fun n => ?_
      simp only [Value.show]
      rfl
    have htext : Value.none.toText ((loaded {} [] []).withDepth 2).heap =
        .ok (Text.toStr "None".toList) := by
      rw [Value.toText, hshow]
      · rfl
      all_goals simp
    exact congrArg Except.toOption htext

end Generated

namespace Cache

variable {w v : Workspace} {n : Nat} {c : Cache} {location : Path} {place : Place} {escaped : Bool}
  {name t : Text}

def contextSegment (escaped : Bool) (name : Text) : Segment :=
  if escaped then .escaped name else .raw name

def contextTemplate (escaped : Bool) (name : Text) : Text :=
  Segment.sourceOf .standard [contextSegment escaped name]

/-- The names that a template which shows its context cannot have for it. -/
def capturedNames (escaped : Bool) : List Text :=
  [Script.bufferName, Generated.callName escaped, Script.Grammar.debugName]

theorem bodyLines_contextSegment (escaped : Bool) (name : Text) :
    Compile.bodyLines [contextSegment escaped name] =
      [Script.Outline.indentOf 1 ++ Compile.appendCall (Generated.callName escaped) name] := by
  cases escaped <;> rfl

theorem shown_contextSegment {d : Delimiters} (hclose : d.closeMarker = "?>".toList)
    (hname : Script.isVariableName name = true) : (contextSegment escaped name).Shown d := by
  have hmark : '?' ∉ name := by
    obtain ⟨-, -, -, -, hpart⟩ := Generated.of_isVariableName hname
    intro hmem
    exact absurd (hpart _ hmem) (by decide)
  have hno : ∀ sigil, sigil ≠ '?' → ¬ d.closeMarker <:+: sigil :: name := by
    intro sigil hsigil hin
    have hmem : '?' ∈ sigil :: name := hin.subset (by simp [hclose])
    obtain h | h := List.mem_cons.1 hmem
    · exact hsigil h.symm
    · exact hmark h
  cases escaped with
  | true => exact hno '=' (by decide)
  | false => exact hno '-' (by decide)

/-- A name holds no marker, so the template is the directive. -/
theorem segments_contextTemplate {d : Delimiters} (hopen : d.openMarker = "<?".toList)
    (hclose : d.closeMarker = "?>".toList) (hname : Script.isVariableName name = true) :
    (Scan.ofTemplate d (contextTemplate escaped name)).segments = [contextSegment escaped name] := by
  have hsafe : d.Safe := Delimiters.standard_safe.of_markers hopen hclose
  have hbordered : Text.Unbordered d.closeMarker := by
    rw [hclose]
    exact Delimiters.standard_close_unbordered
  have hsource : contextTemplate escaped name =
      Segment.sourceOf d [contextSegment escaped name] := by
    cases escaped <;> simp [contextTemplate, contextSegment, Segment.source, hopen, hclose,
      Delimiters.standard]
  have hwell : Segment.WellFormed d [contextSegment escaped name] :=
    ⟨by simpa using shown_contextSegment hclose hname, .singleton _⟩
  rw [hsource, Scan.ofTemplate_sourceOf hsafe hbordered hwell]

theorem isVariableName_callName (escaped : Bool) :
    Script.isVariableName (Generated.callName escaped) = true := by
  cases escaped <;> decide

theorem normalName_callName (escaped : Bool) :
    Text.normalName (Generated.callName escaped) = Generated.callName escaped := by
  cases escaped <;> decide

theorem callName_ne_debugName (escaped : Bool) :
    Generated.callName escaped ≠ Script.Grammar.debugName := by
  cases escaped <;> decide

/-- The template is loaded as a function with the name of the context for its parameter. -/
theorem load_contextTemplate
    (h : Loadable w n c location place (contextTemplate escaped c.delimiters.contextName))
    (hhere : ∀ x ∈ w.here, '\x00' ∉ x) (hopen : c.delimiters.openMarker = "<?".toList)
    (hclose : c.delimiters.closeMarker = "?>".toList)
    (hname : Text.normalName c.delimiters.contextName ≠ Script.Grammar.debugName) :
    ∃ ref v, (load n location).exec w = (.ok ⟨place, Identity.ofPlace place, n⟩, v) ∧
      Holds v n (Identity.ofPlace place) ⟨Generated.loaded (c.store.globals ref)
        (Text.normalName c.delimiters.contextName)
        [Generated.callStatement (Generated.callName escaped)
          (Text.normalName c.delimiters.contextName)]⟩ (.function 0) := by
  have hcode := Generated.ofText_appendCall (isVariableName_callName escaped)
    c.delimiters.name_ok (Identity.not_mem_placeOf h.located hhere)
    (by rw [normalName_callName]; exact callName_ne_debugName escaped) hname
  rw [normalName_callName, ← bodyLines_contextSegment,
    ← segments_contextTemplate hopen hclose c.delimiters.name_ok, ← Compile.code_template] at hcode
  exact load_of_program h (Identity.not_mem_placeOf h.located hhere) hcode

theorem load_contextTemplate_debugName
    (h : Loadable w n c location place (contextTemplate escaped c.delimiters.contextName))
    (hhere : ∀ x ∈ w.here, '\x00' ∉ x) (hopen : c.delimiters.openMarker = "<?".toList)
    (hclose : c.delimiters.closeMarker = "?>".toList)
    (hname : Text.normalName c.delimiters.contextName = Script.Grammar.debugName) :
    ∃ ref v, (load n location).exec w = (.error (.load ⟨ref, .malformed⟩), v) := by
  have hcode := Generated.ofText_appendCall_debugName (isVariableName_callName escaped)
    c.delimiters.name_ok (Identity.not_mem_placeOf h.located hhere) hname
  rw [← bodyLines_contextSegment, ← segments_contextTemplate hopen hclose c.delimiters.name_ok,
    ← Compile.code_template] at hcode
  exact load_of_fault h (Identity.not_mem_placeOf h.located hhere) hcode

/-- What is rendered of a loaded template is what calling its function shows. -/
theorem renders_iff_of_shows {m : Script.Module} {f : Script.Value} {context : Data}
    {r : Script.Result Str}
    (hload : (load n location).exec w = (.ok ⟨place, Identity.ofPlace place, n⟩, v))
    (hholds : Holds v n (Identity.ofPlace place) m f)
    (hshows : Generated.Shows (m.call f [context]) r) (t : Str) :
    Renders w n location context t ↔ r.toOption = some t := by
  cases r with
  | ok x =>
    obtain ⟨id, s, hcall⟩ := hshows
    obtain ⟨u, hrender⟩ := render_of_call hholds hcall
    have hrenders : Renders w n location context x :=
      ⟨id, s.heap, u, by rw [exec_bind_ok hload, hrender]⟩
    exact ⟨fun ht => congrArg some (hrenders.unique ht), fun ht => by cases ht; exact hrenders⟩
  | error e =>
    obtain ⟨s, hcall⟩ := hshows
    obtain ⟨u, hrender⟩ := render_of_call_raised hholds hcall
    refine ⟨fun ⟨id, x, v', hrun⟩ => ?_, fun ht => by cases ht⟩
    rw [exec_bind_ok hload, hrender] at hrun
    cases congrArg Prod.fst hrun

/-- Showing the context works for any name but those whose normal forms the generated code needs. -/
theorem renders_context_iff (escaped : Bool)
    (h : Loadable w n c location place (contextTemplate escaped c.delimiters.contextName))
    (hhere : ∀ x ∈ w.here, '\x00' ∉ x) (hopen : c.delimiters.openMarker = "<?".toList)
    (hclose : c.delimiters.closeMarker = "?>".toList) :
    (∀ context t, Renders w n location context t ↔
        Generated.contextText escaped context = some t) ↔
      Text.normalName c.delimiters.contextName ∉ capturedNames escaped := by
  have hnull := Generated.contextText_null escaped
  by_cases hdebug : Text.normalName c.delimiters.contextName = Script.Grammar.debugName
  · refine iff_of_false (fun hall => ?_) (by simp [capturedNames, hdebug])
    obtain ⟨ref, v, hload⟩ := load_contextTemplate_debugName h hhere hopen hclose hdebug
    obtain ⟨id, x, u, hrun⟩ := (hall .null _).2 hnull
    rw [exec_bind_error hload] at hrun
    cases congrArg Prod.fst hrun
  obtain ⟨ref, v, hload, hholds⟩ := load_contextTemplate h hhere hopen hclose hdebug
  obtain ⟨hstr, hisinstance⟩ : (c.store.globals ref).find? "str".toList = none ∧
      (c.store.globals ref).find? "isinstance".toList = none :=
    ⟨find?_globals c.store ref _ (by simp [calledNames]),
      find?_globals c.store ref _ (by simp [calledNames])⟩
  by_cases hcall : Text.normalName c.delimiters.contextName = Generated.callName escaped
  · refine iff_of_false (fun hall => ?_) (by simp [capturedNames, hcall])
    rw [hcall] at hholds
    obtain ⟨e, hshows⟩ := Generated.shows_call_callName (c.store.globals ref) escaped
    have hrenders := (renders_iff_of_shows hload hholds hshows _).1 ((hall .null _).2 hnull)
    cases hrenders
  by_cases hbuffer : Text.normalName c.delimiters.contextName = Script.bufferName
  · refine iff_of_false (fun hall => ?_) (by simp [capturedNames, hbuffer])
    obtain ⟨r, hshows, hr⟩ := Generated.shows_call hstr hisinstance .null hcall
    have hrenders := (renders_iff_of_shows hload hholds hshows _).1 ((hall .null _).2 hnull)
    rw [hr, if_pos hbuffer] at hrenders
    cases escaped <;> exact absurd hrenders (by decide)
  · refine iff_of_true (fun context t => ?_) (by simp [capturedNames, hdebug, hcall, hbuffer])
    obtain ⟨r, hshows, hr⟩ := Generated.shows_call hstr hisinstance context hcall
    rw [renders_iff_of_shows hload hholds hshows, hr, if_neg hbuffer]

def strNamed : Delimiters where
  openMarker := "<?".toList
  closeMarker := "?>".toList
  contextName := "str".toList
  open_ne_nil := Delimiters.standard.open_ne_nil
  close_ne_nil := Delimiters.standard.close_ne_nil
  name_ok := by decide
  name_free := by decide
  open_ne_close := Delimiters.standard.open_ne_close

/-- A context of that name can be shown with entities, but not raw. -/
theorem renders_context_iff_str :
    (∀ context t, Renders (alone (single strNamed "<?=str?>".toList)) 0 (Path.ofText ['t']) context t ↔
      Generated.contextText true context = some t) ∧
    ¬ ∀ context t, Renders (alone (single strNamed "<?-str?>".toList)) 0 (Path.ofText ['t']) context t ↔
      Generated.contextText false context = some t := by
  have hescaped := renders_context_iff true
    (loadable_single strNamed "<?=str?>".toList) (by simp [alone]) rfl rfl
  have hraw := renders_context_iff false
    (loadable_single strNamed "<?-str?>".toList) (by simp [alone]) rfl rfl
  exact ⟨hescaped.2 (by decide), fun hall => hraw.1 hall (by decide)⟩

end Cache
end TemplateEngine
