import TemplateEngine.Proofs.Generated.Buffer
import TemplateEngine.Proofs.Generated.Escaping

set_option autoImplicit false

/-!
# The function that shows its parameter

A template whose only directive is the name of its context is compiled to a function that calls `str` or
the function that escapes values on its parameter, and adds what they give to the output.
-/
namespace TemplateEngine

open Script

namespace Generated

section

variable {f p : Text}

theorem rest_name {k : Nat} {r : Text} {ts : List Token} {e : LineEnd}
    (hp : isVariableName p = true) (hr : r.head?.all (fun d => !Lexeme.nameRule.part d) = true)
    (hq : ∀ d ∈ r.take 2, Token.isQuote d = false)
    (h : LineScan.rest Lexeme.nameRule 0 (k + p.length) r = (ts, e)) :
    LineScan.rest Lexeme.nameRule 0 k (p ++ r) = (⟨.name, p, 0, k⟩ :: ts, e) := by
  obtain ⟨c, w, rfl, hs, hw⟩ := of_isVariableName hp
  have hquote : ∀ d ∈ (c :: (w ++ r)).take 3, Token.isQuote d = false := by
    intro d hd
    rw [← List.cons_append, List.take_append, List.mem_append] at hd
    obtain hd | hd := hd
    · exact not_isQuote_of_part (hw d (List.mem_of_mem_take hd))
    · exact hq d ((List.take_subset_take_left r (by simp)) hd)
  have hlead := Lexeme.lead_name 0 k (r := r) hs (fun d hd => hw d (by simp [hd])) hr hquote
  exact LineScan.rest_cons Lexeme.nameRule (g := []) (by simp)
    (Lexeme.startsToken_of_start hs (w ++ r)) hlead h

def callTokens (f p : Text) : List Token :=
  appendTokens ++ [⟨.name, f, 0, 12⟩, ⟨.operator, "(".toList, 0, 12 + f.length⟩,
    ⟨.name, p, 0, 12 + f.length + 1⟩, ⟨.operator, ")".toList, 0, 12 + f.length + 1 + p.length⟩,
    ⟨.operator, ")".toList, 0, 12 + f.length + 1 + p.length + 1⟩]

def callLexemes (f p : Text) : List Lexeme :=
  appendLexemes ++ [.name (Text.normalName f), .symbol .parenOpen, .name (Text.normalName p),
    .symbol .parenClose, .symbol .parenClose]

theorem reads_appendCall (hf : isVariableName f = true) (hp : isVariableName p = true) :
    LineScan.Reads (Compile.appendCall f p) (callTokens f p) where
  starts := ⟨'_', _, rfl, by decide, by decide, by decide⟩
  rest_eq := by
    have hlast : LineScan.rest Lexeme.nameRule 0 (12 + f.length + 1 + p.length + 1) [')'] =
        ([⟨.operator, ")".toList, 0, 12 + f.length + 1 + p.length + 1⟩], .plain) :=
      LineScan.rest_cons Lexeme.nameRule (g := []) (by simp) rfl rfl rfl
    have hclose : LineScan.rest Lexeme.nameRule 0 (12 + f.length + 1 + p.length) "))".toList =
        ([⟨.operator, ")".toList, 0, 12 + f.length + 1 + p.length⟩,
          ⟨.operator, ")".toList, 0, 12 + f.length + 1 + p.length + 1⟩], .plain) :=
      LineScan.rest_cons Lexeme.nameRule (g := []) (by simp) rfl rfl hlast
    have hbrackets : ∀ d ∈ "))".toList, Token.isQuote d = false := by
      intro d hd
      obtain rfl : d = ')' := by simpa using hd
      rfl
    have hname := rest_name hp rfl (fun d hd => hbrackets d (List.mem_of_mem_take hd)) hclose
    have hopen : LineScan.rest Lexeme.nameRule 0 (12 + f.length)
        ("(".toList ++ (p ++ "))".toList)) = (⟨.operator, "(".toList, 0, 12 + f.length⟩ :: _, _) :=
      LineScan.rest_cons Lexeme.nameRule (g := []) (by simp) rfl
      (LineScan.lead_operator Lexeme.nameRule 0 _ rfl (by decide) rfl (by decide) rfl) hname
    have hquote : ∀ d ∈ "(".toList ++ (p ++ "))".toList), Token.isQuote d = false := by
      obtain ⟨-, -, -, -, hw⟩ := of_isVariableName hp
      intro d hd
      simp only [List.mem_append] at hd
      obtain hd | hd | hd := hd
      · exact List.mem_singleton.1 hd ▸ rfl
      · exact not_isQuote_of_part (hw d hd)
      · exact hbrackets d hd
    have hcall := rest_name (k := 12) hf rfl (fun d hd => hquote d (List.mem_of_mem_take hd)) hopen
    have h := rest_append hcall
    simpa [Compile.appendCall, bufferName, callTokens] using h
  depth := by simp [callTokens, appendTokens, LineScan.depthAfter, Token.bracketChange]
  ne_nil := by simp [callTokens, appendTokens]

theorem readAs_appendCall (hf : isVariableName f = true) (hp : isVariableName p = true) (d : Nat) :
    Outline.ReadAs [Outline.indentOf d ++ Compile.appendCall f p] [(d, callLexemes f p)] := by
  refine Outline.readAs_line (reads_appendCall hf hp) ?_ ?_ d
  · simp [callTokens, appendTokens, Outline.bracketsFit, LineScan.depthAfter, Token.bracketChange,
      Outline.maxBrackets]
  · refine ofTokens?_append ?_
    refine Lexeme.ofTokens?_cons (by simp) (ofName?_of_isVariableName hf) ?_
    refine Lexeme.ofTokens?_cons (by simp) rfl ?_
    refine Lexeme.ofTokens?_cons (by simp) (ofName?_of_isVariableName hp) ?_
    exact Lexeme.ofTokens?_cons (by simp) rfl (Lexeme.ofTokens?_cons (by simp) rfl rfl)

theorem isLine_appendCall (hf : isVariableName f = true) (hp : isVariableName p = true) :
    IsLine (Compile.appendCall f p) := by
  have hfront : IsLine (bufferName ++ ".append(".toList) := by
    unfold IsLine
    decide +kernel
  have hopen : IsLine "(".toList := by
    unfold IsLine
    decide
  have hclose : IsLine "))".toList := by
    unfold IsLine
    decide
  exact (((hfront.append (isLine_of_isVariableName hf)).append hopen).append
    (isLine_of_isVariableName hp)).append hclose

def callStatement (f p : Text) : Stmt := appendStatement (callOf (.name f) (.name p))

def nameExpr (n : Text) : Expr :=
  if n = Grammar.debugName then .constant (.bool true) else .name n

theorem nameExpr_of_ne {n : Text} (h : n ≠ Grammar.debugName) : nameExpr n = .name n := if_neg h

theorem piece_callLexemes (hf : Text.normalName f ≠ Grammar.debugName)
    (hp : Text.normalName p ≠ Grammar.debugName) : Grammar.piece (callLexemes f p) [] =
    some (.simple [callStatement (Text.normalName f) (Text.normalName p)]) := by
  have h : Grammar.piece (callLexemes f p) [] = some (.simple [appendStatement
    (callOf (nameExpr (Text.normalName f)) (nameExpr (Text.normalName p)))]) := rfl
  rw [h, nameExpr_of_ne hf, nameExpr_of_ne hp, callStatement]

theorem fits_callStatement (f p : Text) : Fits [callStatement f p] := by
  have hnesting : Grammar.nestingOfBlock [callStatement f p] = ⟨4, 48⟩ := rfl
  refine ⟨?_, ?_, rfl⟩
  · rw [hnesting]
    decide
  · rw [hnesting]
    decide

section

variable {origin : Text} (hf : isVariableName f = true) (hp : isVariableName p = true)
  (ho : '\x00' ∉ origin)

include hf hp in
theorem isLine_callLine : ∀ l ∈ [Outline.indentOf 1 ++ Compile.appendCall f p], IsLine l := by
  have hindent : IsLine (Outline.indentOf 1) := by
    unfold IsLine
    decide
  exact List.forall_mem_singleton.2 (hindent.append (isLine_appendCall hf hp))

include hf hp ho

theorem ofText_appendCall (hnf : Text.normalName f ≠ Grammar.debugName)
    (hnp : Text.normalName p ≠ Grammar.debugName) :
    Program.ofText (module p [Outline.indentOf 1 ++ Compile.appendCall f p] origin) =
      .ok (program (Text.normalName p) [callStatement (Text.normalName f) (Text.normalName p)]) := by
  have hpiece : Grammar.ofOutlines [.mk (callLexemes f p) []] =
      some [.simple [callStatement (Text.normalName f) (Text.normalName p)]] := by
    have h : Grammar.ofOutline (.mk (callLexemes f p) []) = _ := piece_callLexemes hnf hnp
    simp [Grammar.ofOutlines, h]
  have hheight : Outline.allHeight [.mk (callLexemes f p) []] < Outline.maxColumns :=
    Nat.lt_of_lt_of_le Nat.one_lt_two (by decide)
  exact ofText_module hp hnp (readAs_appendCall hf hp 1) (isLine_callLine hf hp) ho hheight hpiece
    rfl (fits_callStatement _ _)

theorem ofText_appendCall_debugName (hn : Text.normalName p = Grammar.debugName) :
    Program.ofText (module p [Outline.indentOf 1 ++ Compile.appendCall f p] origin) =
      .error .malformed := by
  have hheight : Outline.allHeight [.mk (callLexemes f p) []] < Outline.maxColumns :=
    Nat.lt_of_lt_of_le Nat.one_lt_two (by decide)
  refine ofText_module_debugName hp hn ?_ (isLine_callLine hf hp) ho hheight
  exact readAs_appendCall hf hp 1

end

end

def Shows (o : Outcome Value) : Result Str → Prop
  | .ok t => ∃ id u, o = .done (.text t id) u
  | .error e => ∃ u, o = .raised e u

variable {n : Nat} {s t : State} {a : Address} {f p : Text} {v g : Value} {r : Result Str}

theorem mem_distinct {x : Text} {xs : List Text} : x ∈ distinct xs ↔ x ∈ xs := by
  have hfold : ∀ seen : List Text,
      x ∈ xs.foldl (fun seen n => if seen.contains n then seen else seen ++ [n]) seen ↔
        x ∈ seen ∨ x ∈ xs := by
    induction xs with
    | nil => simp
    | cons y xs ih =>
      intro seen
      rw [List.foldl_cons, ih]
      split
      · next hy =>
        have hmem : y ∈ seen := by simpa using hy
        rw [List.mem_cons]
        constructor
        · tauto
        · rintro (hx | rfl | hx)
          · exact .inl hx
          · exact .inl hmem
          · exact .inr hx
      · simp [or_assoc]
  rw [distinct, hfold]
  simp

theorem boundAll_append (ss ts : List Stmt) :
    Stmt.boundAll (ss ++ ts) = Stmt.boundAll ss ++ Stmt.boundAll ts := by
  induction ss with
  | nil => rfl
  | cons c ss ih => rw [List.cons_append, Stmt.boundAll, Stmt.boundAll, ih, List.append_assoc]

theorem find?_foldl_none (xs : List Text) (t : Table Text (Option Value)) (x : Text) :
    ((xs.map fun x => (x, none)).foldl (fun t e => t.insert e.1 e.2) t).find? x =
      if x ∈ xs then some none else t.find? x := by
  induction xs generalizing t with
  | nil => simp
  | cons y xs ih =>
    rw [List.map_cons, List.foldl_cons, ih, Table.find?_insert]
    grind

/-- The parameter has a value; the output and what the body binds have none at the start. -/
theorem find?_firstScope (param : Text) (body : List Stmt) (v : Value) (x : Text) :
    (firstScope param body v).bindings.find? x = if param = x then some (some v)
      else if x ∈ bufferName :: Stmt.boundAll body then some none else none := by
  have hlocals : (renderClosure param body).locals =
      distinct (param :: bufferName :: Stmt.boundAll body) := by
    have hreturn : Stmt.boundAll [returnStatement] = [] := rfl
    have hbuffer : bufferStatement.bound = [bufferName] := rfl
    rw [renderClosure, Stmt.boundAll, boundAll_append, hreturn, hbuffer, List.append_nil]
    rfl
  have hlookup : ∀ y, (List.lookup y [(param, v)]).isNone = true ↔ y ≠ param := by
    intro y
    by_cases hy : y = param
    · simp [hy]
    · simp [List.lookup_cons, beq_eq_false_iff_ne.2 hy, hy]
  have hfirst : (({} : Table Text (Option Value)).insert param (some v)).find? x =
      if param = x then some (some v) else none := Table.find?_insert _ _ _ _
  rw [firstScope, firstBindings, List.singleton_append, List.foldl_cons, find?_foldl_none, hfirst]
  simp only [List.mem_filter, hlocals, mem_distinct, hlookup]
  grind

theorem findVariable_bodyState (s : State) (f p x : Text) (v : Value) (k : Nat) :
    findVariable (bodyState s p [callStatement f p] v).heap x (k + 1)
      (some s.heap.objects.size) =
      if bufferName = x then some (s.heap.objects.size, some (.list (s.heap.objects.size + 1)))
      else if p = x then some (s.heap.objects.size, some v) else none := by
  have hscope : (bodyState s p [callStatement f p] v).heap.scope? s.heap.objects.size =
      some (bufferScope (firstScope p [callStatement f p] v) (s.heap.objects.size + 1)) := by
    have hsize : (entered s p [callStatement f p] v).heap.objects.size =
        s.heap.objects.size + 1 := by
      simp [entered, push, State.withDepth]
    rw [← hsize]
    exact scope?_startBuffer (scope?_push_self _ _)
  have hnone : findVariable (bodyState s p [callStatement f p] v).heap x k none = none := by
    cases k <;> rfl
  have hfind : (bufferScope (firstScope p [callStatement f p] v) (s.heap.objects.size + 1)).bindings.find?
      x = if bufferName = x then some (some (.list (s.heap.objects.size + 1)))
        else if p = x then some (some v) else none := by
    have hbound : Stmt.boundAll [callStatement f p] = [] := rfl
    rw [bufferScope, Table.find?_insert, find?_firstScope, hbound]
    simp only [List.mem_singleton]
    grind
  simp only [findVariable, hscope, hfind]
  by_cases hx : bufferName = x
  · simp only [if_pos hx]
  · by_cases hp : p = x
    · simp only [if_neg hx, if_pos hp]
    · simp only [if_neg hx, if_neg hp]
      exact hnone

/-- The value that the function is called on: the parameter's, unless the output hides it. -/
def shownValue (s : State) (p : Text) (v : Value) : Value :=
  if p = bufferName then .list (s.heap.objects.size + 1) else v

abbrev callState (s : State) (f p : Text) (v : Value) : State :=
  (bodyState s p [callStatement f p] v).spend

theorem findVariable_callState (s : State) (f p x : Text) (v : Value) (k : Nat) :
    findVariable (callState s f p v).heap x (k + 1) (some s.heap.objects.size) =
      if bufferName = x then some (s.heap.objects.size, some (.list (s.heap.objects.size + 1)))
      else if p = x then some (s.heap.objects.size, some v) else none := by
  have hcongr : ∀ x k b, findVariable (callState s f p v).heap x k b =
      findVariable (bodyState s p [callStatement f p] v).heap x k b :=
    findVariable_congr fun _ => rfl
  rw [hcongr, findVariable_bodyState]

theorem eval_parameter (s : State) (f p : Text) (v : Value) :
    eval (n + 1) ⟨some s.heap.objects.size⟩ (.name p) (callState s f p v) =
      .done (shownValue s p v) (callState s f p v) := by
  have hread : Frame.read ⟨some s.heap.objects.size⟩ p (callState s f p v) =
      .done (shownValue s p v) (callState s f p v) := by
    by_cases hp : p = bufferName
    · simp only [Frame.read, findVariable_callState, shownValue, hp, if_true]
    · simp only [Frame.read, findVariable_callState, shownValue, if_neg hp, if_neg (Ne.symm hp),
        if_true]
  exact hread

structure Finds (s : State) (f : Text) (g : Value) : Prop where
  apart : f ≠ bufferName
  found : s.globals.find? f = some g ∨ s.globals.find? f = none ∧ Value.builtin? f = some g

theorem eval_function (h : Finds s f g) (hp : f ≠ p) :
    eval (n + 1) ⟨some s.heap.objects.size⟩ (.name f) (callState s f p v) =
      .done g (callState s f p v) := by
  have hfind := fun k => findVariable_callState s f p f v k
  simp only [if_neg (Ne.symm h.apart), if_neg (Ne.symm hp)] at hfind
  obtain hglobal | ⟨hglobal, hbuiltin⟩ := h.found
  · have hread : Frame.read ⟨some s.heap.objects.size⟩ f (callState s f p v) =
        .done g (callState s f p v) := by
      have hglobal' : (callState s f p v).globals.find? f = some g := hglobal
      simp only [Frame.read, hfind, hglobal']
    exact hread
  · exact Frame.read_builtin (hfind _) hglobal hbuiltin

theorem eval_callState {w : Value} (hf : eval (n + 2) ⟨some s.heap.objects.size⟩ (.name f)
      (callState s f p v) = .done w (callState s f p v)) :
    eval (n + 3) ⟨some s.heap.objects.size⟩ (callOf (.name f) (.name p)) (callState s f p v) =
      apply (n + 2) w { positional := [shownValue s p v] } (callState s f p v) := by
  have harguments : evalArguments (n + 2) ⟨some s.heap.objects.size⟩ [.positional (.name p)] {}
      (callState s f p v) = .done { positional := [shownValue s p v] } (callState s f p v) :=
    evalArguments_one (eval_parameter s f p v)
  rw [callOf, eval_call hf, Run.bind_done harguments]

theorem findVariable_grown {h k : Heap} {x : Text} {m m' : Nat} {b : Option Address}
    {found : Address × Option Value} (hm : m ≤ m')
    (hkept : ∀ i c, h.scope? i = some c → k.scope? i = some c)
    (hfound : findVariable h x m b = some found) : findVariable k x m' b = some found := by
  induction m generalizing m' b with
  | zero => simp [findVariable] at hfound
  | succ m ih =>
    obtain ⟨m', rfl⟩ := Nat.exists_eq_succ_of_ne_zero (Nat.ne_of_gt (Nat.lt_of_lt_of_le m.succ_pos hm))
    cases b with
    | none => simp [findVariable] at hfound
    | some b =>
      simp only [findVariable] at hfound ⊢
      cases hc : h.scope? b with
      | none => simp [hc] at hfound
      | some c =>
        simp only [hc] at hfound
        simp only [hkept b c hc]
        cases hx : c.bindings.find? x with
        | some w => simpa [hx] using hfound
        | none =>
          simp only [hx] at hfound
          exact ih (Nat.le_of_succ_le_succ hm) hfound

variable {P : Value → Prop}

theorem collecting_of_extended {frame : Frame} {items : Array Value}
    (h : Collecting frame a items s) (hg : State.Extended P s t) :
    Collecting frame a items t := by
  have hkept : ∀ i c, s.heap.scope? i = some c → t.heap.scope? i = some c := by
    intro i c hc
    have hlt := lt_of_scope? hc
    simpa only [Heap.scope?, hg.kept i hlt] using hc
  obtain ⟨b, hb⟩ := h.found
  exact ⟨⟨b, findVariable_grown (Nat.succ_le_succ hg.size) hkept hb⟩, hg.object? h.list,
    by rw [hg.depth]; exact h.room⟩

theorem run_appendStatement_raised {frame : Frame} {items : Array Value} {x : Expr} {e : Raised}
    (h : Collecting frame a items s) (hx : eval (n + 1) frame x s.spend = .raised e t) :
    run (n + 4) frame (appendStatement x) s = .raised e t := by
  have hargument : evalArguments (n + 2) frame [.positional x] {} s.spend = .raised e t := by
    rw [evalArguments]
    exact Run.bind_raised hx
  have hadd : eval (n + 3) frame (callOf (.attribute (variableOf "_buf") "append".toList) x) s =
      .raised e t :=
    (eval_call (eval_appendMethod h)).trans (Run.bind_raised hargument)
  exact Run.bind_raised hadd

theorem shows_render
    (hs : s.heap.object? a = some (.function (renderClosure p [callStatement f p])))
    (hd : s.heap.depth + 1 < maxCalls)
    (hcall : (eval (n + 4) ⟨some s.heap.objects.size⟩ (callOf (.name f) (.name p))).Gives P
      (callState s f p v) r) :
    Shows (apply (n + 12) (.function a) { positional := [v] } s) r := by
  have hstart := collecting_bodyState s p [callStatement f p] v hd
  cases r with
  | ok x =>
    obtain ⟨id, t, heval, hgrown⟩ := hcall
    have hrun := run_appendStatement hstart heval (by rw [hgrown.depth]; exact hd)
    have hbody : runAll (n + 7 + [callStatement f p].length) ⟨some s.heap.objects.size⟩
        [callStatement f p] (bodyState s p [callStatement f p] v) =
        .done .normal (t.collect (s.heap.objects.size + 1) (.text x id)) :=
      runAll_cons hrun
    have hcollected := (collecting_of_extended (hstart.withUnused _) hgrown).collect (.text x id)
    obtain ⟨id', u, happly⟩ := apply_renderClosure hs (Nat.lt_of_succ_lt hd) hbody hcollected
      (show _ = Except.ok [x] from rfl)
    exact ⟨id', _, by simpa using happly⟩
  | error e =>
    obtain ⟨t, heval⟩ := hcall
    have hrun := run_appendStatement_raised hstart heval
    exact ⟨_, apply_renderClosure_raised hs (Nat.lt_of_succ_lt hd) (runAll_cons_raised hrun)⟩

def callName (escaped : Bool) : Text := if escaped then escapeName else Compile.textCall

def callee (escaped : Bool) : Value := if escaped then .function 1 else .type .str

variable {globals : Table Text Value} {escaped : Bool}

theorem escapes_loaded (hstr : globals.find? "str".toList = none)
    (hisinstance : globals.find? "isinstance".toList = none) (p : Text) (body : List Stmt) :
    Escapes (loaded globals p body) 1 3 where
  escape := by
    simp only [loaded, Table.find?_insert]
    rw [if_neg (by decide), if_neg (by decide), if_true]
  special := by
    simp only [loaded, Table.find?_insert]
    rw [if_neg (by decide), if_true]
  entity := by
    simp only [loaded, Table.find?_insert]
    rw [if_true]
  str := by
    simp only [loaded, Table.find?_insert]
    rw [if_neg (by decide), if_neg (by decide), if_neg (by decide), if_neg (by decide), hstr]
  isinstance := by
    simp only [loaded, Table.find?_insert]
    rw [if_neg (by decide), if_neg (by decide), if_neg (by decide), if_neg (by decide), hisinstance]
  closure := rfl
  table := rfl

def calledText (escaped : Bool) (s : State) (v : Value) : Result Str :=
  if escaped then escapedText (s.withDepth 3).heap v else v.toText (s.withDepth 2).heap

theorem calledText_congr {s t : State} (hface : ∀ a, s.heap.face a = t.heap.face a) (v : Value) :
    calledText escaped s v = calledText escaped t v := by
  have htext : ∀ d, v.toText (s.withDepth d).heap = v.toText (t.withDepth d).heap := by
    intro d
    exact Value.toText_congr (h := (s.withDepth d).heap) (k := (t.withDepth d).heap) hface rfl v
  cases escaped with
  | true =>
    by_cases hv : v = .none
    · subst hv
      rfl
    · simp only [calledText, if_true, escapedText_of_ne hv, htext]
  | false => exact htext 2

/-- The function that is called gives the text of the value. -/
theorem gives_callee {P : Value → Prop} (hP : ∀ x id, P (.text x id)) (n : Nat) (h : Escapes s 1 3)
    (hd : s.heap.depth = 1) (hv : v.IsPlain) (hPv : P v) :
    (apply (n + 25) (callee escaped) { positional := [v] }).Gives P s (calledText escaped s v) := by
  have hroom : s.heap.depth + 3 < maxCalls := by
    rw [hd]
    decide
  cases escaped with
  | true =>
    have hgives := gives_escape (n := n) hP h hroom hv hPv
    rw [hd] at hgives
    exact hgives
  | false =>
    have hgives := gives_str (P := P) (n + 23) v (s := s) (by omega)
    rw [hd] at hgives
    exact hgives

end Generated
end TemplateEngine
