import TemplateEngine.Compile
import TemplateEngine.Proofs.Generated.Loading
import TemplateEngine.Proofs.Script.Quoting

set_option autoImplicit false

/-!
# The list that collects the output

The body of the function that renders adds texts to a list, and at its end the function puts them
together.

Literals and values are added to the list by a line of code that calls a method of it. Up to what is added
these lines are the same tokens.
-/
namespace TemplateEngine

open Script

namespace Script

def State.collect (s : State) (a : Address) (v : Value) : State :=
  { s with heap := { s.heap with objects := s.heap.objects.modify a fun
      | .list items => .list (items.push v)
      | o => o } }

def State.withUnused (s : State) (u : Nat) : State := { s with heap := { s.heap with unused := u } }

def State.spend (s : State) : State := s.withUnused (s.heap.unused + 1)

/-- A function's variable for the output is a list with some items, and there is room for a call. -/
structure Collecting (f : Frame) (a : Address) (items : Array Value) (s : State) : Prop where
  found : ∃ b, findVariable s.heap bufferName (s.heap.objects.size + 1) f.scope =
    some (b, some (.list a))
  list : s.heap.object? a = some (.list items)
  room : s.heap.depth < maxCalls

theorem findVariable_congr {h h' : Heap} (hs : ∀ a, h.scope? a = h'.scope? a) (x : Text) (k : Nat)
    (a : Option Address) : findVariable h x k a = findVariable h' x k a := by
  induction k generalizing a with
  | zero => cases a <;> rfl
  | succ k ih => cases a <;> simp [findVariable, hs, ih]

theorem scope?_collect (s : State) (a : Address) (v : Value) (b : Address) :
    (s.collect a v).heap.scope? b = s.heap.scope? b := by
  simp only [State.collect, Heap.scope?, Heap.object?, Array.getElem?_modify]
  by_cases h : a = b
  · rw [if_pos h]
    cases s.heap.objects[b]? with
    | none => rfl
    | some o => cases o <;> rfl
  · rw [if_neg h]

theorem Collecting.withUnused {f : Frame} {a : Address} {items : Array Value} {s : State}
    (h : Collecting f a items s) (u : Nat) : Collecting f a items (s.withUnused u) := by
  obtain ⟨b, hb⟩ := h.found
  have hcongr : ∀ x k c, findVariable (s.withUnused u).heap x k c = findVariable s.heap x k c :=
    findVariable_congr fun _ => rfl
  exact ⟨⟨b, (hcongr _ _ _).trans hb⟩, h.list, h.room⟩

theorem Collecting.collect {f : Frame} {a : Address} {items : Array Value} {s : State} (v : Value)
    (h : Collecting f a items s) :
    Collecting f a (items.push v) (s.collect a v) := by
  obtain ⟨⟨b, hb⟩, hl, hr⟩ := h
  have hsize : (s.collect a v).heap.objects.size = s.heap.objects.size := by simp [State.collect]
  refine ⟨⟨b, ?_⟩, ?_, hr⟩
  · rw [findVariable_congr (scope?_collect s a v), hsize, hb]
  · rw [Heap.object?] at hl
    simp [Heap.object?, State.collect, Array.getElem?_modify, hl]

end Script

namespace Generated

variable {n : Nat} {f : Frame} {a : Address} {items : Array Value} {s t : State}

theorem eval_buffer (h : Collecting f a items s) :
    eval (n + 1) f (variableOf "_buf") s = .done (.list a) s := by
  obtain ⟨b, hb⟩ := h.found
  have hread : f.read bufferName s = .done (.list a) s := by simp only [Frame.read, hb]
  exact hread

/-- `_buf.append(e)` -/
def appendStatement (e : Expr) : Stmt :=
  .expression (callOf (.attribute (variableOf "_buf") "append".toList) e)

theorem eval_appendMethod (h : Collecting f a items s) :
    eval (n + 2) f (.attribute (variableOf "_buf") "append".toList) s =
      .done (.method (.list a) .append (.number s.heap.unused)) s.spend := by
  rw [eval, Run.settled_bind_done (eval_buffer h)]
  rfl

theorem apply_append (v : Value) (id : Identity) (h : s.heap.depth < maxCalls) :
    apply (n + 2) (.method (.list a) .append id) { positional := [v] } s =
      .done .none (s.collect a v) := by
  have hdeeper : Run.deeper (applyWithin (n + 1) (.method (.list a) .append id)
      { positional := [v] }) s = .done .none (s.collect a v) :=
    Run.deeper_done (t := (s.withDepth (s.heap.depth + 1)).collect a v) h rfl
  rw [apply]
  exact Run.bind_done hdeeper

theorem run_appendStatement {e : Expr} {v : Value} (h : Collecting f a items s)
    (he : eval (n + 1) f e s.spend = .done v t) (ht : t.heap.depth < maxCalls) :
    run (n + 4) f (appendStatement e) s = .done .normal (t.collect a v) := by
  have harguments : evalArguments (n + 2) f [.positional e] {} s.spend =
      .done { positional := [v] } t := by
    rw [evalArguments]
    exact Run.bind_done he
  have hcall : eval (n + 3) f (callOf (.attribute (variableOf "_buf") "append".toList) e) s =
      .done .none (t.collect a v) := by
    rw [callOf, eval_call (eval_appendMethod h), Run.bind_done harguments]
    exact apply_append v _ ht
  rw [appendStatement, run]
  exact Run.bind_done hcall

theorem needText_settle (v : Value) (n : Nat) : (v.settle n).1.needText = v.needText := by
  cases v <;> simp only [Value.settle] <;> split <;> rfl

theorem mapM_needText_settleAll (n : Nat) (done vs : List Value) :
    (Value.settleAll n done vs).1.mapM Value.needText =
      (done.reverse ++ vs).mapM Value.needText := by
  induction vs generalizing n done with
  | nil => simp [Value.settleAll]
  | cons v vs ih =>
    rw [Value.settleAll, ih]
    simp [needText_settle]

theorem join_nil (ts : List Str) : Text.join [] ts = ts.flatten := by
  fun_induction Text.join [] ts <;> simp_all

theorem textMethod_join {vs : List Value} {ts : List Str}
    (h : vs.mapM Value.needText = .ok ts) :
    ∃ id, TextMethod.join [] vs = .ok (.text ts.flatten id) := by
  unfold TextMethod.join
  split
  · next t id =>
    obtain rfl : [t] = ts := by
      simpa [Value.needText, pure, Except.pure, bind, Except.bind] using h
    exact ⟨id, by simp [pure, Except.pure]⟩
  · refine ⟨.ofOwn ts.flatten, ?_⟩
    rw [h]
    simp [Value.ofNewText, join_nil, pure, Except.pure, bind, Except.bind]

theorem itemsOf_list (h : s.heap.object? a = some (.list items)) :
    ∃ vs u, (Value.list a).itemsOf s = .done vs (s.withUnused u) ∧
      vs.mapM Value.needText = items.toList.mapM Value.needText := by
  have hitems : s.heap.items a = items.toList := by simp [Heap.items, Heap.itemArray, h]
  have hof : (Value.list a).itemsOf s = Run.settleAll items.toList s := by
    rw [← hitems]
    rfl
  rw [hof, Run.settleAll]
  split
  · exact ⟨_, s.heap.unused, rfl, rfl⟩
  · exact ⟨_, _, rfl, mapM_needText_settleAll s.heap.unused [] items.toList⟩

theorem settle_text (t : Str) (id : Identity) (s : State) :
    ∃ id' u, Run.settle (.text t id) s = .done (.text t id') (s.withUnused u) := by
  have hset : (Value.text t id).settle s.heap.unused =
      if (Value.text t id).isSettled then (.text t id, s.heap.unused)
      else (.text t (.number s.heap.unused), s.heap.unused + 1) := by
    rw [Value.settle]
    · rfl
    · simp
    · simp
  by_cases h : (Value.text t id).isSettled = true
  · exact ⟨id, s.heap.unused, by rw [Run.settle, if_pos h]; rfl⟩
  · refine ⟨.number s.heap.unused, s.heap.unused + 1, ?_⟩
    rw [Run.settle, if_neg h, hset, if_neg h]
    rfl

theorem run_returnStatement {ts : List Str} (h : Collecting f a items s)
    (ht : items.toList.mapM Value.needText = .ok ts) :
    ∃ id u, run (n + 6) f returnStatement s = .done (.give (.text ts.flatten id)) (s.withUnused u) := by
  have hmethod : eval (n + 4) f (.attribute (literalOf "") "join".toList) s =
      .done (.method (.text [] .fresh) .join (.number s.heap.unused)) s.spend := rfl
  have hbuffer := h.withUnused (s.heap.unused + 1)
  have hargument : evalArguments (n + 4) f [.positional (variableOf "_buf")] {} s.spend =
      .done { positional := [.list a] } s.spend := by
    rw [evalArguments]
    exact Run.bind_done (eval_buffer hbuffer)
  obtain ⟨vs, u, hvs, htexts⟩ := itemsOf_list (s := s.spend.withDepth (s.heap.depth + 1)) hbuffer.list
  obtain ⟨id, hjoin⟩ := textMethod_join (htexts.trans ht)
  have hwithin : applyWithin (n + 3) (.method (.text [] .fresh) .join (.number s.heap.unused))
      { positional := [.list a] } (s.spend.withDepth (s.heap.depth + 1)) =
      .done (.text ts.flatten id) ((s.spend.withDepth (s.heap.depth + 1)).withUnused u) := by
    change ((Value.list a).itemsOf >>= fun vs => Run.ofResult (TextMethod.join [] vs)) _ = _
    rw [Run.bind_done hvs, hjoin]
    rfl
  have hdeeper : Run.deeper (applyWithin (n + 3) (.method (.text [] .fresh) .join
      (.number s.heap.unused)) { positional := [.list a] }) s.spend =
      .done (.text ts.flatten id) (s.spend.withUnused u) :=
    Run.deeper_done hbuffer.room hwithin
  obtain ⟨id', u', hsettle⟩ := settle_text ts.flatten id (s.spend.withUnused u)
  have hcall : eval (n + 5) f (callOf (.attribute (literalOf "") "join".toList) (variableOf "_buf")) s =
      .done (.text ts.flatten id') (s.withUnused u') := by
    rw [callOf, eval_call hmethod, Run.bind_done hargument, apply, Run.settled]
    exact (Run.bind_done hdeeper).trans hsettle
  refine ⟨id', u', ?_⟩
  rw [returnStatement, run]
  exact Run.bind_done hcall

def appendTokens : List Token :=
  [⟨.name, "_buf".toList, 0, 0⟩, ⟨.operator, ".".toList, 0, 4⟩, ⟨.name, "append".toList, 0, 5⟩,
    ⟨.operator, "(".toList, 0, 11⟩]

def appendLexemes : List Lexeme :=
  [nameOf "_buf", .symbol .dot, nameOf "append", .symbol .parenOpen]

theorem rest_append {t : Text} {ts : List Token} {e : LineEnd}
    (h : LineScan.rest Lexeme.nameRule 0 12 t = (ts, e)) :
    LineScan.rest Lexeme.nameRule 0 0 ("_buf.append(".toList ++ t) = (appendTokens ++ ts, e) := by
  have h3 := LineScan.rest_cons Lexeme.nameRule (g := []) (t := "(".toList ++ t) (by simp) rfl
    (LineScan.lead_operator Lexeme.nameRule 0 11 rfl (by decide) rfl (by decide) rfl) h
  have h2 := LineScan.rest_cons Lexeme.nameRule (g := []) (t := "append(".toList ++ t)
    (x := "append".toList) (k := .name) (by simp) rfl rfl h3
  have h1 := LineScan.rest_cons Lexeme.nameRule (g := []) (t := ".append(".toList ++ t)
    (x := ".".toList) (k := .operator) (by simp) rfl rfl h2
  exact LineScan.rest_cons Lexeme.nameRule (g := []) (x := "_buf".toList) (k := .name) (by simp) rfl
    rfl h1

theorem ofTokens?_append {ts : List Token} {ls : List Lexeme} (h : Lexeme.ofTokens? ts = some ls) :
    Lexeme.ofTokens? (appendTokens ++ ts) = some (appendLexemes ++ ls) := by
  refine Lexeme.ofTokens?_cons (by simp) (by decide +kernel) ?_
  refine Lexeme.ofTokens?_cons (by simp) (by decide +kernel) ?_
  refine Lexeme.ofTokens?_cons (by simp) (by decide +kernel) ?_
  exact Lexeme.ofTokens?_cons (by simp) (by decide +kernel) h

def literalTokens (t : Text) : List Token :=
  appendTokens ++ [⟨.string, Literal.quote t, 0, 12⟩,
    ⟨.operator, ")".toList, 0, 12 + (Literal.quote t).length⟩]

def literalLexemes (t : Text) : List Lexeme := appendLexemes ++ [.text t, .symbol .parenClose]

theorem reads_literalLine (t : Text) :
    LineScan.Reads (Compile.literalLine t) (literalTokens t) where
  starts := ⟨'_', _, rfl, by decide, by decide, by decide⟩
  rest_eq := by
    have hclose : LineScan.rest Lexeme.nameRule 0 (12 + (Literal.quote t).length) [')'] =
        ([⟨.operator, ")".toList, 0, 12 + (Literal.quote t).length⟩], .plain) :=
      LineScan.rest_cons Lexeme.nameRule (g := []) (by simp) rfl rfl rfl
    have hquote := LineScan.rest_cons Lexeme.nameRule (g := []) (t := Literal.quote t ++ [')'])
      (by simp) rfl (Literal.lead_quote Lexeme.nameRule 0 12 t (by simp)) hclose
    have h := rest_append hquote
    simpa [Compile.literalLine, bufferName, literalTokens] using h
  depth := by simp [literalTokens, appendTokens, LineScan.depthAfter, Token.bracketChange]
  ne_nil := by simp [literalTokens, appendTokens]

theorem readAs_literalLine (t : Text) (d : Nat) :
    Outline.ReadAs [Outline.indentOf d ++ Compile.literalLine t] [(d, literalLexemes t)] := by
  refine Outline.readAs_line (reads_literalLine t) ?_ ?_ d
  · simp [literalTokens, appendTokens, Outline.bracketsFit, LineScan.depthAfter, Token.bracketChange,
      Outline.maxBrackets]
  · refine ofTokens?_append ?_
    have hvalue : Lexeme.ofToken? ⟨.string, Literal.quote t, 0, 12⟩ = some (.text t) := by
      simp [Lexeme.ofToken?, Literal.value?_quote]
    exact Lexeme.ofTokens?_cons (by simp) hvalue (Lexeme.ofTokens?_cons (by simp) rfl rfl)

theorem isLine_quote (t : Text) : IsLine (Literal.quote t) := by
  have hescape : IsLine (Literal.escape t) := Literal.not_mem_escape t
  have hquote : IsLine ['\''] := by
    unfold IsLine
    decide
  exact (hquote.append hescape).append hquote

theorem isLine_literalLine (t : Text) : IsLine (Compile.literalLine t) := by
  have hfront : IsLine (bufferName ++ ".append(".toList) := by
    unfold IsLine
    decide +kernel
  have hback : IsLine ")".toList := by
    unfold IsLine
    decide
  exact (hfront.append (isLine_quote t)).append hback

theorem piece_literalLexemes (t : Text) : Grammar.piece (literalLexemes t) [] =
    some (.simple [appendStatement (.constant (.text t))]) := by
  have h : Grammar.piece (literalLexemes t) [] =
      some (.simple [appendStatement (.constant (.text (t.toStr ++ [])))]) := rfl
  rwa [List.append_nil] at h

end Generated
end TemplateEngine
