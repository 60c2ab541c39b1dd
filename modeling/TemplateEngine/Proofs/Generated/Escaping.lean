import TemplateEngine.Proofs.Generated.Calling
import TemplateEngine.Proofs.Script.Lookup
import TemplateEngine.Proofs.Script.Showing

set_option autoImplicit false

/-!
# Running the function that escapes values

The function of a generated module that escapes values makes each of four characters of a text the name
of an entity. It leaves a text without such characters as it is, makes other values texts first, and
nothing of no value.
-/
namespace TemplateEngine

open Script

namespace Script

/-- The state `t` has what `s` has, and what has been added are variables with such values. -/
structure State.Extended (P : Value → Prop) (s t : State) : Prop
    extends State.Grown s.heap.objects.size s t where
  added : ∀ a o, s.heap.objects.size ≤ a → t.heap.object? a = some o →
    ∃ c, o = .scope c ∧ c.outer = none ∧ ∀ n v, c.bindings.find? n = some (some v) → P v

/-- The run ends with a text, and has only added variables; or it raises an exception. -/
def Run.Gives (P : Value → Prop) (x : Run Value) (s : State) : Result Str → Prop
  | .ok t => ∃ id u, x s = .done (.text t id) u ∧ State.Extended P s u
  | .error e => ∃ u, x s = .raised e u

theorem Run.Gives.congr {P : Value → Prop} {x y : Run Value} {s : State} {r : Result Str}
    (h : y.Gives P s r) (hxy : x s = y s) : x.Gives P s r := by
  cases r with
  | ok t =>
    obtain ⟨id, u, hy, hgrown⟩ := h
    exact ⟨id, u, hxy.trans hy, hgrown⟩
  | error e =>
    obtain ⟨u, hy⟩ := h
    exact ⟨u, hxy.trans hy⟩

namespace State.Extended

variable {P : Value → Prop} {s t : State} {a : Address}

theorem withUnused (s : State) (u : Nat) : Extended P s (s.withUnused u) where
  globals := rfl
  handled := rfl
  printed := rfl
  depth := rfl
  size := Nat.le_refl _
  kept _ _ := rfl
  added a o ha ho := by
    obtain ⟨hlt, -⟩ := Array.getElem?_eq_some_iff.1 ho
    exact absurd hlt (Nat.not_lt_of_le ha)

theorem refl (s : State) : Extended P s s := withUnused s s.heap.unused

theorem trans {u : State} (h : Extended P s t) (k : Extended P t u) : Extended P s u where
  globals := k.globals.trans h.globals
  handled := k.handled.trans h.handled
  printed := k.printed.trans h.printed
  depth := k.depth.trans h.depth
  size := Nat.le_trans h.size k.size
  kept i hi := (k.kept i (Nat.lt_of_lt_of_le hi h.size)).trans (h.kept i hi)
  added i o hi ho := by
    by_cases hit : i < t.heap.objects.size
    · exact h.added i o hi (k.kept i hit ▸ ho)
    · exact k.added i o (Nat.le_of_not_lt hit) ho

theorem object? (h : Extended P s t) {o : Object} (ho : s.heap.object? a = some o) :
    t.heap.object? a = some o := by
  obtain ⟨hlt, -⟩ := Array.getElem?_eq_some_iff.1 ho
  rw [h.kept a hlt, ho]

end State.Extended

section

variable {n : Nat} {f : Frame} {s t : State} {e : Expr} {v : Value} {r : Raised}

theorem evalArguments_one (h : eval n f e s = .done v t) :
    evalArguments (n + 1) f [.positional e] {} s = (evalArguments n f [] { positional := [v] }) t := by
  rw [evalArguments]
  exact Run.bind_done h

theorem run_branch {yes no : List Stmt} (h : eval n f e s = .done v t) :
    run (n + 1) f (.branch e yes no) s =
      if v.truthy t.heap then runAll n f yes t else runAll n f no t := by
  rw [run, Run.bind_done h]
  change (if v.truthy t.heap = true then runAll n f yes else runAll n f no) t = _
  split <;> rfl

theorem run_give (h : eval n f e s = .done v t) :
    run (n + 1) f (.give (some e)) s = .done (.give v) t := by
  rw [run]
  exact Run.bind_done h

theorem run_give_raised (h : eval n f e s = .raised r t) :
    run (n + 1) f (.give (some e)) s = .raised r t := by
  rw [run]
  exact Run.bind_raised h

theorem runAll_cons_give {c : Stmt} {ss : List Stmt} (h : run n f c s = .done (.give v) t) :
    runAll (n + 1) f (c :: ss) s = .done (.give v) t := by
  rw [runAll, Run.bind_done h]
  rfl

theorem apply_done {g w : Value} {a : Arguments} (hd : s.heap.depth < maxCalls)
    (h : applyWithin n g a (s.withDepth (s.heap.depth + 1)) = .done w t) :
    apply (n + 1) g a s = Run.settle w (t.withDepth s.heap.depth) := by
  rw [apply, Run.settled]
  exact Run.bind_done (Run.deeper_done hd h)

theorem apply_raised {g : Value} {a : Arguments} (hd : s.heap.depth < maxCalls)
    (h : applyWithin n g a (s.withDepth (s.heap.depth + 1)) = .raised r t) :
    apply (n + 1) g a s = .raised r (t.withDepth s.heap.depth) := by
  rw [apply, Run.settled]
  exact Run.bind_raised (Run.deeper_raised hd h)

end

theorem gives_str {P : Value → Prop} (n : Nat) (v : Value) {s : State} (hd : s.heap.depth + 1 < maxCalls) :
    (apply (n + 2) (.type .str) { positional := [v] }).Gives P s
      (v.toText (s.withDepth (s.heap.depth + 1)).heap) := by
  have hroom : s.heap.depth < maxCalls := Nat.lt_of_succ_lt hd
  have hwithin : applyWithin (n + 1) (.type .str) { positional := [v] }
      (s.withDepth (s.heap.depth + 1)) =
      Run.ofResult (v.toTextValue (s.withDepth (s.heap.depth + 1)).heap)
        (s.withDepth (s.heap.depth + 1)) := rfl
  obtain ⟨identity, htext⟩ := Value.toTextValue_eq
    (h := (s.withDepth (s.heap.depth + 1)).heap) hd v
  rw [htext] at hwithin
  cases ht : v.toText (s.withDepth (s.heap.depth + 1)).heap with
  | ok t =>
    rw [ht] at hwithin
    obtain ⟨id, u, hsettle⟩ := Generated.settle_text t (identity t) s
    exact ⟨id, _, (apply_done hroom hwithin).trans hsettle, .withUnused s u⟩
  | error e =>
    rw [ht] at hwithin
    exact ⟨_, apply_raised hroom hwithin⟩

end Script

namespace Generated

def entity? (c : CodePoint) : Option Str :=
  (entities.find? fun e => .char e.1 = c).map fun e => e.2.toList

def escapeText (t : Str) : Str := t.flatMap fun c => (entity? c).getD [c]

theorem escapeText_eq_self {t : Str} (h : ∀ c ∈ t, entity? c = none) : escapeText t = t := by
  induction t with
  | nil => rfl
  | cons c t ih =>
    rw [escapeText, List.flatMap_cons, h c (by simp), ← escapeText, ih fun d hd => h d (by simp [hd])]
    rfl

variable {n : Nat} {s t : State} {a b d : Address} {v : Value}

def specialEntries : List Item := entities.map fun e => (.ofChar (.char e.1), .none)

theorem specialEntries_eq :
    (("&\"<>".toList.map Value.ofChar).map fun x => (x, Value.none)) = specialEntries := rfl

def isCharacter (c : CodePoint) : Value → Bool
  | .text t _ => t = [c]
  | _ => false

theorem find?_special (h : Heap) (c : CodePoint) (id : Identity) :
    ∃ r, (Dictionary.ofEntries specialEntries).find? h (.text [c] id) = .ok r ∧
      r.isSome = (entity? c).isSome := by
  obtain ⟨r, hr, hfirst⟩ := Dictionary.find?_ofEntries h (.text [c] id) (isCharacter c)
    specialEntries (by
      intro e he
      obtain ⟨k, -, rfl⟩ := List.mem_map.1 he
      refine ⟨?_, fun hk => ?_⟩
      · rw [Value.ofChar, Value.isItem_text _ _ _ _ rfl]
        simp [isCharacter, eq_comm]
      · obtain hk : .char k.1 = c := by simpa [isCharacter, Value.ofChar] using hk
        rw [hk]
        rfl)
  have htest : ((fun e : Item => isCharacter c e.1) ∘ fun e : Char × String =>
      (Value.ofChar (.char e.1), Value.none)) = fun e => decide (.char e.1 = c) := by
    funext e
    simp [isCharacter, Value.ofChar]
  refine ⟨r, hr, ?_⟩
  have hsome := congrArg Option.isSome hfirst
  rw [Option.isSome_map] at hsome
  rw [hsome, specialEntries, List.find?_map, htest, Option.isSome_map, entity?, Option.isSome_map]

def isInteger (i : Int) : Value → Bool
  | .int j _ => j = i
  | _ => false

theorem find?_entityTable (h : Heap) (c : CodePoint) :
    ∃ r, entityTable.find? h (.ofNat c.toNat) = .ok r ∧
      r.map (fun e => e.2.2) = (entity? c).map Value.ofLiteral := by
  obtain ⟨r, hr, hfirst⟩ := Dictionary.find?_ofEntries h (.ofNat c.toNat) (isInteger c.toNat)
    (entities.map fun e => (.ofNat e.1.toNat, .ofLiteral e.2.toList)) (by
      intro e he
      obtain ⟨k, -, rfl⟩ := List.mem_map.1 he
      refine ⟨?_, fun hk => ?_⟩
      · rw [Value.ofNat, Value.ofNat, Value.isItem_int]
        simp [isInteger, eq_comm]
      · obtain hk : (k.1.toNat : Int) = c.toNat := by simpa [isInteger, Value.ofNat] using hk
        rw [Value.ofNat, Value.ofNat, hk])
  have htest : ((fun e : Item => isInteger c.toNat e.1) ∘ fun e : Char × String =>
      (Value.ofNat e.1.toNat, Value.ofLiteral e.2.toList)) = fun e => decide (.char e.1 = c) := by
    funext e
    exact decide_eq_decide.2 (Int.natCast_inj.trans (CodePoint.toNat_inj (c := .char e.1)))
  refine ⟨r, hr, ?_⟩
  have hvalue := congrArg (Option.map Prod.snd) hfirst
  rw [Option.map_map, List.find?_map, htest, Option.map_map] at hvalue
  rw [entity?, Option.map_map]
  exact hvalue

theorem itemsOf_text (x : Str) (id : Identity) (s : State) :
    ∃ vs u, (Value.text x id).itemsOf s = .done vs (s.withUnused u) ∧
      vs.mapM Value.needText = .ok (x.map fun c => [c]) := by
  have htexts : (x.map Value.ofChar).mapM Value.needText = .ok (x.map fun c => [c]) := by
    induction x with
    | nil => rfl
    | cons c x ih =>
      have hc : (Value.ofChar c).needText = .ok [c] := rfl
      rw [List.map_cons, List.mapM_cons, hc, ih]
      rfl
  have hof : (Value.text x id).itemsOf s = Run.settleAll (x.map Value.ofChar) s := rfl
  rw [hof, Run.settleAll]
  split
  · exact ⟨_, s.heap.unused, rfl, htexts⟩
  · exact ⟨_, _, rfl, (mapM_needText_settleAll s.heap.unused [] _).trans htexts⟩

abbrev AreCharacters : List Value → Str → Prop :=
  List.Forall₂ fun v c => ∃ id, v = .text [c] id

theorem areCharacters_of_mapM {vs : List Value} {x : Str}
    (h : vs.mapM Value.needText = .ok (x.map fun c => [c])) : AreCharacters vs x := by
  induction vs generalizing x with
  | nil =>
    obtain rfl : x = [] := List.map_eq_nil_iff.1 (Except.ok.inj h).symm
    exact .nil
  | cons v vs ih =>
    rw [List.mapM_cons] at h
    cases hv : v.needText with
    | error e =>
      rw [hv] at h
      cases h
    | ok t =>
      cases hvs : vs.mapM Value.needText with
      | error e =>
        rw [hv, hvs] at h
        cases h
      | ok ts =>
        rw [hv, hvs] at h
        obtain ⟨c, x, rfl, rfl, rfl⟩ := List.map_eq_cons_iff.1 (Except.ok.inj h).symm
        refine .cons ?_ (ih hvs)
        cases v with
        | text u id =>
          obtain rfl : u = [c] := Except.ok.inj hv
          exact ⟨id, rfl⟩
        | _ => cases hv

theorem filterM_ok {f : Value → Result Bool} {test : Value → Bool} {vs : List Value}
    (h : ∀ v ∈ vs, f v = .ok (test v)) : vs.filterM f = .ok (vs.filter test) := by
  have hloop : ∀ done, List.filterAuxM f vs done = .ok ((vs.filter test).reverse ++ done) := by
    induction vs with
    | nil => exact fun _ => rfl
    | cons v vs ih =>
      intro done
      rw [List.filterAuxM, h v (by simp)]
      change List.filterAuxM f vs (cond (test v) (v :: done) done) = _
      rw [ih fun w hw => h w (by simp [hw])]
      cases ht : test v <;> simp [ht]
  rw [List.filterM, hloop []]
  simp [bind, Except.bind, pure, Except.pure]

def isReplaced : Value → Bool
  | .text [c] _ => (entity? c).isSome
  | _ => false

theorem commonItems_special (h : Heap) {vs : List Value} {x : Str} (hvs : AreCharacters vs x) :
    ∃ ws, Value.commonItems h ("&\"<>".toList.map Value.ofChar) vs = .ok ws ∧
      (ws = [] ↔ ∀ c ∈ x, entity? c = none) := by
  have htexts : ∀ v ∈ vs, ∃ c id, v = .text [c] id := by
    induction hvs with
    | nil => simp
    | cons hv _ ih =>
      obtain ⟨id, rfl⟩ := hv
      exact List.forall_mem_cons.2 ⟨⟨_, id, rfl⟩, ih⟩
  have hkeys : vs.forM Value.checkKey = .ok () := by
    induction hvs with
    | nil => rfl
    | cons hv _ ih =>
      obtain ⟨id, rfl⟩ := hv
      exact ih (List.forall_mem_cons.1 htexts).2
  have hnone : vs.filter isReplaced = [] ↔ ∀ c ∈ x, entity? c = none := by
    clear htexts hkeys
    induction hvs with
    | nil => simp
    | cons hv _ ih =>
      obtain ⟨id, rfl⟩ := hv
      rw [List.forall_mem_cons, ← ih]
      cases hc : entity? _ <;> simp [isReplaced, hc]
  have hknown : ∀ v ∈ vs, (do
      return (← (Dictionary.ofEntries specialEntries).find? h v).isSome) =
      Except.ok (isReplaced v) := by
    intro v hv
    obtain ⟨c, id, rfl⟩ := htexts v hv
    obtain ⟨r, hr, hsome⟩ := find?_special h c id
    rw [hr]
    exact congrArg Except.ok hsome
  obtain ⟨ws, hws, hiff⟩ := Dictionary.distinctKeys_texts (h := h) (vs.filter isReplaced)
    fun v hv => by
      obtain ⟨c, id, rfl⟩ := htexts v (List.mem_of_mem_filter hv)
      exact ⟨[c], id, rfl⟩
  refine ⟨ws, ?_, hiff.trans hnone⟩
  rw [Value.commonItems, hkeys]
  simp only [specialEntries_eq]
  rw [filterM_ok hknown]
  exact hws

theorem length_settleAll (n : Nat) (done vs : List Value) :
    (Value.settleAll n done vs).1.length = done.length + vs.length := by
  induction vs generalizing n done with
  | nil => simp [Value.settleAll]
  | cons v vs ih =>
    rw [Value.settleAll, ih]
    simp only [List.length_cons]
    omega

theorem apply_intersection (x : Str) (id id' : Identity) (hd : s.heap.depth < maxCalls) :
    ∃ w u, apply (n + 3) (.method specialValue .intersection id)
        { positional := [.text x id'] } s = .done w (s.withUnused u) ∧
      ∀ h, w.truthy h = true ↔ ∃ c ∈ x, entity? c ≠ none := by
  obtain ⟨vs, k, hvs, htexts⟩ := itemsOf_text x id' (s.withDepth (s.heap.depth + 1))
  obtain ⟨ws, hws, hnone⟩ := commonItems_special
    ((s.withDepth (s.heap.depth + 1)).withUnused k).heap (areCharacters_of_mapM htexts)
  have hothers : [Value.text x id'].mapM Value.itemsOf (s.withDepth (s.heap.depth + 1)) =
      .done [vs] ((s.withDepth (s.heap.depth + 1)).withUnused k) := Run.bind_done hvs
  have hwithin : applyWithin (n + 2) (.method specialValue .intersection id)
      { positional := [.text x id'] } (s.withDepth (s.heap.depth + 1)) =
      .done (.frozenset ws .fresh) ((s.withDepth (s.heap.depth + 1)).withUnused k) := by
    change ([Value.text x id'].mapM Value.itemsOf >>= fun others => do
      return Value.frozenset (← Run.withHeap fun h =>
        others.foldlM (Value.commonItems h) ("&\"<>".toList.map Value.ofChar)) .fresh) _ = _
    rw [Run.bind_done hothers]
    refine Run.bind_done ?_
    rw [Run.withHeap, List.foldlM_cons, hws]
    rfl
  have happly : apply (n + 3) (.method specialValue .intersection id)
      { positional := [.text x id'] } s =
      .done (.frozenset (Value.settleAll k [] ws).1 (.number (Value.settleAll k [] ws).2))
        (s.withUnused ((Value.settleAll k [] ws).2 + 1)) := apply_done hd hwithin
  refine ⟨_, _, happly, fun h => ?_⟩
  have hlen := length_settleAll k [] ws
  have hempty : (Value.settleAll k [] ws).1 = [] ↔ ws = [] := by
    rw [← List.length_eq_zero_iff, ← List.length_eq_zero_iff, hlen, List.length_nil, Nat.zero_add]
  rw [Value.truthy]
  simp [hempty, hnone]

theorem getItem_entityTable (ht : s.heap.object? d = some (.dict entityTable)) (c : CodePoint) :
    (Value.dict d).getItem (.ofNat c.toNat) s =
      Run.ofResult (match (entity? c).map Value.ofLiteral with
        | some v => return v
        | none => Result.raise .keyError [.ofNat c.toNat]) s := by
  obtain ⟨r, hr, hvalue⟩ := find?_entityTable s.heap c
  have hdict : s.heap.dictionary d = entityTable := by rw [Heap.dictionary, ht]
  rw [Value.getItem, Run.withHeap, hdict, Dictionary.value?, hr, ← hvalue]
  rfl

/-- The entities of a text's characters, one after another. -/
theorem apply_translate (x : Str) (id id' : Identity) (hd : s.heap.depth < maxCalls)
    (ht : s.heap.object? d = some (.dict entityTable)) :
    ∃ w u, apply (n + 3) (.method (.text x id) .replaceCharacters id')
      { positional := [.dict d] } s = .done (.text (escapeText x) w) (s.withUnused u) := by
  have hcharacter : ∀ c, TextMethod.replaceCharacter (.dict d) c (s.withDepth (s.heap.depth + 1)) =
      .done ((entity? c).getD [c]) (s.withDepth (s.heap.depth + 1)) := by
    intro c
    have hitem := getItem_entityTable (s := s.withDepth (s.heap.depth + 1)) ht c
    rw [TextMethod.replaceCharacter, hitem]
    cases hc : entity? c <;> rfl
  have hcharacters : ∀ (y : Str) (done : List Str), List.mapM.loop
      (TextMethod.replaceCharacter (.dict d)) y done (s.withDepth (s.heap.depth + 1)) =
      .done (done.reverse ++ y.map fun c => (entity? c).getD [c])
        (s.withDepth (s.heap.depth + 1)) := by
    intro y
    induction y with
    | nil =>
      intro done
      rw [List.map_nil, List.append_nil]
      rfl
    | cons c y ih =>
      intro done
      rw [List.mapM.loop, Run.bind_done (hcharacter c), ih]
      simp
  have hwithin : applyWithin (n + 2) (.method (.text x id) .replaceCharacters id')
      { positional := [.dict d] } (s.withDepth (s.heap.depth + 1)) =
      .done (.text (escapeText x) .fresh) (s.withDepth (s.heap.depth + 1)) :=
    Run.bind_done (hcharacters x [])
  obtain ⟨w, u, hsettle⟩ := settle_text (escapeText x) .fresh s
  exact ⟨w, u, (apply_done hd hwithin).trans hsettle⟩

structure Escapes (s : State) (a d : Address) : Prop where
  escape : s.globals.find? escapeName = some (.function a)
  special : s.globals.find? specialName = some specialValue
  entity : s.globals.find? entityName = some (.dict d)
  str : s.globals.find? "str".toList = none
  isinstance : s.globals.find? "isinstance".toList = none
  closure : s.heap.object? a = some (.function escapeClosure)
  table : s.heap.object? d = some (.dict entityTable)

theorem Escapes.kept (h : Escapes s a d) (hglobals : t.globals = s.globals)
    (hobjects : ∀ i o, s.heap.object? i = some o → t.heap.object? i = some o) : Escapes t a d where
  escape := hglobals ▸ h.escape
  special := hglobals ▸ h.special
  entity := hglobals ▸ h.entity
  str := hglobals ▸ h.str
  isinstance := hglobals ▸ h.isinstance
  closure := hobjects a _ h.closure
  table := hobjects d _ h.table

theorem Escapes.grown (h : Escapes s a d) {b : Nat} (hb : a < b ∧ d < b) (hg : State.Grown b s t) :
    Escapes t a d where
  escape := hg.globals ▸ h.escape
  special := hg.globals ▸ h.special
  entity := hg.globals ▸ h.entity
  str := hg.globals ▸ h.str
  isinstance := hg.globals ▸ h.isinstance
  closure := (hg.kept a hb.1).trans h.closure
  table := (hg.kept d hb.2).trans h.table

theorem Escapes.extended {P : Value → Prop} (h : Escapes s a d) (hg : State.Extended P s t) :
    Escapes t a d := h.kept hg.globals fun _ _ => hg.object?

def valueScope (v : Value) : Scope := ⟨⟨[("value".toList, some v)]⟩, none⟩

structure EscapesIn (s : State) (a d b : Address) (v : Value) : Prop extends Escapes s a d where
  scope : s.heap.scope? b = some (valueScope v)
  room : s.heap.depth + 1 < maxCalls

section

variable (h : EscapesIn s a d b v)

include h

theorem EscapesIn.findVariable (x : Text) (k : Nat) :
    Script.findVariable s.heap x (k + 1) (some b) =
      if "value".toList = x then some (b, some v) else none := by
  have hnone : Script.findVariable s.heap x k none = none := by cases k <;> rfl
  have hfind : (valueScope v).bindings.find? x =
      if "value".toList = x then some (some v) else none := rfl
  by_cases hx : "value".toList = x
  · simp only [Script.findVariable, h.scope, hfind, if_pos hx]
  · simp only [Script.findVariable, h.scope, hfind, if_neg hx]
    exact hnone

theorem EscapesIn.eval_value : eval (n + 1) ⟨some b⟩ (variableOf "value") s = .done v s := by
  have hread : Frame.read ⟨some b⟩ "value".toList s = .done v s := by
    simp only [Frame.read, h.findVariable, if_pos]
  exact hread

theorem EscapesIn.eval_builtin {x : String} {w : Value} (hx : "value".toList ≠ x.toList)
    (hg : s.globals.find? x.toList = none) (hw : Value.builtin? x.toList = some w) :
    eval (n + 1) ⟨some b⟩ (variableOf x) s = .done w s :=
  Frame.read_builtin ((h.findVariable _ _).trans (if_neg hx)) hg hw

theorem EscapesIn.eval_global {x : String} {w : Value} (hx : "value".toList ≠ x.toList)
    (hg : s.globals.find? x.toList = some w) :
    eval (n + 1) ⟨some b⟩ (variableOf x) s = .done w s := by
  have hread : Frame.read ⟨some b⟩ x.toList s = .done w s := by
    simp only [Frame.read, h.findVariable, if_neg hx, hg]
  exact hread

theorem EscapesIn.eval_isNone :
    eval (n + 3) ⟨some b⟩ (.compare (variableOf "value") [(.same, .constant .none)]) s =
      .done (.bool (v.same .none)) s := by
  have hnone : eval (n + 1) ⟨some b⟩ (.constant .none) s = .done .none s := rfl
  rw [eval, Run.bind_done h.eval_value, compareAll, Run.bind_done hnone]
  rfl

theorem EscapesIn.eval_isText : eval (n + 7) ⟨some b⟩ (.unary .not
    (.call (variableOf "isinstance")
      [.positional (variableOf "value"), .positional (variableOf "str")])) s =
      .done (.bool (!v.belongs .str)) s := by
  have hisinstance : eval (n + 5) ⟨some b⟩ (variableOf "isinstance") s =
      .done (.builtin .isinstance) s := h.eval_builtin (by decide) h.isinstance rfl
  have hstr : eval (n + 3) ⟨some b⟩ (variableOf "str") s = .done (.type .str) s :=
    h.eval_builtin (by decide) h.str rfl
  have harguments : evalArguments (n + 5) ⟨some b⟩
      [.positional (variableOf "value"), .positional (variableOf "str")] {} s =
      .done { positional := [v, .type .str] } s := by
    rw [evalArguments, Run.bind_done h.eval_value, evalArguments, Run.bind_done hstr]
    rfl
  have hwithin : applyWithin (n + 4) (.builtin .isinstance) { positional := [v, .type .str] }
      (s.withDepth (s.heap.depth + 1)) =
      .done (.bool (v.belongs .str)) (s.withDepth (s.heap.depth + 1)) := by
    obtain ⟨k, hk⟩ : ∃ k, (s.withDepth (s.heap.depth + 1)).heap.room = k + 1 :=
      Nat.exists_eq_succ_of_ne_zero (Nat.sub_ne_zero_of_lt h.room)
    change ((Run.withHeap fun h => v.isInstanceIn h.room (.type .str)) >>= fun b =>
      pure (Value.bool b)) (s.withDepth (s.heap.depth + 1)) = _
    refine Run.bind_done ?_
    rw [Run.withHeap, hk]
    rfl
  have hcall : eval (n + 6) ⟨some b⟩ (.call (variableOf "isinstance")
      [.positional (variableOf "value"), .positional (variableOf "str")]) s =
      .done (.bool (v.belongs .str)) s := by
    rw [eval_call hisinstance, Run.bind_done harguments]
    exact apply_done (Nat.lt_of_succ_lt h.room) hwithin
  rw [eval, Run.settled_bind_done hcall]
  rfl

/-- The branch for nothing is passed by. -/
theorem EscapesIn.run_isNone (hv : v.same .none = false) : run (n + 4) ⟨some b⟩ (.branch
    (.compare (variableOf "value") [(.same, .constant .none)]) [.give (some (literalOf ""))] []) s =
      .done .normal s := by
  rw [run_branch h.eval_isNone, hv]
  rfl

theorem EscapesIn.eval_str : eval (n + 3) ⟨some b⟩ (callOf (variableOf "str") (variableOf "value")) s =
    apply (n + 2) (.type .str) { positional := [v] } s := by
  have harguments : evalArguments (n + 2) ⟨some b⟩ [.positional (variableOf "value")] {} s =
      .done { positional := [v] } s := evalArguments_one h.eval_value
  rw [callOf, eval_call (h.eval_builtin (by decide) h.str rfl), Run.bind_done harguments]

end

theorem EscapesIn.withUnused (h : EscapesIn s a d b v) (u : Nat) :
    EscapesIn (s.withUnused u) a d b v :=
  ⟨h.extended (P := fun _ => True) (.withUnused s u), h.scope, h.room⟩

/-- A text is plain where none of its characters has an entity. -/
theorem EscapesIn.eval_isPlain {x : Str} {id : Identity} (h : EscapesIn s a d b (.text x id)) :
    ∃ c u, eval (n + 9) ⟨some b⟩ (.unary .not (callOf (.attribute (variableOf "_SPECIAL_CHARS")
        "intersection".toList) (variableOf "value"))) s = .done (.bool c) (s.withUnused u) ∧
      (c = true ↔ ∀ y ∈ x, entity? y = none) := by
  have hmethod : eval (n + 7) ⟨some b⟩ (.attribute (variableOf "_SPECIAL_CHARS")
      "intersection".toList) s =
      .done (.method specialValue .intersection (.number s.heap.unused)) s.spend := by
    rw [eval, Run.settled_bind_done (h.eval_global (by decide) h.special)]
    rfl
  have hargument : evalArguments (n + 7) ⟨some b⟩ [.positional (variableOf "value")] {} s.spend =
      .done { positional := [.text x id] } s.spend :=
    evalArguments_one (h.withUnused _).eval_value
  obtain ⟨w, u, happly, htruthy⟩ := apply_intersection (n := n + 4) (s := s.spend) x
    (.number s.heap.unused) id (Nat.lt_of_succ_lt h.room)
  have hcall : eval (n + 8) ⟨some b⟩ (callOf (.attribute (variableOf "_SPECIAL_CHARS")
      "intersection".toList) (variableOf "value")) s = .done w (s.withUnused u) := by
    rw [callOf, eval_call hmethod, Run.bind_done hargument]
    exact happly
  refine ⟨!w.truthy (s.withUnused u).heap, u, ?_, ?_⟩
  · rw [eval, Run.settled_bind_done hcall]
    rfl
  · rw [Bool.not_eq_true', Bool.eq_false_iff, ne_eq, htruthy]
    push Not
    rfl

theorem EscapesIn.eval_translate {x : Str} {id : Identity} (h : EscapesIn s a d b (.text x id)) :
    ∃ w u, eval (n + 8) ⟨some b⟩ (callOf (.attribute (variableOf "value") "translate".toList)
      (variableOf "_HTML_ENTITIES")) s = .done (.text (escapeText x) w) (s.withUnused u) := by
  have hmethod : eval (n + 7) ⟨some b⟩ (.attribute (variableOf "value") "translate".toList) s =
      .done (.method (.text x id) .replaceCharacters (.number s.heap.unused)) s.spend := by
    rw [eval, Run.settled_bind_done h.eval_value]
    rfl
  have htable : evalArguments (n + 7) ⟨some b⟩ [.positional (variableOf "_HTML_ENTITIES")] {}
      s.spend = .done { positional := [.dict d] } s.spend :=
    evalArguments_one ((h.withUnused _).eval_global (by decide) (h.withUnused _).entity)
  obtain ⟨w, u, happly⟩ := apply_translate (n := n + 4) (s := s.spend) x id
    (.number s.heap.unused) (Nat.lt_of_succ_lt h.room) (h.withUnused _).table
  refine ⟨w, u, ?_⟩
  rw [callOf, eval_call hmethod, Run.bind_done htable]
  exact happly

theorem runAll_escapeBody_text {x : Str} {id : Identity} (h : EscapesIn s a d b (.text x id)) :
    ∃ w u, runAll (n + 13) ⟨some b⟩ escapeBody s =
      .done (.give (.text (escapeText x) w)) (s.withUnused u) := by
  have htext : run (n + 11) ⟨some b⟩ (.branch (.unary .not (.call (variableOf "isinstance")
      [.positional (variableOf "value"), .positional (variableOf "str")]))
      [.give (some (callOf (variableOf "_escape") (callOf (variableOf "str") (variableOf "value"))))]
      []) s = .done .normal s := by
    rw [run_branch h.eval_isText]
    rfl
  obtain ⟨c, u, hcommon, hc⟩ := h.eval_isPlain (n := n)
  have hrest := h.withUnused u
  rw [escapeBody, runAll_cons (h.run_isNone rfl), runAll_cons htext]
  cases c with
  | true =>
    have hself : escapeText x = x := escapeText_eq_self (hc.1 rfl)
    have hplain : run (n + 10) ⟨some b⟩ (.branch (.unary .not (callOf (.attribute
        (variableOf "_SPECIAL_CHARS") "intersection".toList) (variableOf "value")))
        [.give (some (variableOf "value"))] []) s =
        .done (.give (.text x id)) (s.withUnused u) := by
      rw [run_branch hcommon]
      exact runAll_cons_give (run_give hrest.eval_value)
    exact ⟨id, u, hself.symm ▸ runAll_cons_give hplain⟩
  | false =>
    have hspecial : run (n + 10) ⟨some b⟩ (.branch (.unary .not (callOf (.attribute
        (variableOf "_SPECIAL_CHARS") "intersection".toList) (variableOf "value")))
        [.give (some (variableOf "value"))] []) s = .done .normal (s.withUnused u) := by
      rw [run_branch hcommon]
      rfl
    obtain ⟨w, u', htranslate⟩ := hrest.eval_translate (n := n)
    rw [runAll_cons hspecial]
    exact ⟨w, u', runAll_cons_give (run_give htranslate)⟩

def escapedText (h : Heap) : Value → Result Str
  | .none => .ok []
  | v => (v.toText h).map escapeText

def escapeState (s : State) (v : Value) : State :=
  push (s.withDepth (s.heap.depth + 1)) (.scope (valueScope v))

theorem extended_escapeState {P : Value → Prop} (hv : P v) (h : State.Extended P (escapeState s v) t) :
    State.Extended P s (t.withDepth s.heap.depth) where
  globals := h.globals
  handled := h.handled
  printed := h.printed
  depth := rfl
  size := by
    have := h.size
    simp only [escapeState, push, State.withDepth, Array.size_push] at this ⊢
    omega
  kept i hi := (h.kept i (by simp [escapeState, push, State.withDepth]; omega)).trans (by
    simp [escapeState, push, State.withDepth, Heap.object?, Array.getElem?_push, Nat.ne_of_lt hi])
  added i o hi ho := by
    have hsize : (escapeState s v).heap.objects.size = s.heap.objects.size + 1 := by
      simp [escapeState, push, State.withDepth]
    obtain hlast | hmore : i = s.heap.objects.size ∨ (escapeState s v).heap.objects.size ≤ i := by
      omega
    · have hscope : t.heap.object? i = some (.scope (valueScope v)) := by
        rw [h.kept i (by omega), hlast]
        simp [escapeState, push, State.withDepth, Heap.object?]
      refine ⟨valueScope v, Option.some.inj (ho.symm.trans hscope), rfl, fun n w hw => ?_⟩
      simp only [valueScope, Table.find?, Table.lookup] at hw
      split at hw
      · obtain rfl := Option.some.inj (Option.some.inj hw)
        exact hv
      · cases hw
    · exact h.added i o hmore ho

theorem Escapes.inside (h : Escapes s a d) (hd : s.heap.depth + 2 < maxCalls) (v : Value) :
    EscapesIn (escapeState s v) a d s.heap.objects.size v where
  toEscapes := h.kept rfl fun i o ho => by
    obtain ⟨hlt, -⟩ := Array.getElem?_eq_some_iff.1 ho
    rw [← ho]
    simp [escapeState, push, State.withDepth, Heap.object?, Array.getElem?_push, Nat.ne_of_lt hlt]
  scope := scope?_push_self (s.withDepth (s.heap.depth + 1)) (valueScope v)
  room := hd

theorem applyWithin_escape (h : Escapes s a d) :
    applyWithin (n + 2) (.function a) { positional := [v] } (s.withDepth (s.heap.depth + 1)) =
      (runAll n ⟨some s.heap.objects.size⟩ escapeBody >>= fun flow =>
        match flow with
        | .give v => pure v
        | _ => pure .none) (escapeState s v) := by
  rw [applyWithin_function (s := s.withDepth (s.heap.depth + 1)) h.closure]
  rfl

variable {P : Value → Prop} (hP : ∀ x id, P (.text x id))

include hP in
theorem gives_escape_text (h : Escapes s a d) (hd : s.heap.depth + 2 < maxCalls) (x : Str)
    (id : Identity) : (apply (n + 16) (.function a) { positional := [.text x id] }).Gives P s
      (.ok (escapeText x)) := by
  obtain ⟨w, u, hrun⟩ := runAll_escapeBody_text (n := n) (h.inside hd (.text x id))
  have hwithin := (applyWithin_escape (n := n + 13) (v := .text x id) h).trans (Run.bind_done hrun)
  obtain ⟨w', u', hsettle⟩ := settle_text (escapeText x) w
    (((escapeState s (.text x id)).withUnused u).withDepth s.heap.depth)
  exact ⟨w', _, (apply_done (by omega) hwithin).trans hsettle,
    (extended_escapeState (hP x id) (.withUnused _ u)).trans (.withUnused _ u')⟩

include hP in
theorem runAll_escapeBody_other (h : EscapesIn s a d b v) (hd : s.heap.depth + 2 < maxCalls)
    (hv : v ≠ .none) (htext : v.belongs .str = false) :
    match v.toText (s.withDepth (s.heap.depth + 1)).heap with
    | .ok x => ∃ w u, runAll (n + 22) ⟨some b⟩ escapeBody s =
      .done (.give (.text (escapeText x) w)) u ∧ State.Extended P s u
    | .error e => ∃ u, runAll (n + 22) ⟨some b⟩ escapeBody s = .raised e u := by
  have hsame : v.same .none = false := by
    cases v <;> first | rfl | contradiction
  have hother : run (n + 20) ⟨some b⟩ (.branch (.unary .not (.call (variableOf "isinstance")
      [.positional (variableOf "value"), .positional (variableOf "str")]))
      [.give (some (callOf (variableOf "_escape") (callOf (variableOf "str") (variableOf "value"))))]
      []) s = runAll (n + 19) ⟨some b⟩ [.give (some (callOf (variableOf "_escape")
        (callOf (variableOf "str") (variableOf "value"))))] s := by
    rw [run_branch h.eval_isText, htext]
    rfl
  have hescape : eval (n + 16) ⟨some b⟩ (variableOf "_escape") s = .done (.function a) s :=
    h.eval_global (by decide) h.escape
  have hgives := gives_str (P := P) (n + 12) v (Nat.lt_of_succ_lt hd)
  cases ht : v.toText (s.withDepth (s.heap.depth + 1)).heap with
  | ok x =>
    rw [ht] at hgives
    obtain ⟨id, t, happly, hgrown⟩ := hgives
    obtain ⟨w, u, hcall, hgrown'⟩ := gives_escape_text (n := n) hP (h.extended hgrown)
      (by rw [hgrown.depth]; exact hd) x id
    have hvalue : eval (n + 17) ⟨some b⟩ (callOf (variableOf "_escape")
        (callOf (variableOf "str") (variableOf "value"))) s = .done (.text (escapeText x) w) u := by
      have harguments : evalArguments (n + 16) ⟨some b⟩
          [.positional (callOf (variableOf "str") (variableOf "value"))] {} s =
          .done { positional := [.text x id] } t := evalArguments_one (h.eval_str.trans happly)
      rw [callOf, eval_call hescape, Run.bind_done harguments]
      exact hcall
    have hrun : run (n + 20) ⟨some b⟩ _ s = _ := hother.trans (runAll_cons_give (run_give hvalue))
    refine ⟨w, u, ?_, hgrown.trans hgrown'⟩
    rw [escapeBody, runAll_cons (h.run_isNone hsame)]
    exact runAll_cons_give hrun
  | error e =>
    rw [ht] at hgives
    obtain ⟨t, happly⟩ := hgives
    have hvalue : eval (n + 17) ⟨some b⟩ (callOf (variableOf "_escape")
        (callOf (variableOf "str") (variableOf "value"))) s = .raised e t := by
      have harguments : evalArguments (n + 16) ⟨some b⟩
          [.positional (callOf (variableOf "str") (variableOf "value"))] {} s = .raised e t := by
        rw [evalArguments]
        exact Run.bind_raised (h.eval_str.trans happly)
      rw [callOf, eval_call hescape]
      exact Run.bind_raised harguments
    have hrun : run (n + 20) ⟨some b⟩ _ s = _ :=
      hother.trans (runAll_cons_raised (run_give_raised hvalue))
    refine ⟨t, ?_⟩
    rw [escapeBody, runAll_cons (h.run_isNone hsame)]
    exact runAll_cons_raised hrun

theorem face_push_scope (s : State) (c : Scope) (i : Address) :
    (push s (.scope c)).heap.face i = s.heap.face i := by
  refine (Heap.face_push s.heap (.scope c) i).trans ?_
  split
  · next h => simp [h, Object.face, Heap.face, Heap.object?]
  · rfl

theorem escapedText_of_ne {h : Heap} (hv : v ≠ .none) :
    escapedText h v = (v.toText h).map escapeText := by
  cases v <;> first | rfl | contradiction

include hP in
/-- Calling the function on a value gives its text with entities, and nothing for no value. -/
theorem gives_escape (h : Escapes s a d) (hd : s.heap.depth + 3 < maxCalls)
    (hv : v.IsPlain) (hPv : P v) :
    (apply (n + 25) (.function a) { positional := [v] }).Gives P s
      (escapedText (s.withDepth (s.heap.depth + 2)).heap v) := by
  have hin := h.inside (Nat.lt_of_succ_lt hd) v
  have hcall : s.heap.depth < maxCalls := by omega
  by_cases hnone : v = .none
  · subst hnone
    have hfirst : run (n + 21) ⟨some s.heap.objects.size⟩ (.branch (.compare (variableOf "value")
        [(.same, .constant .none)]) [.give (some (literalOf ""))] []) (escapeState s .none) =
        .done (.give (.text [] .fresh)) (escapeState s .none) := by
      rw [run_branch hin.eval_isNone]
      rfl
    have hrun : runAll (n + 22) ⟨some s.heap.objects.size⟩ escapeBody (escapeState s .none) =
        .done (.give (.text [] .fresh)) (escapeState s .none) := by
      rw [escapeBody]
      exact runAll_cons_give hfirst
    have hwithin := (applyWithin_escape (n := n + 22) (v := .none) h).trans (Run.bind_done hrun)
    exact ⟨.fresh, _, apply_done hcall hwithin, extended_escapeState hPv (.refl _)⟩
  · by_cases htext : v.belongs .str = true
    · obtain ⟨x, id, rfl⟩ := hv htext
      exact gives_escape_text hP h (Nat.lt_of_succ_lt hd) x id
    · have hother := runAll_escapeBody_other (n := n) hP hin hd hnone (by simpa using htext)
      have hface : ∀ i, ((escapeState s v).withDepth ((escapeState s v).heap.depth + 1)).heap.face i =
          (s.withDepth (s.heap.depth + 2)).heap.face i := fun i =>
        face_push_scope (s.withDepth (s.heap.depth + 1)) (valueScope v) i
      have htoText : v.toText ((escapeState s v).withDepth ((escapeState s v).heap.depth + 1)).heap =
          v.toText (s.withDepth (s.heap.depth + 2)).heap := Value.toText_congr hface rfl v
      rw [htoText] at hother
      rw [escapedText_of_ne hnone]
      cases ht : v.toText (s.withDepth (s.heap.depth + 2)).heap with
      | ok x =>
        rw [ht] at hother
        obtain ⟨w, u, hrun, hgrown⟩ := hother
        have hwithin := (applyWithin_escape (n := n + 22) (v := v) h).trans (Run.bind_done hrun)
        obtain ⟨w', u', hsettle⟩ := settle_text (escapeText x) w (u.withDepth s.heap.depth)
        exact ⟨w', _, (apply_done hcall hwithin).trans hsettle,
          (extended_escapeState hPv hgrown).trans (.withUnused _ u')⟩
      | error e =>
        rw [ht] at hother
        obtain ⟨u, hrun⟩ := hother
        have hwithin := (applyWithin_escape (n := n + 22) (v := v) h).trans (Run.bind_raised hrun)
        exact ⟨_, apply_raised hcall hwithin⟩

end Generated
end TemplateEngine
