import TemplateEngine.Proofs.Generated.Buffer
import TemplateEngine.Proofs.Generated.Calling

set_option autoImplicit false

/-!
# Templates without directives

A template that is nothing but literals is compiled to a module that always loads, if its parameter
has not the name of a constant, and whose function returns the literals one after another.
-/
namespace TemplateEngine

open Script

namespace Generated

def literalStatement (t : Text) : Stmt := appendStatement (.constant (.text t))

variable {n : Nat} {f : Frame} {s : State} {a : Address} {items : Array Value}

theorem written_literals (ts : List Text) (b : Body) (hb : b.blocks = []) :
    (Compile.segments b (ts.map .literal)).1.lines =
        b.lines ++ ts.map (fun t => Outline.indentOf 1 ++ Compile.literalLine t) ∧
      (Compile.segments b (ts.map .literal)).1.blocks = [] := by
  induction ts generalizing b with
  | nil => simp [Compile.segments, hb]
  | cons t ts ih =>
    have hblocks : (b.write (Compile.literalLine t)).blocks = [] := by
      simp [Body.write, hb]
    have hindent : b.indent = Outline.indentOf 1 := by
      simp only [Body.indent, hb]
      rfl
    have hne : Compile.literalLine t ≠ [] := by simp [Compile.literalLine, bufferName]
    have := ih (b.write (Compile.literalLine t)) hblocks
    simp only [List.map_cons, Compile.segments, Compile.segment, this, Body.lines_write, hindent, hne,
      if_false, and_true]
    simp

theorem bodyLines_literals (ts : List Text) : Compile.bodyLines (ts.map .literal) =
    ts.map fun t => Outline.indentOf 1 ++ Compile.literalLine t := by
  obtain ⟨hlines, hblocks⟩ := written_literals ts {} rfl
  rw [Compile.bodyLines, Body.closeAll, hblocks]
  exact hlines

theorem isLine_literals (ts : List Text) :
    ∀ l ∈ ts.map (fun t => Outline.indentOf 1 ++ Compile.literalLine t), IsLine l := by
  intro l hl
  obtain ⟨t, -, rfl⟩ := List.mem_map.1 hl
  have hindent : IsLine (Outline.indentOf 1) := by
    unfold IsLine
    decide
  exact hindent.append (isLine_literalLine t)

theorem readAs_literals (ts : List Text) :
    Outline.ReadAs (ts.map fun t => Outline.indentOf 1 ++ Compile.literalLine t)
      (Outline.allRows 1 (ts.map fun t => .mk (literalLexemes t) [])) := by
  induction ts with
  | nil => exact Outline.readAs_nil
  | cons t ts ih => exact (readAs_literalLine t 1).append ih

theorem allHeight_literals (ts : List Text) :
    Outline.allHeight (ts.map fun t => .mk (literalLexemes t) []) ≤ 1 := by
  induction ts with
  | nil => simp [Outline.allHeight]
  | cons t ts ih =>
    rw [List.map_cons, Outline.allHeight, Outline.height, Outline.allHeight]
    omega

theorem ofOutlines_literals (ts : List Text) :
    Grammar.ofOutlines (ts.map fun t => .mk (literalLexemes t) []) =
      some (ts.map fun t => .simple [literalStatement t]) := by
  induction ts with
  | nil => rfl
  | cons t ts ih =>
    have h : Grammar.ofOutline (.mk (literalLexemes t) []) =
        some (.simple [literalStatement t]) := piece_literalLexemes t
    simp [Grammar.ofOutlines, h, ih]

theorem assemble_literals (ts : List Text) :
    Grammar.assemble (ts.map fun t => .simple [literalStatement t]) =
      some (.none, ts.map literalStatement) := by
  induction ts with
  | nil => rfl
  | cons t ts ih => simp [Grammar.assemble, ih]

theorem nestingOfBlock_literals (ts : List Text) :
    (Grammar.nestingOfBlock (ts.map literalStatement)).parts ≤ 4 ∧
      (Grammar.nestingOfBlock (ts.map literalStatement)).rules ≤ 24 := by
  induction ts with
  | nil => simp [Grammar.nestingOfBlock]
  | cons t ts ih =>
    have h : Grammar.nestingOfStatement (literalStatement t) = ⟨4, 24⟩ := rfl
    rw [List.map_cons, Grammar.nestingOfBlock, h]
    exact ⟨Nat.max_le.2 ⟨Nat.le_refl _, ih.1⟩, Nat.max_le.2 ⟨Nat.le_refl _, ih.2⟩⟩

theorem fits_literals (ts : List Text) : Fits (ts.map literalStatement) := by
  obtain ⟨hparts, hrules⟩ := nestingOfBlock_literals ts
  refine ⟨?_, ?_, ?_⟩
  · unfold Grammar.Nesting.maxParts
    omega
  · unfold Grammar.Nesting.maxRules Grammar.Nesting.block
    omega
  · induction ts with
    | nil => rfl
    | cons t ts ih =>
      have h : Grammar.fits { inFunction := true } (literalStatement t) = true := rfl
      rw [List.map_cons, Grammar.allFit, h, Bool.true_and]
      exact ih (nestingOfBlock_literals ts).1 (nestingOfBlock_literals ts).2

theorem foldAll_literals (ts : List Text) :
    Stmt.foldAll (ts.map literalStatement) = ts.map literalStatement := by
  induction ts with
  | nil => rfl
  | cons t ts ih =>
    have h : (literalStatement t).fold = literalStatement t := rfl
    rw [List.map_cons, Stmt.foldAll, ih, h]

section

variable {p origin : Text}

/-- The module of a template that is nothing but literals. -/
theorem ofText_literals (ts : List Text) (hp : isVariableName p = true)
    (hn : Text.normalName p ≠ Grammar.debugName) (ho : '\x00' ∉ origin) :
    Program.ofText (module p (Compile.bodyLines (ts.map .literal)) origin) =
      .ok (program (Text.normalName p) (ts.map literalStatement)) := by
  have hd : Outline.allHeight (ts.map fun t => .mk (literalLexemes t) []) < Outline.maxColumns :=
    Nat.lt_of_le_of_lt (allHeight_literals ts) (by decide)
  rw [bodyLines_literals, ofText_module hp hn (readAs_literals ts) (isLine_literals ts) ho hd
    (ofOutlines_literals ts) (assemble_literals ts) (fits_literals ts), foldAll_literals]

theorem ofText_literals_debugName (ts : List Text) (hp : isVariableName p = true)
    (hn : Text.normalName p = Grammar.debugName) (ho : '\x00' ∉ origin) :
    Program.ofText (module p (Compile.bodyLines (ts.map .literal)) origin) =
      .error .malformed := by
  have hd : Outline.allHeight (ts.map fun t => .mk (literalLexemes t) []) < Outline.maxColumns :=
    Nat.lt_of_le_of_lt (allHeight_literals ts) (by decide)
  rw [bodyLines_literals]
  exact ofText_module_debugName hp hn (readAs_literals ts) (isLine_literals ts) ho hd

end

theorem mapM_needText_literals (ts : List Str) :
    (ts.map Value.ofLiteral).mapM Value.needText = .ok ts := by
  induction ts with
  | nil => rfl
  | cons t ts ih =>
    have h : (Value.ofLiteral t).needText = .ok t := rfl
    rw [List.map_cons, List.mapM_cons, h, ih]
    rfl

theorem runAll_literals (ts : List Text) (h : Collecting f a items s) :
    ∃ t, runAll (n + 5 + ts.length) f (ts.map literalStatement) s = .done .normal t ∧
      Collecting f a (items ++ ((ts.map Text.toStr).map Value.ofLiteral).toArray) t ∧
      t.heap.depth = s.heap.depth := by
  induction ts generalizing items s with
  | nil => exact ⟨s, rfl, by simpa using h, rfl⟩
  | cons x ts ih =>
    have hrun : run (n + 5 + ts.length) f (literalStatement x) s =
        .done .normal (s.spend.collect a (.ofLiteral x)) := by
      have hn : n + 5 + ts.length = n + 1 + ts.length + 4 := by omega
      rw [hn]
      exact run_appendStatement h rfl h.room
    obtain ⟨t, ht, hc, hd⟩ := ih ((h.withUnused (s.heap.unused + 1)).collect (.ofLiteral x))
    refine ⟨t, ?_, by simpa using hc, hd⟩
    rw [List.map_cons, List.length_cons, ← Nat.add_assoc, runAll_cons hrun]
    exact ht

theorem apply_literals (ts : List Text) {param : Text} {v : Value}
    (hs : s.heap.object? a = some (.function (renderClosure param (ts.map literalStatement))))
    (hd : s.heap.depth = 0) :
    ∃ id t, apply (n + 11 + ts.length) (.function a) { positional := [v] } s =
      .done (.text ts.flatten id) t ∧ t.heap.depth = 0 := by
  have hroom : s.heap.depth + 1 < maxCalls := by
    unfold maxCalls
    omega
  have hstart := collecting_bodyState s param (ts.map literalStatement) v hroom
  obtain ⟨t, ht, hc, -⟩ := runAll_literals (n := n + 2) ts hstart
  rw [← List.length_map (f := literalStatement)] at ht
  obtain ⟨id, u, h⟩ := apply_renderClosure hs (by omega) ht hc
    (by simpa using mapM_needText_literals (ts.map Text.toStr))
  refine ⟨id, (t.withUnused u).withDepth s.heap.depth, ?_, hd⟩
  have hn : n + 7 + (ts.map literalStatement).length + 4 = n + 11 + ts.length := by
    rw [List.length_map]
    omega
  rwa [hn, ← Text.toStr_flatten] at h

end Generated
end TemplateEngine
