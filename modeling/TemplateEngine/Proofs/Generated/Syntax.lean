import TemplateEngine.Proofs.Generated.Layout
import TemplateEngine.Script.Program

set_option autoImplicit false

/-!
# The syntax of a generated module

A generated module is a program of four statements: the function that renders, the function that
escapes values, and its two tables. Only the body of the first one depends on the template.
-/
namespace TemplateEngine

open Script

namespace Script.Grammar

theorem ofOutlines_append {os more : List Outline} {ps qs : List Piece}
    (h : ofOutlines os = some ps) (hq : ofOutlines more = some qs) :
    ofOutlines (os ++ more) = some (ps ++ qs) := by
  induction os generalizing ps with
  | nil =>
    obtain rfl := Option.some.inj h
    exact hq
  | cons o os ih =>
    simp only [ofOutlines, Option.bind_eq_bind, Option.bind_eq_some_iff] at h
    obtain ⟨p, hp, qs, hqs, h⟩ := h
    obtain rfl := Option.some.inj h
    simp [ofOutlines, hp, ih hqs]

theorem addBlock_append {body rest ss more : List Stmt} {k k' : Continuation} {h : Head}
    (hb : addBlock body k rest h = some (k', ss)) :
    addBlock body k (rest ++ more) h = some (k', ss ++ more) := by
  cases h with
  | if_ _ | elif _ | while_ _ | for_ _ _ =>
    obtain ⟨b, hk, hb⟩ := Option.bind_eq_some_iff.1 hb
    obtain ⟨rfl, rfl⟩ := Prod.mk.inj (Option.some.inj hb)
    simp [addBlock, hk]
  | else_ | try_ | except _ _ | finally_ | def_ _ _ =>
    simp only [addBlock] at hb ⊢
    split at hb <;> grind

theorem assemble_append {ps qs : List Piece} {k : Continuation} {ss more : List Stmt}
    (h : assemble ps = some (k, ss)) (hq : assemble qs = some (.none, more)) :
    assemble (ps ++ qs) = some (k, ss ++ more) := by
  induction ps generalizing k ss with
  | nil =>
    obtain ⟨rfl, rfl⟩ := Prod.mk.inj (Option.some.inj h)
    exact hq
  | cons p ps ih =>
    simp only [assemble, Option.bind_eq_bind, Option.bind_eq_some_iff] at h
    obtain ⟨⟨k', rest⟩, hrest, h⟩ := h
    simp only [List.cons_append, assemble, ih hrest, Option.bind_eq_bind, Option.bind_some]
    cases p with
    | simple ts =>
      cases k' with
      | none =>
        obtain ⟨rfl, rfl⟩ := Prod.mk.inj (Option.some.inj h)
        simp
      | otherwise => simp at h
      | chain => simp at h
      | ending => simp at h
    | block head body => exact addBlock_append h

end Script.Grammar

namespace Generated

def variableOf (s : String) : Expr := .name s.toList

def literalOf (s : String) : Expr := .constant (.text s.toList)

def callOf (f e : Expr) : Expr := .call f [.positional e]

def bufferStatement : Stmt := .assign [variableOf "_buf"] (.list [])

def returnStatement : Stmt :=
  .give (some (callOf (.attribute (literalOf "") "join".toList) (variableOf "_buf")))

def renderStatement (param : Text) (body : List Stmt) : Stmt :=
  .define renderName [.mk param .plain (some (.constant .none))]
    (bufferStatement :: (body ++ [returnStatement]))

def escapeBody : List Stmt :=
  [.branch (.compare (variableOf "value") [(.same, .constant .none)])
      [.give (some (literalOf ""))] [],
    .branch (.unary .not (.call (variableOf "isinstance")
        [.positional (variableOf "value"), .positional (variableOf "str")]))
      [.give (some (callOf (variableOf "_escape") (callOf (variableOf "str") (variableOf "value"))))]
      [],
    .branch (.unary .not (callOf (.attribute (variableOf "_SPECIAL_CHARS") "intersection".toList)
        (variableOf "value")))
      [.give (some (variableOf "value"))] [],
    .give (some (callOf (.attribute (variableOf "value") "translate".toList)
      (variableOf "_HTML_ENTITIES")))]

def escapeStatement : Stmt :=
  .define escapeName [.mk "value".toList .plain none] escapeBody

def specialStatement : Stmt :=
  .assign [variableOf "_SPECIAL_CHARS"] (callOf (variableOf "frozenset") (literalOf "&\"<>"))

def entityStatement : Stmt :=
  .assign [variableOf "_HTML_ENTITIES"]
    (callOf (.attribute (variableOf "str") "maketrans".toList)
      (.dict [.pair (literalOf "&") (literalOf "&amp;"), .pair (literalOf "\"") (literalOf "&quot;"),
        .pair (literalOf "<") (literalOf "&lt;"), .pair (literalOf ">") (literalOf "&gt;")]))

def program (param : Text) (body : List Stmt) : List Stmt :=
  [renderStatement param body, escapeStatement, specialStatement, entityStatement]

theorem ofOutline_escapeOutline : Grammar.ofOutline escapeOutline =
    some (.block (.def_ escapeName [.mk "value".toList .plain none]) escapeBody) := rfl

theorem ofOutlines_tableOutlines : Grammar.ofOutlines tableOutlines =
    some [.simple [specialStatement], .simple [entityStatement]] := rfl

/-- The name that always stands for a constant cannot be a parameter. -/
theorem head?_headLine_eq (n : Text) : Grammar.head? (headLine n) = (do
    guard (renderName ≠ Grammar.debugName)
    let (items, ts) ← Grammar.parameterItems (Grammar.fuel ((headLine n).drop 3)) .parenClose
      ((headLine n).drop 3)
    let ps ← Grammar.parametersOf? items
    some (Grammar.Head.def_ renderName ps, ts)) := rfl

theorem head?_headLine (n : Text) : Grammar.head? (headLine n) =
    if n = Grammar.debugName then none
    else some (.def_ renderName [.mk n .plain (some (.constant .none))], [.symbol .colon]) := by
  by_cases h : n = Grammar.debugName
  · subst h
    rfl
  · have hitems : Grammar.parameterItems (Grammar.fuel ((headLine n).drop 3)) .parenClose
        ((headLine n).drop 3) = some ([.parameter (.mk n .plain (some (.constant .none)))],
          [.symbol .colon]) := rfl
    have hps : Grammar.parametersOf? [.parameter (.mk n .plain (some (.constant .none)))] =
        some [.mk n .plain (some (.constant .none))] := by
      simp [Grammar.parametersOf?, Grammar.arrange, h, guard]
    have hf : renderName ≠ Grammar.debugName := by decide
    rw [if_neg h, head?_headLine_eq]
    simp [hitems, hps, hf, guard]

theorem piece_headLine {n : Text} (h : n ≠ Grammar.debugName) (s : Stmt) (ss : List Stmt) :
    Grammar.piece (headLine n) (s :: ss) =
      some (.block (.def_ renderName [.mk n .plain (some (.constant .none))]) (s :: ss)) := by
  have hstart : Grammar.startsBlock (headLine n) = true := rfl
  simp [Grammar.piece, hstart, head?_headLine, h]

theorem statements_outlines {n : Text} {os : List Outline} {ps : List Grammar.Piece}
    {ss : List Stmt} (hn : n ≠ Grammar.debugName) (hp : Grammar.ofOutlines os = some ps)
    (hs : Grammar.assemble ps = some (.none, ss)) :
    Grammar.statements (outlines n os) = some (program n ss) := by
  have hbuffer : Grammar.ofOutline (.mk bufferLine []) = some (.simple [bufferStatement]) := rfl
  have hreturn : Grammar.ofOutlines [.mk returnLine []] = some [.simple [returnStatement]] := rfl
  have hbody : Grammar.ofOutlines (.mk bufferLine [] :: (os ++ [.mk returnLine []])) =
      some (.simple [bufferStatement] :: (ps ++ [.simple [returnStatement]])) := by
    simp [Grammar.ofOutlines, hbuffer, Grammar.ofOutlines_append hp hreturn]
  have hassemble := Grammar.assemble_append hs
    (show Grammar.assemble [.simple [returnStatement]] = some (.none, [returnStatement]) from rfl)
  have hblock : Grammar.block (.simple [bufferStatement] :: (ps ++ [.simple [returnStatement]])) =
      some (bufferStatement :: (ss ++ [returnStatement])) := by
    simp [Grammar.block, Grammar.assemble, hassemble]
  have hrender : Grammar.ofOutline
      (.mk (headLine n) (.mk bufferLine [] :: (os ++ [.mk returnLine []]))) =
      some (.block (.def_ renderName [.mk n .plain (some (.constant .none))])
        (bufferStatement :: (ss ++ [returnStatement]))) := by
    simp [Grammar.ofOutline, hbody, hblock, piece_headLine hn]
  simp [Grammar.statements, outlines, Grammar.ofOutlines, hrender, ofOutline_escapeOutline,
    ofOutlines_tableOutlines, Grammar.block, Grammar.assemble, Grammar.addBlock, program,
    renderStatement, escapeStatement]

/-- Whatever its body is, a module whose parameter has the name of a constant is no program. -/
theorem statements_outlines_debugName (os : List Outline) :
    Grammar.statements (outlines Grammar.debugName os) = none := by
  have hpiece : ∀ ss, Grammar.piece (headLine Grammar.debugName) ss = none := by
    intro ss
    have hstart : Grammar.startsBlock (headLine Grammar.debugName) = true := rfl
    simp [Grammar.piece, hstart, head?_headLine]
  have hrender : Grammar.ofOutline (.mk (headLine Grammar.debugName)
      (.mk bufferLine [] :: (os ++ [.mk returnLine []]))) = none := by
    simp [Grammar.ofOutline, hpiece]
  simp [Grammar.statements, outlines, Grammar.ofOutlines, hrender]

theorem foldAll_append (ss ts : List Stmt) :
    Stmt.foldAll (ss ++ ts) = Stmt.foldAll ss ++ Stmt.foldAll ts := by
  induction ss with
  | nil => rfl
  | cons s ss ih => simp [Stmt.foldAll, ih]

theorem foldAll_program (n : Text) (ss : List Stmt) :
    Stmt.foldAll (program n ss) = program n (Stmt.foldAll ss) := by
  have hrender : (renderStatement n ss).fold = renderStatement n (Stmt.foldAll ss) := by
    simp only [renderStatement, Stmt.fold, Stmt.foldAll, foldAll_append]
    rfl
  simp only [program, Stmt.foldAll, hrender]
  rfl

theorem nestingOfBlock_append (ss ts : List Stmt) :
    Grammar.nestingOfBlock (ss ++ ts) =
      (Grammar.nestingOfBlock ss).beside (Grammar.nestingOfBlock ts) := by
  induction ss with
  | nil => simp [Grammar.nestingOfBlock, Grammar.Nesting.beside]
  | cons s ss ih =>
    simp [Grammar.nestingOfBlock, ih, Grammar.Nesting.beside, Nat.max_assoc]

theorem allFit_append (p : Grammar.Place) (ss ts : List Stmt) :
    Grammar.allFit p (ss ++ ts) = (Grammar.allFit p ss && Grammar.allFit p ts) := by
  induction ss with
  | nil => simp [Grammar.allFit]
  | cons s ss ih => simp [Grammar.allFit, ih, Bool.and_assoc]

/-- How deep a body may be nested, so that the module around it is not too deep. -/
structure Fits (ss : List Stmt) : Prop where
  parts : (Grammar.nestingOfBlock ss).parts < Grammar.Nesting.maxParts
  rules : (Grammar.nestingOfBlock ss).rules + Grammar.Nesting.block ≤ Grammar.Nesting.maxRules
  places : Grammar.allFit { inFunction := true } ss = true

theorem fault?_program (n : Text) {ss : List Stmt} (h : Fits ss) :
    Program.fault? (program n ss) = none := by
  obtain ⟨hparts, hrules, hplaces⟩ := h
  have hclosing : Grammar.nestingOfBlock [escapeStatement, specialStatement, entityStatement] =
      ⟨6, 60⟩ := by decide
  have hreturn : Grammar.nestingOfBlock [returnStatement] = ⟨4, 24⟩ := by decide
  have hbuffer : Grammar.nestingOfStatement bufferStatement = ⟨2, 29⟩ := by decide
  have hdefault : Grammar.nestingOfParameters [.mk n .plain (some (.constant .none))] = ⟨1, 0⟩ := rfl
  have hbody : Grammar.nestingOfBlock (bufferStatement :: (ss ++ [returnStatement])) =
      ⟨max 2 (max (Grammar.nestingOfBlock ss).parts 4),
        max 29 (max (Grammar.nestingOfBlock ss).rules 24)⟩ := by
    rw [Grammar.nestingOfBlock, nestingOfBlock_append, hreturn, hbuffer]
    rfl
  have hrender : Grammar.nestingOfStatement (renderStatement n ss) =
      ⟨max 2 (max (Grammar.nestingOfBlock ss).parts 4) + 1,
        max 29 (max (Grammar.nestingOfBlock ss).rules 24) + 6⟩ := by
    simp only [renderStatement, Grammar.nestingOfStatement, hdefault, hbody, Grammar.Nesting.beside,
      Grammar.Nesting.behind, Grammar.Nesting.above, Grammar.Nesting.block,
      Grammar.Nesting.mk.injEq]
    omega
  have hplaced : Grammar.fits {} (renderStatement n ss) = true := by
    rw [renderStatement, Grammar.fits, Grammar.allFit, allFit_append, hplaces]
    rfl
  have hfit : Grammar.allFit {} (program n ss) = true := by
    rw [program, Grammar.allFit, hplaced]
    rfl
  have hnesting : Grammar.nestingOfBlock (program n ss) =
      ⟨max (max 2 (max (Grammar.nestingOfBlock ss).parts 4) + 1) 6,
        max (max 29 (max (Grammar.nestingOfBlock ss).rules 24) + 6) 60⟩ := by
    rw [program, Grammar.nestingOfBlock, hclosing, hrender]
    rfl
  unfold Grammar.Nesting.maxParts at hparts
  unfold Grammar.Nesting.maxRules Grammar.Nesting.block at hrules
  simp only [Program.fault?, hnesting, Grammar.Nesting.maxRules, Grammar.Nesting.maxParts, hfit,
    if_true]
  rw [if_neg (by omega), if_neg (by omega)]

section

variable {p origin : Text} {body : List Text} {os : List Outline}

/-- What the text of a module is read as that has its outline. -/
theorem ofText_module_of_outlines {ps : List Grammar.Piece} {ss : List Stmt}
    (hn : Text.normalName p ≠ Grammar.debugName) (hnull : '\x00' ∉ module p body origin)
    (ho : Outline.ofText? (module p body origin) = some (outlines (Text.normalName p) os))
    (hps : Grammar.ofOutlines os = some ps) (hss : Grammar.assemble ps = some (.none, ss)) :
    Program.ofText (module p body origin) =
      match Program.fault? (program (Text.normalName p) ss) with
      | some f => .error f
      | none => .ok (program (Text.normalName p) (Stmt.foldAll ss)) := by
  have h := statements_outlines hn hps hss
  cases hfault : Program.fault? (program (Text.normalName p) ss) <;>
    simp [Program.ofText, hnull, ho, h, hfault, foldAll_program]

theorem ofText_module_eq {ps : List Grammar.Piece} {ss : List Stmt} (hp : isVariableName p = true)
    (hn : Text.normalName p ≠ Grammar.debugName)
    (hb : Outline.ReadAs body (Outline.allRows 1 os)) (hl : ∀ l ∈ body, IsLine l)
    (ho : '\x00' ∉ origin) (hd : Outline.allHeight os < Outline.maxColumns)
    (hps : Grammar.ofOutlines os = some ps) (hss : Grammar.assemble ps = some (.none, ss)) :
    Program.ofText (module p body origin) =
      match Program.fault? (program (Text.normalName p) ss) with
      | some f => .error f
      | none => .ok (program (Text.normalName p) (Stmt.foldAll ss)) :=
  ofText_module_of_outlines hn (not_mem_module hp hl ho) (ofText?_module hp hb hl ho hd) hps hss

/-- The text of a module is read as its program if its body is read as statements. -/
theorem ofText_module {ps : List Grammar.Piece} {ss : List Stmt} (hp : isVariableName p = true)
    (hn : Text.normalName p ≠ Grammar.debugName)
    (hb : Outline.ReadAs body (Outline.allRows 1 os)) (hl : ∀ l ∈ body, IsLine l)
    (ho : '\x00' ∉ origin) (hd : Outline.allHeight os < Outline.maxColumns)
    (hps : Grammar.ofOutlines os = some ps) (hss : Grammar.assemble ps = some (.none, ss))
    (hfits : Fits ss) :
    Program.ofText (module p body origin) =
      .ok (program (Text.normalName p) (Stmt.foldAll ss)) := by
  rw [ofText_module_eq hp hn hb hl ho hd hps hss, fault?_program _ hfits]

theorem isLine_of_mem_sourceLines {t l : Text} (ht : '\x00' ∉ t) (hl : l ∈ Text.sourceLines t) :
    IsLine l := by
  have hmem := Text.of_mem_physicalLines hl
  exact ⟨fun h => (hmem _ h).1 rfl, fun h => Text.not_mem_unifyLineEnds t (hmem _ h).2,
    fun h => ht ((Text.mem_unifyLineEnds (by decide) (by decide) t).1 (hmem _ h).2)⟩

/-- Whether a text that may be more than one line can stand in the body of a module. -/
def IsBodyText (t : Text) : Prop := '\x00' ∉ t ∧ t.getLast? ≠ some '\r'

theorem IsLine.isBodyText {l : Text} (h : IsLine l) : IsBodyText l :=
  ⟨h.2.2, fun hlast => h.2.1 (List.mem_of_getLast? hlast)⟩

/-- Texts in the body count by their lines. -/
theorem unifyLineEnds_module (hp : isVariableName p = true) (hl : ∀ t ∈ body, t.getLast? ≠ some '\r')
    (ho : '\x00' ∉ origin) : Text.unifyLineEnds (module p body origin) =
      module p (body.flatMap Text.sourceLines) origin := by
  have hopening : ∀ l ∈ headerLine origin :: openingLines p, IsLine l := by
    have h := @isLine_moduleLines p origin [] hp (by simp) ho
    exact fun l hl => h l (List.mem_append_left _ (by simpa using hl))
  have hsame : ∀ {ls : List Text}, (∀ l ∈ ls, IsLine l) → ls.flatMap Text.sourceLines = ls :=
    fun h => Text.flatMap_sourceLines fun l hl => ⟨(h l hl).1, (h l hl).2.1⟩
  have hends : ∀ l ∈ moduleLines p body origin, l.getLast? ≠ some '\r' := by
    simp only [moduleLines, List.forall_mem_append]
    exact ⟨⟨fun l h => (hopening l h).isBodyText.2, hl⟩,
      fun l h => (isLine_closingLines l h).isBodyText.2⟩
  rw [module_eq_unlines, Outline.unifyLineEnds_unlines hends, module_eq_unlines, moduleLines,
    List.flatMap_append, List.flatMap_append, hsame hopening, hsame isLine_closingLines]
  rfl

theorem ofText_unifyLineEnds (t : Text) : Program.ofText (Text.unifyLineEnds t) = Program.ofText t := by
  have hnull : (Text.unifyLineEnds t).contains '\x00' = t.contains '\x00' := by
    rw [Bool.eq_iff_iff, List.contains_iff_mem, List.contains_iff_mem]
    exact Text.mem_unifyLineEnds (by decide) (by decide) t
  rw [Program.ofText, Program.ofText, hnull, Outline.ofText?_unifyLineEnds]

/-- The same for a body of texts that may be more than a line each. -/
theorem ofText_module_of_texts {ps : List Grammar.Piece} {ss : List Stmt} (hp : isVariableName p = true)
    (hn : Text.normalName p ≠ Grammar.debugName)
    (hb : Outline.ReadAs (body.flatMap Text.sourceLines) (Outline.allRows 1 os))
    (hl : ∀ t ∈ body, IsBodyText t) (ho : '\x00' ∉ origin)
    (hd : Outline.allHeight os < Outline.maxColumns) (hps : Grammar.ofOutlines os = some ps)
    (hss : Grammar.assemble ps = some (.none, ss)) :
    Program.ofText (module p body origin) =
      match Program.fault? (program (Text.normalName p) ss) with
      | some f => .error f
      | none => .ok (program (Text.normalName p) (Stmt.foldAll ss)) := by
  have hlines : ∀ l ∈ body.flatMap Text.sourceLines, IsLine l := by
    intro l hmem
    obtain ⟨t, ht, hl'⟩ := List.mem_flatMap.1 hmem
    exact isLine_of_mem_sourceLines (hl t ht).1 hl'
  rw [← ofText_unifyLineEnds, unifyLineEnds_module hp (fun t ht => (hl t ht).2) ho]
  exact ofText_module_eq hp hn hb hlines ho hd hps hss

theorem ofText_module_debugName (hp : isVariableName p = true)
    (hn : Text.normalName p = Grammar.debugName)
    (hb : Outline.ReadAs body (Outline.allRows 1 os)) (hl : ∀ l ∈ body, IsLine l)
    (ho : '\x00' ∉ origin) (hd : Outline.allHeight os < Outline.maxColumns) :
    Program.ofText (module p body origin) = .error .malformed := by
  simp [Program.ofText, not_mem_module hp hl ho, ofText?_module hp hb hl ho hd, hn,
    statements_outlines_debugName]

end

end Generated
end TemplateEngine
