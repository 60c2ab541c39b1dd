import TemplateEngine.Proofs.Generated.Directives
import TemplateEngine.Proofs.Script.Names
import TemplateEngine.Proofs.Template.Tree

set_option autoImplicit false

/-!
# Templates of expressions, conditions and loops

A template that adds literals and the values of expressions to the output, and whose blocks are
conditions and loops, is a tree of phrases. Its generated function is read as a tree of statements of
the same shape.
-/
namespace TemplateEngine

open Script

structure LoopVariable where
  text : Text
  isName : isVariableName text = true
  ne_debug : Text.normalName text ≠ Grammar.debugName
  no_break : ∀ c ∈ text, Text.isLineBreak c = false

def LoopVariable.name (x : LoopVariable) : Text := Text.normalName x.text

def Script.Phrase.value (e : Phrase) : Expr := e.expr.fold

mutual

inductive Element where
  | literal (text : Text)
  /-- The value of an expression is shown, escaped or not. -/
  | output (escaped : Bool) (e : Phrase)
  | choice (test : LinePhrase) (body : List Element) (others : Alternatives)
  | each (x : LoopVariable) (items : LinePhrase) (body : List Element)

inductive Alternatives where
  | none
  | otherwise (body : List Element)
  | elif (test : LinePhrase) (body : List Element) (others : Alternatives)

end

namespace Element

mutual

def part : Element → Part
  | literal t => .literal t
  | output true e => .escaped e.text
  | output false e => .raw e.text
  | choice test body others => .block (Generated.headOf test.toPhrase "if".toList) (parts body) (branches others)
  | each x items body => .block (Generated.headOf items.toPhrase (Generated.loopText x.text)) (parts body) []

def parts : List Element → List Part
  | [] => []
  | e :: es => part e :: parts es

def branches : Alternatives → List Branch
  | .none => []
  | .otherwise body => [.mk Generated.elseText (parts body)]
  | .elif test body others => .mk (Generated.headOf test.toPhrase "elif".toList) (parts body) :: branches others

end

def source (es : List Element) : Text := Part.source (parts es)

mutual

/-- The expressions of an element, and how many brackets are open where each of them is written. -/
def phrases : Element → List (Int × Phrase)
  | literal _ => []
  | output _ e => [(2, e)]
  | choice test body others => (0, test.toPhrase) :: (allPhrases body ++ otherPhrases others)
  | each _ items body => (0, items.toPhrase) :: allPhrases body

def allPhrases : List Element → List (Int × Phrase)
  | [] => []
  | e :: es => phrases e ++ allPhrases es

def otherPhrases : Alternatives → List (Int × Phrase)
  | .none => []
  | .otherwise body => allPhrases body
  | .elif test body others => (0, test.toPhrase) :: (allPhrases body ++ otherPhrases others)

end

mutual

def names : Element → List Text
  | literal _ => []
  | output _ e => e.value.names
  | choice test body others => test.value.names ++ (allNames body ++ otherNames others)
  | each x items body => x.name :: (items.value.names ++ allNames body)

def allNames : List Element → List Text
  | [] => []
  | e :: es => names e ++ allNames es

def otherNames : Alternatives → List Text
  | .none => []
  | .otherwise body => allNames body
  | .elif test body others => test.value.names ++ (allNames body ++ otherNames others)

end

mutual

def bound : Element → List Text
  | literal _ | output _ _ => []
  | choice _ body others => allBound body ++ otherBound others
  | each x _ body => x.name :: allBound body

def allBound : List Element → List Text
  | [] => []
  | e :: es => bound e ++ allBound es

def otherBound : Alternatives → List Text
  | .none => []
  | .otherwise body => allBound body
  | .elif _ body others => allBound body ++ otherBound others

end

def filled {α : Type} (filler : α) : List α → List α
  | [] => [filler]
  | as => as

mutual

def outlines : Element → List Outline
  | literal t => [.mk (Generated.literalLexemes t) []]
  | output escaped e => [.mk (Generated.outputLexemes e escaped) []]
  | choice test body others =>
    .mk (.word .if_ :: (test.lexemes ++ [.symbol .colon]))
      (filled (.mk Generated.passLexemes []) (allOutlines body)) :: otherOutlines others
  | each x items body =>
    [.mk (.word .for_ :: .name x.name :: .word .in_ :: (items.lexemes ++ [.symbol .colon]))
      (filled (.mk Generated.passLexemes []) (allOutlines body))]

def allOutlines : List Element → List Outline
  | [] => []
  | e :: es => outlines e ++ allOutlines es

def otherOutlines : Alternatives → List Outline
  | .none => []
  | .otherwise body =>
    [.mk Generated.elseLexemes (filled (.mk Generated.passLexemes []) (allOutlines body))]
  | .elif test body others =>
    .mk (.word .elif :: (test.lexemes ++ [.symbol .colon]))
      (filled (.mk Generated.passLexemes []) (allOutlines body)) :: otherOutlines others

end

section

variable (value : Phrase → Expr)

mutual

def statement : Element → Stmt
  | literal t => Generated.appendStatement (.constant (.text t))
  | output escaped e => Generated.outputStatement escaped (value e)
  | choice test body others =>
    .branch (value test.toPhrase) (filled .pass (statements body)) (otherStatements others)
  | each x items body => .each (.name x.name) (value items.toPhrase) (filled .pass (statements body)) []

def statements : List Element → List Stmt
  | [] => []
  | e :: es => statement e :: statements es

def otherStatements : Alternatives → List Stmt
  | .none => []
  | .otherwise body => filled .pass (statements body)
  | .elif test body others =>
    [.branch (value test.toPhrase) (filled .pass (statements body)) (otherStatements others)]

end

end

section

variable {value : Phrase → Expr}

mutual

theorem bound_statement (e : Element) : (statement value e).bound = bound e := by
  cases e with
  | literal t | output escaped e => rfl
  | choice test body others =>
    rw [statement, Stmt.bound, bound, boundAll_filled, boundAll_otherStatements]
  | each x items body =>
    rw [statement, Stmt.bound, bound, boundAll_filled]
    simp [Expr.bound, Stmt.boundAll]

theorem boundAll_statements (es : List Element) :
    Stmt.boundAll (statements value es) = allBound es := by
  cases es with
  | nil => rfl
  | cons e es =>
    rw [statements, Stmt.boundAll, allBound, bound_statement e, boundAll_statements es]

theorem boundAll_filled (es : List Element) :
    Stmt.boundAll (filled .pass (statements value es)) = allBound es := by
  cases es with
  | nil => rfl
  | cons e es =>
    change Stmt.boundAll (statement value e :: statements value es) = _
    rw [Stmt.boundAll, allBound, bound_statement e, boundAll_statements es]

theorem boundAll_otherStatements (others : Alternatives) :
    Stmt.boundAll (otherStatements value others) = otherBound others := by
  cases others with
  | none => rfl
  | otherwise body => rw [otherStatements, otherBound, boundAll_filled]
  | elif test body others =>
    rw [otherStatements, otherBound, Stmt.boundAll, Stmt.bound, boundAll_filled,
      boundAll_otherStatements]
    simp [Stmt.boundAll]

end

end

theorem margin_eq_indentOf (d : Nat) : Part.margin d = Outline.indentOf (d + 1) := rfl

theorem isLine_margin (d : Nat) : Generated.IsLine (Part.margin d) := by
  have hno : ∀ c, c ≠ ' ' → c ∉ Part.margin d := fun c hc hmem => hc (List.eq_of_mem_replicate hmem)
  exact ⟨hno _ (by decide), hno _ (by decide), hno _ (by decide)⟩

theorem isComment_part (e : Element) : (part e).isComment = false := by
  cases e with
  | output escaped e => cases escaped <;> rfl
  | _ => rfl

theorem readAs_sourceLines {l : Text} {d : Nat} {rows : List Outline.Row} (hl : Generated.IsLine l)
    (h : Outline.ReadAs [Outline.indentOf (d + 1) ++ l] rows) :
    Outline.ReadAs (Text.sourceLines (Part.margin d ++ l)) rows := by
  have hline := (isLine_margin d).append hl
  rwa [Text.sourceLines_eq_singleton hline.1 hline.2.1]

theorem readAs_filled {es : List Element} {d : Nat}
    (h : Outline.ReadAs ((Part.allLines d (parts es)).flatMap Text.sourceLines)
      (Outline.allRows (d + 1) (allOutlines es))) :
    Outline.ReadAs ((Part.allLines d (parts es)).flatMap Text.sourceLines ++
        (Part.filler d (parts es)).flatMap Text.sourceLines)
      (Outline.allRows (d + 1) (filled (.mk Generated.passLexemes []) (allOutlines es))) := by
  cases es with
  | nil =>
    have := readAs_sourceLines Generated.isLine_pass (Generated.readAs_pass (d + 1))
    simpa [parts, Part.allLines, Part.filler, allOutlines, filled, Outline.allRows, Outline.rows] using this
  | cons e es =>
    have hfiller : Part.filler d (parts (e :: es)) = [] := by
      simp [Part.filler, parts, isComment_part]
    have hne : ∃ o os, allOutlines (e :: es) = o :: os := by
      cases e <;> exact ⟨_, _, rfl⟩
    obtain ⟨o, os, ho⟩ := hne
    rw [hfiller, List.flatMap_nil, List.append_nil]
    rw [ho] at h ⊢
    exact h

mutual

theorem readAs_lines (e : Element) (d : Nat)
    (h : ∀ p ∈ phrases e, Outline.bracketsFit p.1 p.2.tokens = true) :
    Outline.ReadAs (((part e).lines d).flatMap Text.sourceLines) (Outline.allRows (d + 1) (outlines e)) := by
  cases e with
  | literal t =>
    have := readAs_sourceLines (Generated.isLine_literalLine t) (Generated.readAs_literalLine t (d + 1))
    simpa [part, Part.lines, outlines, Outline.allRows, Outline.rows] using this
  | output escaped e =>
    have := Generated.readAs_output e escaped (h _ List.mem_cons_self) (d + 1)
    cases escaped <;>
      simpa [part, Part.lines, outlines, Outline.allRows, Outline.rows, margin_eq_indentOf,
        Generated.callName] using this
  | choice test body others =>
    simp only [phrases, List.forall_mem_cons, List.forall_mem_append] at h
    obtain ⟨htest, hbody, hothers⟩ := h
    have hhead := readAs_sourceLines (Generated.isLine_headOf test Generated.isLine_if)
      (Generated.readAs_headOf test Generated.introduces_if htest (d + 1))
    have := hhead.append ((readAs_filled (readAs_allLines body (d + 1) hbody)).append
      (readAs_branchLines others d hothers))
    simpa [part, Part.lines, outlines, Outline.allRows, Outline.rows] using this
  | each x items body =>
    simp only [phrases, List.forall_mem_cons] at h
    obtain ⟨hitems, hbody⟩ := h
    have hhead := readAs_sourceLines (Generated.isLine_headOf items (Generated.isLine_loopText x.isName))
      (Generated.readAs_headOf items (Generated.introduces_for x.isName) hitems (d + 1))
    have := hhead.append (readAs_filled (readAs_allLines body (d + 1) hbody))
    simpa [part, Part.lines, Part.branchLines, outlines, Outline.allRows, Outline.rows,
      LoopVariable.name] using this

theorem readAs_allLines (es : List Element) (d : Nat)
    (h : ∀ p ∈ allPhrases es, Outline.bracketsFit p.1 p.2.tokens = true) :
    Outline.ReadAs ((Part.allLines d (parts es)).flatMap Text.sourceLines)
      (Outline.allRows (d + 1) (allOutlines es)) := by
  cases es with
  | nil => exact Outline.readAs_nil
  | cons e es =>
    simp only [allPhrases, List.forall_mem_append] at h
    rw [parts, Part.allLines, allOutlines, Outline.allRows_append, List.flatMap_append]
    exact (readAs_lines e d h.1).append (readAs_allLines es d h.2)

theorem readAs_branchLines (others : Alternatives) (d : Nat)
    (h : ∀ p ∈ otherPhrases others, Outline.bracketsFit p.1 p.2.tokens = true) :
    Outline.ReadAs ((Part.branchLines d (branches others)).flatMap Text.sourceLines)
      (Outline.allRows (d + 1) (otherOutlines others)) := by
  cases others with
  | none => exact Outline.readAs_nil
  | otherwise body =>
    have hhead := readAs_sourceLines Generated.isLine_else (Generated.readAs_else (d + 1))
    have := hhead.append (readAs_filled (readAs_allLines body (d + 1) h))
    simpa [branches, Part.branchLines, otherOutlines, Outline.allRows, Outline.rows] using this
  | elif test body others =>
    simp only [otherPhrases, List.forall_mem_cons, List.forall_mem_append] at h
    obtain ⟨htest, hbody, hothers⟩ := h
    have hhead := readAs_sourceLines (Generated.isLine_headOf test Generated.isLine_elif)
      (Generated.readAs_headOf test Generated.introduces_elif htest (d + 1))
    have := hhead.append ((readAs_filled (readAs_allLines body (d + 1) hbody)).append
      (readAs_branchLines others d hothers))
    simpa [branches, Part.branchLines, otherOutlines, Outline.allRows, Outline.rows] using this

end

theorem ofOutlines_cons {o : Outline} {os : List Outline} {p : Grammar.Piece} {ps : List Grammar.Piece}
    (ho : Grammar.ofOutline o = some p) (hos : Grammar.ofOutlines os = some ps) :
    Grammar.ofOutlines (o :: os) = some (p :: ps) := by
  simp [Grammar.ofOutlines, ho, hos]

theorem ofOutline_filled {line : List Lexeme} {head : Grammar.Head} {es : List Element}
    {ps : List Grammar.Piece} (hps : Grammar.ofOutlines (allOutlines es) = some ps)
    (hss : Grammar.assemble ps = some (.none, statements Phrase.expr es))
    (hhead : ∀ s ss, Grammar.piece line (s :: ss) = some (.block head (s :: ss))) :
    Grammar.ofOutline (.mk line (filled (.mk Generated.passLexemes []) (allOutlines es))) =
      some (.block head (filled .pass (statements Phrase.expr es))) := by
  cases es with
  | nil =>
    have hpass : Grammar.ofOutlines [.mk Generated.passLexemes []] = some [.simple [.pass]] := rfl
    have hblock : Grammar.block [.simple [.pass]] = some [.pass] := rfl
    simp [allOutlines, statements, filled, Grammar.ofOutline, hpass, hblock, hhead]
  | cons e es =>
    obtain ⟨o, os, ho⟩ : ∃ o os, allOutlines (e :: es) = o :: os := by
      cases e <;> exact ⟨_, _, rfl⟩
    have hblock : Grammar.block ps = some (statements Phrase.expr (e :: es)) := by
      simp [Grammar.block, hss]
    rw [ho] at hps ⊢
    rw [statements] at hblock ⊢
    simp [filled, Grammar.ofOutline, hps, hblock, hhead]

mutual

theorem reads_outlines (e : Element) : ∃ ps, Grammar.ofOutlines (outlines e) = some ps ∧
    ∀ more ss, Grammar.assemble more = some (.none, ss) →
      Grammar.assemble (ps ++ more) = some (.none, statement Phrase.expr e :: ss) := by
  cases e with
  | literal t =>
    refine ⟨[.simple [statement Phrase.expr (literal t)]],
      ofOutlines_cons (Generated.piece_literalLexemes t) rfl, fun more ss h => ?_⟩
    simp [Grammar.assemble, h]
  | output escaped e =>
    refine ⟨[.simple [statement Phrase.expr (output escaped e)]],
      ofOutlines_cons (Generated.piece_outputLexemes e escaped) rfl, fun more ss h => ?_⟩
    simp [Grammar.assemble, h]
  | choice test body others =>
    obtain ⟨ps, hps, hss⟩ := reads_allOutlines body
    obtain ⟨qs, hqs, hothers⟩ := reads_otherOutlines others
    have hpiece := ofOutline_filled hps hss (Generated.piece_if test.toPhrase)
    refine ⟨_, ofOutlines_cons hpiece hqs, fun more ss h => ?_⟩
    obtain ⟨k, hk, hchain⟩ := hothers more ss h
    simp [Grammar.assemble, hk, Grammar.addBlock, hchain, statement]
  | each x items body =>
    obtain ⟨ps, hps, hss⟩ := reads_allOutlines body
    have hpiece := ofOutline_filled hps hss fun s ss =>
      Generated.piece_for items.toPhrase s ss x.ne_debug
    refine ⟨_, ofOutlines_cons hpiece rfl, fun more ss h => ?_⟩
    simp [Grammar.assemble, h, Grammar.addBlock, Grammar.Continuation.otherwise?, statement,
      LoopVariable.name]

theorem reads_allOutlines (es : List Element) :
    ∃ ps, Grammar.ofOutlines (allOutlines es) = some ps ∧
      Grammar.assemble ps = some (.none, statements Phrase.expr es) := by
  cases es with
  | nil => exact ⟨[], rfl, rfl⟩
  | cons e es =>
    obtain ⟨ps, hps, hfirst⟩ := reads_outlines e
    obtain ⟨qs, hqs, hrest⟩ := reads_allOutlines es
    exact ⟨ps ++ qs, Grammar.ofOutlines_append hps hqs, hfirst qs _ hrest⟩

theorem reads_otherOutlines (others : Alternatives) :
    ∃ ps, Grammar.ofOutlines (otherOutlines others) = some ps ∧
      ∀ more ss, Grammar.assemble more = some (.none, ss) →
        ∃ k, Grammar.assemble (ps ++ more) = some (k, ss) ∧
          k.chain? = some (otherStatements Phrase.expr others) := by
  cases others with
  | none => exact ⟨[], rfl, fun more ss h => ⟨.none, h, rfl⟩⟩
  | otherwise body =>
    obtain ⟨ps, hps, hss⟩ := reads_allOutlines body
    have hpiece := ofOutline_filled hps hss Generated.piece_else
    refine ⟨_, ofOutlines_cons hpiece rfl, fun more ss h =>
      ⟨.otherwise _, ?_, rfl⟩⟩
    simp [Grammar.assemble, h, Grammar.addBlock, otherStatements]
  | elif test body others =>
    obtain ⟨ps, hps, hss⟩ := reads_allOutlines body
    obtain ⟨qs, hqs, hothers⟩ := reads_otherOutlines others
    have hpiece := ofOutline_filled hps hss (Generated.piece_elif test.toPhrase)
    refine ⟨_, ofOutlines_cons hpiece hqs, fun more ss h => ?_⟩
    obtain ⟨k, hk, hchain⟩ := hothers more ss h
    refine ⟨.chain (otherStatements Phrase.expr (.elif test body others)), ?_, rfl⟩
    simp [Grammar.assemble, hk, Grammar.addBlock, hchain, otherStatements]

end

mutual

theorem fold_statement (e : Element) :
    (statement Phrase.expr e).fold = statement Phrase.value e := by
  cases e with
  | literal t => rfl
  | output escaped e => rfl
  | choice test body others =>
    rw [statement, statement, Stmt.fold, foldAll_filled, foldAll_otherStatements]
    rfl
  | each x items body =>
    rw [statement, statement, Stmt.fold, foldAll_filled]
    rfl

theorem foldAll_statements (es : List Element) :
    Stmt.foldAll (statements Phrase.expr es) = statements Phrase.value es := by
  cases es with
  | nil => rfl
  | cons e es => rw [statements, statements, Stmt.foldAll, fold_statement e, foldAll_statements es]

theorem foldAll_filled (es : List Element) :
    Stmt.foldAll (filled .pass (statements Phrase.expr es)) =
      filled .pass (statements Phrase.value es) := by
  cases es with
  | nil => rfl
  | cons e es =>
    have := foldAll_statements (e :: es)
    rwa [statements, statements] at this

theorem foldAll_otherStatements (others : Alternatives) :
    Stmt.foldAll (otherStatements Phrase.expr others) = otherStatements Phrase.value others := by
  cases others with
  | none => rfl
  | otherwise body => exact foldAll_filled body
  | elif test body others =>
    rw [otherStatements, otherStatements, Stmt.foldAll, Stmt.foldAll, Stmt.fold, foldAll_filled,
      foldAll_otherStatements others]
    rfl

end

end Element
end TemplateEngine
