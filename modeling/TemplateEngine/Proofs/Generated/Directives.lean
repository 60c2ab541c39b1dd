import TemplateEngine.Proofs.Generated.Showing
import TemplateEngine.Proofs.Script.Phrase

set_option autoImplicit false

/-!
# Lines of directives

A directive becomes a line with its expression in it: a call that adds to the output, or the head of a
block. Whatever the expression is, the line around it is read in the same way.
-/
namespace TemplateEngine

open Script

namespace Generated

open LineScan

variable (e : Phrase)

theorem isLine_phrase (e : LinePhrase) : IsLine e.text := by
  have hno : ∀ c, Text.isLineBreak c = true → c ∉ e.text := fun c hc hmem => by
    have := e.no_break c hmem
    rw [hc] at this
    contradiction
  exact ⟨hno '\n' rfl, hno '\r' rfl, e.no_null⟩

def outputLexemes (escaped : Bool) : List Lexeme :=
  appendLexemes ++ .name (callName escaped) :: .symbol .parenOpen ::
    (e.lexemes ++ [.symbol .parenClose, .symbol .parenClose])

def frontTokens (f : Text) : List Token :=
  appendTokens ++ [⟨.name, f, 0, 12⟩, ⟨.operator, "(".toList, 0, 12 + f.length⟩]

theorem closers_brackets : Closers "))".toList := by
  intro c hc
  exact .inl (by simpa using hc)

theorem closers_colon : Closers ":".toList := by
  intro c hc
  exact .inr (by simpa using hc)

def frontText (f : Text) : Text := bufferName ++ ".append(".toList ++ f ++ "(".toList

theorem length_frontText (f : Text) : (frontText f).length = 12 + f.length + 1 := by
  have hbuffer : (bufferName ++ ".append(".toList).length = 12 := rfl
  rw [frontText, List.length_append, List.length_append, hbuffer]
  rfl

theorem appendCall_eq (f t : Text) : Compile.appendCall f t = frontText f ++ (t ++ "))".toList) := by
  simp [Compile.appendCall, frontText]

theorem isLine_frontText (escaped : Bool) : IsLine (frontText (callName escaped)) := by
  unfold IsLine
  cases escaped <;> decide +kernel

theorem fronts_frontText (escaped : Bool) :
    Fronts (frontText (callName escaped)) (frontTokens (callName escaped)) 2 where
  starts := ⟨'_', _, rfl, by decide, by decide, by decide⟩
  rest_append t us l h := by
    rw [length_frontText] at h
    have hopen := @rest_cons Lexeme.nameRule 0 (12 + (callName escaped).length) []
      ("(".toList ++ t) _ _ _ _ _ (by simp) rfl
      (lead_operator Lexeme.nameRule 0 _ rfl (by decide) rfl (by decide) rfl) h
    have hname : rest Lexeme.nameRule 0 12 (callName escaped ++ ("(".toList ++ t)) =
        ((frontTokens (callName escaped) ++ us).drop 4, l) := by
      cases escaped with
      | true => exact rest_cons Lexeme.nameRule (g := []) (x := escapeName) (by simp) rfl rfl hopen
      | false =>
        exact rest_cons Lexeme.nameRule (g := []) (x := Compile.textCall) (by simp) rfl rfl hopen
    have h := rest_append hname
    simpa [frontText, bufferName, frontTokens, appendTokens] using h
  depth := rfl

theorem bracketsFit_frontTokens (f : Text) : Outline.bracketsFit 0 (frontTokens f) = true := by
  simp [frontTokens, appendTokens, Outline.bracketsFit, depthAfter, Token.bracketChange,
    Outline.maxBrackets]

theorem ofTokens?_frontTokens (escaped : Bool) : Lexeme.ofTokens? (frontTokens (callName escaped)) =
    some (appendLexemes ++ [.name (callName escaped), .symbol .parenOpen]) := by
  cases escaped <;> decide +kernel

theorem lines_output (escaped : Bool) (d row : Nat) : ∃ ts us,
    lines Lexeme.nameRule row {}
        (Text.sourceLines (Outline.indentOf d ++ Compile.appendCall (callName escaped) e.text)) =
      (.margin (Outline.indentOf d) :: (ts.map Event.token ++ [.lineEnd]), {}) ∧
    ts = ((frontTokens (callName escaped)).map (Token.moved 0 (Outline.indentOf d).length) ++
      (e.tokens ++ us).map (Token.slid ((Outline.indentOf d).length +
        (frontText (callName escaped)).length))).map (Token.moved row 0) ∧
    ∃ row' column, us = (closerTokens column "))".toList).map (Token.moved row' 0) := by
  have hindent : '\n' ∉ Outline.indentOf d ∧ '\r' ∉ Outline.indentOf d := by
    constructor <;> exact fun h => absurd (List.eq_of_mem_replicate h) (by decide)
  have hfront := isLine_frontText escaped
  have hsource := Text.sourceLines_surround (a := Outline.indentOf d ++ frontText (callName escaped))
    (b := "))".toList) (t := e.text) (by simp [hindent.1, hfront.1]) (by simp [hindent.2, hfront.2.1])
    (by decide) (by decide)
  have hinside : LineState.Inside { depth := 2 } := ⟨fun _ => .inr (by decide), fun _ => rfl⟩
  obtain ⟨row', column, hlines⟩ :=
    lines_behind Lexeme.nameRule_ends closers_brackets hinside e.scanned
  obtain ⟨l, ls, hbehind⟩ : ∃ l ls, Text.behind "))".toList (Text.sourceLines e.text) = l :: ls := by
    rcases Text.sourceLines e.text with _ | ⟨m, _ | ⟨n, ms⟩⟩ <;> exact ⟨_, _, rfl⟩
  have hdepth : depthAfter 2 (e.tokens ++ (closerTokens column "))".toList).map (Token.moved row' 0)) = 0 := by
    rw [depthAfter_append, depthAfter_eq_add 2, e.closed, LineScan.depthAfter_moved]
    rfl
  rw [hbehind] at hsource hlines
  rw [appendCall_eq, ← List.append_assoc, hsource, Text.inFront, List.append_assoc,
    lines_of_fronts (fronts_frontText escaped) (by decide) (fun c hc => Outline.isGap_of_mem_indentOf c hc),
    hlines]
  simp only [finish, hdepth]
  refine ⟨_, _, ?_, rfl, row', column, rfl⟩
  simp [Event.slid, Event.moved, LineState.slid, LineState.moved, Function.comp_def]

theorem readAs_output (escaped : Bool) (hfit : Outline.bracketsFit 2 e.tokens = true) (d : Nat) :
    Outline.ReadAs
      (Text.sourceLines (Outline.indentOf d ++ Compile.appendCall (callName escaped) e.text))
      [(d, outputLexemes e escaped)] := by
  refine Outline.readAs_of_tokens fun row => ?_
  obtain ⟨ts, us, hlines, hts, row', column, hus⟩ := lines_output e escaped d row
  refine ⟨ts, hlines, ?_, ?_, ?_⟩
  · simp [hts, frontTokens, appendTokens]
  · have hdepth : depthAfter 0 (frontTokens (callName escaped)) = 2 := rfl
    rw [hts, Outline.bracketsFit_moved, Outline.bracketsFit_append, Outline.bracketsFit_moved,
      bracketsFit_frontTokens, LineScan.depthAfter_moved, hdepth, Outline.bracketsFit_slid,
      Outline.bracketsFit_append, hfit, depthAfter_eq_add 2, e.closed, hus, Outline.bracketsFit_moved]
    rfl
  · have hclosers : Lexeme.ofTokens? us = some [.symbol .parenClose, .symbol .parenClose] := by
      rw [hus, Lexeme.ofTokens?_moved]
      exact Lexeme.ofTokens?_cons (by simp) rfl (Lexeme.ofTokens?_cons (by simp) rfl rfl)
    have hphrase := Lexeme.ofTokens?_append e.spelled hclosers (by simp [hus, closerTokens])
    have hkinds : ∀ t ∈ (frontTokens (callName escaped)).map
        (Token.moved 0 (Outline.indentOf d).length), t.kind ≠ .number := by
      simp [frontTokens, appendTokens]
    have hall := Lexeme.ofTokens?_append_of_kinds hkinds
      ((Lexeme.ofTokens?_moved _ _ _).trans (ofTokens?_frontTokens escaped))
      ((Lexeme.ofTokens?_slid ((Outline.indentOf d).length + (frontText (callName escaped)).length)
        (e.tokens ++ us)).trans hphrase)
    rw [hts, Lexeme.ofTokens?_moved, hall]
    simp [outputLexemes]

def outputStatement (escaped : Bool) (e : Expr) : Stmt :=
  appendStatement (callOf (.name (callName escaped)) e)

theorem piece_outputLexemes (escaped : Bool) : Grammar.piece (outputLexemes e escaped) [] =
    some (.simple [outputStatement escaped e.expr]) := by
  have hname : callName escaped ≠ Grammar.debugName := by cases escaped <;> decide
  have hbuffer : bufferName ≠ Grammar.debugName := by decide
  have hlength : (outputLexemes e escaped).length = e.lexemes.length + 8 := by
    simp [outputLexemes, appendLexemes]
  have hcall := Grammar.expression_call (m := Grammar.fuel e.lexemes + 15) (r := []) e.parsed
    (Nat.le_refl _) rfl hname
  have hadd := Grammar.expression_method (m := Grammar.fuel e.lexemes + 31) (r := [])
    (y := "append".toList) hcall (Nat.le_refl _) rfl hbuffer
  have hall : Grammar.expressions (outputLexemes e escaped) = some
      (callOf (.attribute (variableOf "_buf") "append".toList)
        (callOf (.name (callName escaped)) e.expr), []) := by
    refine Grammar.expressions_of_expression (n := Grammar.fuel e.lexemes + 31) ?_ ?_ rfl
    · simpa [outputLexemes, appendLexemes, nameOf, callOf, variableOf, bufferName] using hadd
    · simp only [Grammar.fuel, hlength]
      omega
  have hsimple : Grammar.simple (outputLexemes e escaped) =
      some (outputStatement escaped e.expr, []) := by
    have h : Grammar.simple (outputLexemes e escaped) =
        Grammar.expressionStatement (outputLexemes e escaped) := rfl
    rw [h, Grammar.expressionStatement, hall]
    rfl
  have hstart : Grammar.startsBlock (outputLexemes e escaped) = false := rfl
  simp [Grammar.piece, hstart, Grammar.simples, hsimple]

/-- A text whose tokens in front of a blank are spelled by themselves and leave no bracket open. -/
structure Introduces (w : Text) (ts : List Token) (ls : List Lexeme) : Prop where
  starts : ∃ c r, w = c :: r ∧ isGap c = false ∧ c ≠ '#' ∧ c ≠ '\r'
  rest_append : ∀ t us l, rest Lexeme.nameRule 0 w.length (' ' :: t) = (us, l) →
    rest Lexeme.nameRule 0 0 (w ++ ' ' :: t) = (ts ++ us, l)
  depth : depthAfter 0 ts = 0
  fits : Outline.bracketsFit 0 ts = true
  spelled : ∀ us ms, Lexeme.ofTokens? us = some ms → Lexeme.ofTokens? (ts ++ us) = some (ls ++ ms)

def headOf (w : Text) : Text := w ++ ' ' :: (e.text ++ ":".toList)

theorem isLine_headOf (e : LinePhrase) {w : Text} (hw : IsLine w) : IsLine (headOf e.toPhrase w) := by
  have hblank : IsLine [' '] := by
    unfold IsLine
    decide
  have hcolon : IsLine [':'] := by
    unfold IsLine
    decide
  have := ((hw.append hblank).append (isLine_phrase e)).append hcolon
  simpa [headOf] using this

theorem isLine_if : IsLine "if".toList := by
  unfold IsLine
  decide

theorem isLine_elif : IsLine "elif".toList := by
  unfold IsLine
  decide

section

variable {w : Text} {ts : List Token} {ls : List Lexeme}

theorem reads_headOf (e : LinePhrase) (h : Introduces w ts ls) :
    Reads (headOf e.toPhrase w) (ts ++ (e.tokens.map (Token.moved 0 (w.length + 1)) ++
      closerTokens (w.length + 1 + e.text.length) ":".toList)) where
  starts := by
    obtain ⟨c, r, rfl, hc⟩ := h.starts
    exact ⟨c, _, rfl, hc⟩
  rest_eq := h.rest_append _ _ _ (e.rest_blank_append _ closers_colon)
  depth := by
    rw [depthAfter_append, h.depth, depthAfter_append, e.depthAfter_moved]
    rfl
  ne_nil := by simp [closerTokens]

theorem readAs_headOf (e : LinePhrase) (h : Introduces w ts ls)
    (hfit : Outline.bracketsFit 0 e.tokens = true) (d : Nat) :
    Outline.ReadAs [Outline.indentOf d ++ headOf e.toPhrase w] [(d, ls ++ (e.lexemes ++ [.symbol .colon]))] := by
  refine Outline.readAs_line (reads_headOf e h) ?_ ?_ d
  · rw [Outline.bracketsFit_append, Outline.bracketsFit_append, h.fits, h.depth,
      Outline.bracketsFit_moved, hfit, e.depthAfter_moved]
    rfl
  · exact h.spelled _ _ (e.ofTokens?_append _ (Lexeme.ofTokens?_cons (by simp) rfl rfl)
      (by simp [closerTokens]))

end

theorem introduces_if : Introduces "if".toList [⟨.name, "if".toList, 0, 0⟩] [.word .if_] where
  starts := ⟨'i', _, rfl, by decide, by decide, by decide⟩
  rest_append _ _ _ h :=
    rest_cons Lexeme.nameRule (g := []) (x := "if".toList) (k := .name) (by simp) rfl rfl h
  depth := rfl
  fits := rfl
  spelled _ _ h := Lexeme.ofTokens?_cons (by simp) rfl h

theorem introduces_elif : Introduces "elif".toList [⟨.name, "elif".toList, 0, 0⟩] [.word .elif] where
  starts := ⟨'e', _, rfl, by decide, by decide, by decide⟩
  rest_append _ _ _ h :=
    rest_cons Lexeme.nameRule (g := []) (x := "elif".toList) (k := .name) (by simp) rfl rfl h
  depth := rfl
  fits := rfl
  spelled _ _ h := Lexeme.ofTokens?_cons (by simp) rfl h

def loopText (x : Text) : Text := "for ".toList ++ x ++ " in".toList

theorem isLine_loopText {x : Text} (hx : isVariableName x = true) : IsLine (loopText x) := by
  have hfor : IsLine "for ".toList ∧ IsLine " in".toList := by
    unfold IsLine
    decide
  exact (hfor.1.append (isLine_of_isVariableName hx)).append hfor.2

def loopTokens (x : Text) : List Token :=
  [⟨.name, "for".toList, 0, 0⟩, ⟨.name, x, 0, 4⟩, ⟨.name, "in".toList, 0, 4 + x.length + 1⟩]

theorem introduces_for {x : Text} (hx : isVariableName x = true) : Introduces (loopText x)
    (loopTokens x) [.word .for_, .name (Text.normalName x), .word .in_] where
  starts := ⟨'f', _, rfl, by decide, by decide, by decide⟩
  rest_append t us l h := by
    obtain ⟨c, r, rfl, hs, hw⟩ := of_isVariableName hx
    have hlength : (loopText (c :: r)).length = 4 + (c :: r).length + 1 + 2 := by
      simp [loopText]
      omega
    rw [hlength] at h
    have hin : rest Lexeme.nameRule 0 (4 + (c :: r).length) (" in".toList ++ ' ' :: t) =
        (⟨.name, "in".toList, 0, 4 + (c :: r).length + 1⟩ :: us, l) :=
      rest_cons Lexeme.nameRule (g := [' ']) (x := "in".toList) (k := .name) (by simp [isGap]) rfl rfl h
    have hquote : ∀ d ∈ (c :: (r ++ (" in".toList ++ ' ' :: t))).take 3, Token.isQuote d = false := by
      intro d hd
      rw [← List.cons_append, List.take_append, List.mem_append] at hd
      obtain hd | hd := hd
      · exact not_isQuote_of_part (hw d (List.mem_of_mem_take hd))
      · have hd := List.take_subset_take_left (j := 2) _ (by simp) hd
        simp at hd
        obtain rfl | rfl := hd <;> rfl
    have hlead := Lexeme.lead_name 0 4 (r := " in".toList ++ ' ' :: t) hs
      (fun d hd => hw d (by simp [hd])) rfl hquote
    have hname := @rest_cons Lexeme.nameRule 0 3 [' '] _ _ _ _ _ _ (by simp [isGap])
      (Lexeme.startsToken_of_start hs _) hlead hin
    have := @rest_cons Lexeme.nameRule 0 0 []
      ("for".toList ++ ' ' :: (c :: (r ++ (" in".toList ++ ' ' :: t)))) "for".toList _ .name _ _
      (by simp) rfl rfl hname
    simpa [loopText, loopTokens] using this
  depth := rfl
  fits := rfl
  spelled us ms h := by
    refine Lexeme.ofTokens?_cons (by simp) rfl (Lexeme.ofTokens?_cons (by simp) ?_
      (Lexeme.ofTokens?_cons (by simp) rfl h))
    exact ofName?_of_isVariableName hx

section

variable (s : Stmt) (ss : List Stmt)

theorem expression_colon {n : Nat} (hn : Grammar.fuel e.lexemes ≤ n) :
    Grammar.expression n (e.lexemes ++ [.symbol .colon]) = some (e.expr, [.symbol .colon]) :=
  e.expression_append hn rfl

theorem fuel_append (ts us : List Lexeme) : Grammar.fuel ts ≤ Grammar.fuel (ts ++ us) := by
  simp only [Grammar.fuel, List.length_append]
  omega

theorem piece_if : Grammar.piece (.word .if_ :: (e.lexemes ++ [.symbol .colon])) (s :: ss) =
    some (.block (.if_ e.expr) (s :: ss)) := by
  have hstart : Grammar.startsBlock (.word .if_ :: (e.lexemes ++ [.symbol .colon])) = true := rfl
  simp [Grammar.piece, hstart, Grammar.head?, expression_colon e (fuel_append _ _)]

theorem piece_elif : Grammar.piece (.word .elif :: (e.lexemes ++ [.symbol .colon])) (s :: ss) =
    some (.block (.elif e.expr) (s :: ss)) := by
  have hstart : Grammar.startsBlock (.word .elif :: (e.lexemes ++ [.symbol .colon])) = true := rfl
  simp [Grammar.piece, hstart, Grammar.head?, expression_colon e (fuel_append _ _)]

theorem piece_for {x : Text} (hx : x ≠ Grammar.debugName) :
    Grammar.piece (.word .for_ :: .name x :: .word .in_ :: (e.lexemes ++ [.symbol .colon])) (s :: ss) =
      some (.block (.for_ (.name x) e.expr) (s :: ss)) := by
  have hatom : ∀ n us, Grammar.atom (n + 1) (.name x :: .word .in_ :: us) =
      some (.name x, .word .in_ :: us) := by
    intro n us
    simp [Grammar.atom, Grammar.leaf?, hx]
  have hprimary : ∀ n us, Grammar.primary (n + 2) (.name x :: .word .in_ :: us) =
      some (.name x, .word .in_ :: us) := by
    intro n us
    rw [Grammar.primary, hatom]
    rfl
  have htarget : ∀ n us, Grammar.targets (n + 11) (.name x :: .word .in_ :: us) =
      some (.name x, .word .in_ :: us) := by
    intro n us
    have hbinary := Grammar.binary_of_primary (r := .word .in_ :: us) rfl (hprimary n us)
      Grammar.topLevel
    have h : Grammar.target (n + 10) (.name x :: .word .in_ :: us) =
        some (.name x, .word .in_ :: us) := hbinary
    simp [Grammar.targets, h, Grammar.symbol?, Grammar.isTarget, guard]
  have hfuel : ∀ us, ∃ n, Grammar.fuel (.name x :: .word .in_ :: us) = n + 11 := by
    intro us
    refine ⟨Grammar.fuel (.name x :: .word .in_ :: us) - 11, ?_⟩
    simp only [Grammar.fuel, List.length_cons]
    omega
  obtain ⟨n, hn⟩ := hfuel (e.lexemes ++ [.symbol .colon])
  have hitems : Grammar.expressions (e.lexemes ++ [.symbol .colon]) =
      some (e.expr, [.symbol .colon]) := by
    refine Grammar.expressions_of_expression (expression_colon e (Nat.le_refl _)) ?_ rfl
    simp only [Grammar.fuel, List.length_append, List.length_singleton]
    omega
  have hstart : Grammar.startsBlock
      (.word .for_ :: .name x :: .word .in_ :: (e.lexemes ++ [.symbol .colon])) = true := rfl
  simp [Grammar.piece, hstart, Grammar.head?, hn, htarget, Grammar.word?, hitems]

end

def elseText : Text := "else:".toList

def elseLexemes : List Lexeme := [.word .else_, .symbol .colon]

def passLexemes : List Lexeme := [.word .pass]

theorem isLine_else : IsLine elseText := by
  unfold IsLine
  decide

theorem isLine_pass : IsLine Body.pass := by
  unfold IsLine
  decide

theorem readAs_else (d : Nat) : Outline.ReadAs [Outline.indentOf d ++ elseText] [(d, elseLexemes)] := by
  have hcolon : rest Lexeme.nameRule 0 4 ":".toList = (closerTokens 4 ":".toList, .plain) :=
    rest_closers _ _ closers_colon
  have hrest : rest Lexeme.nameRule 0 0 elseText =
      (⟨.name, "else".toList, 0, 0⟩ :: closerTokens 4 ":".toList, .plain) :=
    rest_cons Lexeme.nameRule (g := []) (x := "else".toList) (k := .name) (by simp) rfl rfl hcolon
  exact Outline.readAs_line ⟨⟨'e', _, rfl, by decide, by decide, by decide⟩, hrest, rfl, by simp⟩ rfl
    (Lexeme.ofTokens?_cons (by simp) rfl (Lexeme.ofTokens?_cons (by simp) rfl rfl)) d

theorem readAs_pass (d : Nat) : Outline.ReadAs [Outline.indentOf d ++ Body.pass] [(d, passLexemes)] := by
  have hrest : rest Lexeme.nameRule 0 0 Body.pass = ([⟨.name, "pass".toList, 0, 0⟩], .plain) :=
    rest_cons Lexeme.nameRule (g := []) (x := "pass".toList) (k := .name) (r := []) (by simp) rfl rfl rfl
  exact Outline.readAs_line ⟨⟨'p', _, rfl, by decide, by decide, by decide⟩, hrest, rfl, by simp⟩ rfl
    (Lexeme.ofTokens?_cons (by simp) rfl rfl) d

theorem piece_else (s : Stmt) (ss : List Stmt) :
    Grammar.piece elseLexemes (s :: ss) = some (.block .else_ (s :: ss)) := rfl

end Generated
end TemplateEngine
