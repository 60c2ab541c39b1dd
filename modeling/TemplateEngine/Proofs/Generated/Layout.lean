import TemplateEngine.Generated
import TemplateEngine.Proofs.Script.Layout
import TemplateEngine.Proofs.Script.Tokens

set_option autoImplicit false

namespace TemplateEngine

open Script

namespace Generated

def nameOf (s : String) : Lexeme := .name s.toList

def textOf (s : String) : Lexeme := .text s.toList

/-- `def render(p=None):`, the normal form of `p` being given. -/
def headLine (param : Text) : List Lexeme :=
  [.word .def_, nameOf "render", .symbol .parenOpen, .name param, .symbol .assign, .word .none_,
    .symbol .parenClose, .symbol .colon]

/-- `_buf = []` -/
def bufferLine : List Lexeme :=
  [nameOf "_buf", .symbol .assign, .symbol .bracketOpen, .symbol .bracketClose]

/-- `return ''.join(_buf)` -/
def returnLine : List Lexeme :=
  [.word .return_, textOf "", .symbol .dot, nameOf "join", .symbol .parenOpen, nameOf "_buf",
    .symbol .parenClose]

def escapeOutline : Outline :=
  .mk [.word .def_, nameOf "_escape", .symbol .parenOpen, nameOf "value", .symbol .parenClose,
      .symbol .colon]
    [.mk [.word .if_, nameOf "value", .word .is, .word .none_, .symbol .colon]
        [.mk [.word .return_, textOf ""] []],
      .mk [.word .if_, .word .not, nameOf "isinstance", .symbol .parenOpen, nameOf "value",
          .symbol .comma, nameOf "str", .symbol .parenClose, .symbol .colon]
        [.mk [.word .return_, nameOf "_escape", .symbol .parenOpen, nameOf "str",
          .symbol .parenOpen, nameOf "value", .symbol .parenClose, .symbol .parenClose] []],
      .mk [.word .if_, .word .not, nameOf "_SPECIAL_CHARS", .symbol .dot, nameOf "intersection",
          .symbol .parenOpen, nameOf "value", .symbol .parenClose, .symbol .colon]
        [.mk [.word .return_, nameOf "value"] []],
      .mk [.word .return_, nameOf "value", .symbol .dot, nameOf "translate", .symbol .parenOpen,
        nameOf "_HTML_ENTITIES", .symbol .parenClose] []]

def tableOutlines : List Outline :=
  [.mk [nameOf "_SPECIAL_CHARS", .symbol .assign, nameOf "frozenset", .symbol .parenOpen,
      textOf "&\"<>", .symbol .parenClose] [],
    .mk [nameOf "_HTML_ENTITIES", .symbol .assign, nameOf "str", .symbol .dot, nameOf "maketrans",
      .symbol .parenOpen, .symbol .braceOpen, textOf "&", .symbol .colon, textOf "&amp;",
      .symbol .comma, textOf "\"", .symbol .colon, textOf "&quot;", .symbol .comma, textOf "<",
      .symbol .colon, textOf "&lt;", .symbol .comma, textOf ">", .symbol .colon, textOf "&gt;",
      .symbol .comma, .symbol .braceClose, .symbol .parenClose] []]

def outlines (param : Text) (body : List Outline) : List Outline :=
  .mk (headLine param) (.mk bufferLine [] :: (body ++ [.mk returnLine []])) ::
    escapeOutline :: tableOutlines

theorem readAs_closingLines : Outline.ReadAs closingLines
    ((1, returnLine) :: Outline.allRows 0 (escapeOutline :: tableOutlines)) :=
  Outline.readAs_of_yields (by decide +kernel)

theorem readAs_bufferLine : Outline.ReadAs ["    _buf = []".toList] [(1, bufferLine)] :=
  Outline.readAs_of_yields (by decide +kernel)

theorem nameRule_of_isIdentifierPart {c : Char} (h : Text.isIdentifierPart c = true) :
    Lexeme.nameRule.part c = true := by
  unfold Text.isIdentifierPart at h
  split at h
  · simp only [Lexeme.nameRule, Bool.or_eq_true, decide_eq_true_eq, beq_iff_eq] at h ⊢
    exact .inl h
  · simp only [Lexeme.nameRule, Bool.or_eq_true, decide_eq_true_eq]
    exact .inr (by omega)

theorem nameRule_of_isIdentifierStart {c : Char} (h : Text.isIdentifierStart c = true) :
    Lexeme.nameRule.start c = true := by
  unfold Text.isIdentifierStart at h
  split at h
  · simp only [Lexeme.nameRule, Bool.or_eq_true, decide_eq_true_eq, beq_iff_eq] at h ⊢
    exact .inl h
  · simp only [Lexeme.nameRule, Bool.or_eq_true, decide_eq_true_eq]
    exact .inr (by omega)

theorem of_isVariableName {p : Text} (h : isVariableName p = true) :
    ∃ c w, p = c :: w ∧ Lexeme.nameRule.start c = true ∧
      ∀ d ∈ p, Lexeme.nameRule.part d = true := by
  simp only [isVariableName, Bool.and_eq_true] at h
  cases p with
  | nil => simp [Text.isIdentifier] at h
  | cons c w =>
    simp only [Text.isIdentifier, Bool.and_eq_true, List.all_eq_true] at h
    have hs := nameRule_of_isIdentifierStart h.1.1
    refine ⟨c, w, rfl, hs, fun d hd => ?_⟩
    obtain rfl | hd := List.mem_cons.1 hd
    · exact (Lexeme.start_of_nameRule hs).1
    · exact nameRule_of_isIdentifierPart (h.1.2 d hd)

theorem ofName?_of_isVariableName {p : Text} (h : isVariableName p = true) :
    Lexeme.ofName? p = some (.name (Text.normalName p)) := by
  simp only [isVariableName, Bool.and_eq_true, Bool.not_eq_true'] at h
  simp [Lexeme.ofName?, h.1, h.2]

theorem not_part {c : Char} (h : c ∈ ['\'', '"', '\n', '\r', '\x00']) :
    Lexeme.nameRule.part c = false := by
  have hall : ['\'', '"', '\n', '\r', '\x00'].all (fun c => !Lexeme.nameRule.part c) = true := by
    decide
  simpa using List.all_eq_true.1 hall c h

theorem not_isQuote_of_part {c : Char} (h : Lexeme.nameRule.part c = true) :
    Token.isQuote c = false := by
  rw [Bool.eq_false_iff]
  intro hquote
  simp only [Token.isQuote, Bool.or_eq_true, decide_eq_true_eq] at hquote
  have hmem : c ∈ ['\'', '"', '\n', '\r', '\x00'] := by
    obtain rfl | rfl := hquote <;> simp
  rw [not_part hmem] at h
  contradiction

def defaultTokens : List Token :=
  [⟨.operator, "=".toList, 0, 0⟩, ⟨.name, "None".toList, 0, 1⟩, ⟨.operator, ")".toList, 0, 5⟩,
    ⟨.operator, ":".toList, 0, 6⟩]

theorem rest_default : LineScan.rest Lexeme.nameRule 0 0 "=None):".toList = (defaultTokens, .plain) := by
  have h4 : LineScan.rest Lexeme.nameRule 0 6 ":".toList = (defaultTokens.drop 3, .plain) :=
    LineScan.rest_cons _ (g := []) (by simp) rfl rfl rfl
  have h3 : LineScan.rest Lexeme.nameRule 0 5 "):".toList = (defaultTokens.drop 2, .plain) :=
    LineScan.rest_cons _ (g := []) (by simp) rfl rfl h4
  have h2 : LineScan.rest Lexeme.nameRule 0 1 "None):".toList = (defaultTokens.drop 1, .plain) :=
    LineScan.rest_cons _ (g := []) (by simp) rfl rfl h3
  exact LineScan.rest_cons _ (g := []) (by simp) rfl rfl h2

def headTokens (p : Text) : List Token :=
  ⟨.name, "def".toList, 0, 0⟩ :: ⟨.name, "render".toList, 0, 4⟩ :: ⟨.operator, "(".toList, 0, 10⟩ ::
    ⟨.name, p, 0, 11⟩ :: defaultTokens.map (Token.moved 0 (11 + p.length))

theorem reads_headLine {p : Text} (h : isVariableName p = true) :
    LineScan.Reads ("def render(".toList ++ p ++ "=None):".toList) (headTokens p) where
  starts := ⟨'d', _, rfl, by decide, by decide, by decide⟩
  rest_eq := by
    obtain ⟨c, w, hp, hs, hw⟩ := of_isVariableName h
    have hq : ∀ d ∈ (c :: (w ++ "=None):".toList)).take 3, Token.isQuote d = false := by
      intro d hd
      have hd := List.mem_of_mem_take hd
      rw [← List.cons_append, ← hp, List.mem_append] at hd
      obtain hd | hd := hd
      · exact not_isQuote_of_part (hw d hd)
      · have hall : "=None):".toList.all (fun d => !Token.isQuote d) = true := by decide
        simpa using List.all_eq_true.1 hall d hd
    have hlead := Lexeme.lead_name 0 11 (r := "=None):".toList) hs
      (fun d hd => hw d (by simp [hp, hd])) (by decide) hq
    have hstart := Lexeme.startsToken_of_start hs (w ++ "=None):".toList)
    rw [← List.cons_append, ← hp] at hlead hstart
    have h5 := LineScan.rest_eq_moved Lexeme.nameRule 0 (11 + p.length) "=None):".toList
    rw [rest_default] at h5
    have h4 := LineScan.rest_cons Lexeme.nameRule (g := []) (by simp) hstart hlead h5
    have h3 := LineScan.rest_cons Lexeme.nameRule (g := []) (t := "(".toList ++ p ++ "=None):".toList)
      (by simp) rfl
      (LineScan.lead_operator Lexeme.nameRule 0 10 rfl (by decide) rfl (by decide) rfl) h4
    have h2 := LineScan.rest_cons Lexeme.nameRule (g := [' '])
      (t := "render(".toList ++ p ++ "=None):".toList) (x := "render".toList) (k := .name)
      (by simp [LineScan.isGap]) rfl rfl h3
    exact LineScan.rest_cons Lexeme.nameRule (g := []) (x := "def".toList) (k := .name)
      (r := " render(".toList ++ p ++ "=None):".toList) (by simp) rfl rfl h2
  depth := by simp [headTokens, defaultTokens, LineScan.depthAfter, Token.bracketChange]
  ne_nil := by simp [headTokens]

theorem readAs_headLine {p : Text} (h : isVariableName p = true) :
    Outline.ReadAs ["def render(".toList ++ p ++ "=None):".toList]
      [(0, headLine (Text.normalName p))] := by
  have hp := ofName?_of_isVariableName h
  refine Outline.readAs_line (reads_headLine h) ?_ ?_ 0
  · simp [headTokens, defaultTokens, Outline.bracketsFit, LineScan.depthAfter, Token.bracketChange,
      Outline.maxBrackets]
  · have hdefault : Lexeme.ofTokens? (defaultTokens.map (Token.moved 0 (11 + p.length))) =
        some [.symbol .assign, .word .none_, .symbol .parenClose, .symbol .colon] := by
      rw [Lexeme.ofTokens?_moved]
      decide +kernel
    refine Lexeme.ofTokens?_cons (by simp) (by decide +kernel) ?_
    refine Lexeme.ofTokens?_cons (by simp) (by decide +kernel) ?_
    refine Lexeme.ofTokens?_cons (by simp) (by decide +kernel) ?_
    exact Lexeme.ofTokens?_cons (by simp) hp hdefault

theorem readAs_headerLine (origin : Text) : Outline.ReadAs [headerLine origin] [] :=
  Outline.readAs_comment (.inr rfl)

theorem readAs_frontLines {p : Text} (hp : isVariableName p = true) (origin : Text) :
    Outline.ReadAs (headerLine origin :: openingLines p)
      [(0, headLine (Text.normalName p)), (1, bufferLine)] := by
  have hblank : Outline.ReadAs [[]] [] := Outline.readAs_comment (.inl rfl)
  exact (((readAs_headerLine origin).append hblank).append hblank).append
    ((readAs_headLine hp).append readAs_bufferLine)

theorem readAs_moduleLines {p origin : Text} {body : List Text} {os : List Outline}
    (hp : isVariableName p = true) (hb : Outline.ReadAs body (Outline.allRows 1 os)) :
    Outline.ReadAs (moduleLines p body origin)
      (Outline.allRows 0 (outlines (Text.normalName p) os)) := by
  have h := (readAs_frontLines hp origin).append (hb.append readAs_closingLines)
  simpa [moduleLines, openingLines, outlines, Outline.allRows, Outline.rows,
    Outline.allRows_append] using h

theorem of_mem_headerLine {origin : Text} {c : Char} (h : c ∈ headerLine origin) :
    c ∈ "# Generated by scriptpage from ".toList ∨ c = ' ' ∨ c ∈ ". Do not edit.".toList ∨
      Text.isLineBreak c = false ∧ c ∈ origin := by
  obtain h | h := List.mem_append.1 h
  · obtain h | h := List.mem_append.1 h
    · exact .inl h
    · obtain h | ⟨l, hl, hc⟩ := Text.mem_join h
      · exact .inr (.inl (List.mem_singleton.1 h))
      · exact .inr (.inr (.inr (Text.of_mem_lines hl c hc)))
  · exact .inr (.inr (.inl h))

theorem not_mem_headerLine (origin : Text) :
    '\n' ∉ headerLine origin ∧ '\r' ∉ headerLine origin ∧
      ('\x00' ∈ headerLine origin → '\x00' ∈ origin) := by
  have hn : '\n' ∉ "# Generated by scriptpage from ".toList ∧ '\n' ∉ ". Do not edit.".toList := by
    decide +kernel
  have hr : '\r' ∉ "# Generated by scriptpage from ".toList ∧ '\r' ∉ ". Do not edit.".toList := by
    decide +kernel
  have h0 : '\x00' ∉ "# Generated by scriptpage from ".toList ∧
      '\x00' ∉ ". Do not edit.".toList := by
    decide +kernel
  refine ⟨fun h => ?_, fun h => ?_, fun h => ?_⟩
  · obtain h | h | h | h := of_mem_headerLine h
    · exact hn.1 h
    · exact absurd h (by decide)
    · exact hn.2 h
    · exact absurd h.1 (by decide)
  · obtain h | h | h | h := of_mem_headerLine h
    · exact hr.1 h
    · exact absurd h (by decide)
    · exact hr.2 h
    · exact absurd h.1 (by decide)
  · obtain h | h | h | h := of_mem_headerLine h
    · exact absurd h h0.1
    · exact absurd h (by decide)
    · exact absurd h h0.2
    · exact h.2

def IsLine (l : Text) : Prop := '\n' ∉ l ∧ '\r' ∉ l ∧ '\x00' ∉ l

theorem IsLine.append {a b : Text} (ha : IsLine a) (hb : IsLine b) : IsLine (a ++ b) := by
  obtain ⟨hn, hr, h0⟩ := ha
  obtain ⟨gn, gr, g0⟩ := hb
  exact ⟨by simp [hn, gn], by simp [hr, gr], by simp [h0, g0]⟩

theorem isLine_of_isVariableName {p : Text} (hp : isVariableName p = true) : IsLine p := by
  obtain ⟨-, -, -, -, hw⟩ := of_isVariableName hp
  have hno : ∀ c ∈ ['\'', '"', '\n', '\r', '\x00'], c ∉ p := fun c hc hmem => by
    have := hw c hmem
    rw [not_part hc] at this
    contradiction
  exact ⟨hno _ (by simp), hno _ (by simp), hno _ (by simp)⟩

theorem isLine_headLine {p : Text} (hp : isVariableName p = true) :
    IsLine ("def render(".toList ++ p ++ "=None):".toList) := by
  have hfront : IsLine "def render(".toList := by
    unfold IsLine
    decide +kernel
  have hback : IsLine "=None):".toList := by
    unfold IsLine
    decide +kernel
  exact (hfront.append (isLine_of_isVariableName hp)).append hback

theorem isLine_closingLines : ∀ l ∈ closingLines, IsLine l := by
  unfold IsLine
  decide +kernel

theorem isLine_moduleLines {p origin : Text} {body : List Text} (hp : isVariableName p = true)
    (hb : ∀ l ∈ body, IsLine l) (ho : '\x00' ∉ origin) :
    ∀ l ∈ moduleLines p body origin, IsLine l := by
  have hheader := not_mem_headerLine origin
  have hbuffer : IsLine "    _buf = []".toList := by
    unfold IsLine
    decide +kernel
  intro l hl
  simp only [moduleLines, openingLines, List.cons_append, List.nil_append, List.mem_cons,
    List.mem_append] at hl
  obtain rfl | rfl | rfl | rfl | rfl | hl | hl := hl
  · exact ⟨hheader.1, hheader.2.1, fun h => ho (hheader.2.2 h)⟩
  · simp [IsLine]
  · simp [IsLine]
  · exact isLine_headLine hp
  · exact hbuffer
  · exact hb l hl
  · exact isLine_closingLines l hl

theorem module_eq_unlines (p origin : Text) (body : List Text) :
    module p body origin = Outline.unlines (moduleLines p body origin) := rfl

theorem allHeight_outlines (n : Text) (os : List Outline) :
    Outline.allHeight (outlines n os) = max (Outline.allHeight os + 1) 3 := by
  have hfixed : Outline.allHeight (escapeOutline :: tableOutlines) = 3 := by decide
  have hline (l : List Lexeme) : Outline.allHeight [.mk l []] = 1 := rfl
  rw [outlines, Outline.allHeight, hfixed, Outline.height, Outline.allHeight,
    Outline.allHeight_append, hline]
  simp only [Outline.height, Outline.allHeight]
  omega

/-- The text of a module is read as its outline. -/
theorem ofText?_module {p origin : Text} {body : List Text} {os : List Outline}
    (hp : isVariableName p = true) (hb : Outline.ReadAs body (Outline.allRows 1 os))
    (hl : ∀ l ∈ body, IsLine l) (ho : '\x00' ∉ origin)
    (hd : Outline.allHeight os < Outline.maxColumns) :
    Outline.ofText? (module p body origin) = some (outlines (Text.normalName p) os) := by
  have hlines := isLine_moduleLines hp hl ho
  rw [module_eq_unlines]
  refine Outline.ofText?_unlines (readAs_moduleLines hp hb)
    (fun l h => ⟨(hlines l h).1, (hlines l h).2.1⟩) ?_
  rw [allHeight_outlines]
  unfold Outline.maxColumns at hd ⊢
  omega

theorem not_mem_module {p origin : Text} {body : List Text} (hp : isVariableName p = true)
    (hl : ∀ l ∈ body, IsLine l) (ho : '\x00' ∉ origin) : '\x00' ∉ module p body origin := by
  have hlines := isLine_moduleLines hp hl ho
  intro h
  obtain ⟨l, hmem, hc⟩ := List.mem_flatMap.1 h
  obtain hc | hc := List.mem_append.1 hc
  · exact (hlines l hmem).2.2 hc
  · exact absurd hc (by decide)

end Generated
end TemplateEngine
