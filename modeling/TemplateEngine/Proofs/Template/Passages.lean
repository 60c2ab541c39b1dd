import TemplateEngine.Proofs.Script.Columns
import TemplateEngine.Proofs.Template.Compiling

set_option autoImplicit false

/-!
# Compiling templates behind a passage

A passage is the text of statements that are a program by themselves. A directive may hold one below its
marker. Compiled, each of its lines stands one step further in, without the white space at its end, and is
read as the statement that it is by itself as long as no string goes over the end of a line.
-/
namespace TemplateEngine

namespace Script

open Outline (Movable furtherIn)

/-- The text of statements that stand at the first column and belong to no function. -/
structure Passage where
  text : Text
  outlines : List Outline
  statements : List Stmt
  read : Outline.ofText? text = some outlines
  parsed : Grammar.statements outlines = some statements
  placed : Grammar.allFit {} statements = true
  no_null : '\x00' ∉ text

namespace Passage

def value (p : Passage) : List Stmt := Stmt.foldAll p.statements

theorem ofText (p : Passage) (hrules : (Grammar.nestingOfBlock p.statements).rules ≤ Grammar.Nesting.maxRules)
    (hparts : (Grammar.nestingOfBlock p.statements).parts ≤ Grammar.Nesting.maxParts) :
    Program.ofText p.text = .ok p.value := by
  have hfault : Program.fault? p.statements = none := by
    rw [Program.fault?, if_neg (Nat.not_lt.2 hrules), if_neg (Nat.not_lt.2 hparts), if_pos p.placed]
  simp [Program.ofText, p.no_null, p.read, p.parsed, hfault, value]

/-- The pieces that the statements are put together from. -/
theorem pieces (p : Passage) : ∃ ps, Grammar.ofOutlines p.outlines = some ps ∧
    Grammar.assemble ps = some (.none, p.statements) := by
  obtain ⟨ps, hps, hblock⟩ := Option.bind_eq_some_iff.1 p.parsed
  obtain ⟨⟨k, ss⟩, hassemble, hk⟩ := Option.bind_eq_some_iff.1 hblock
  cases k with
  | none => exact ⟨ps, hps, Option.some.inj hk ▸ hassemble⟩
  | otherwise | chain | ending => contradiction

end Passage

end Script

namespace Generated

open Script Script.Outline

variable {p origin t : Text} {rest : List Text} {os more : List Outline}

def rowsBehind (os : List Outline) : List Row :=
  allRows 1 (os ++ [.mk returnLine []]) ++ allRows 0 (escapeOutline :: tableOutlines)

theorem rowsBehind_eq_cons (os : List Outline) : ∃ l rows, rowsBehind os = (1, l) :: rows := by
  cases os with
  | nil =>
    simp only [rowsBehind, List.nil_append, allRows, rows, List.cons_append]
    exact ⟨_, _, rfl⟩
  | cons o os =>
    cases o
    simp only [rowsBehind, allRows, rows, List.cons_append]
    exact ⟨_, _, rfl⟩

theorem allRows_outlines (n : Text) (os more : List Outline) :
    allRows 0 (outlines n (os ++ more)) =
      [(0, headLine n), (1, bufferLine)] ++ (allRows 1 os ++ rowsBehind more) := by
  simp [outlines, rowsBehind, allRows, rows, allRows_append]

theorem depths?_rowsBehind (hd : allHeight os < maxColumns) :
    depths? (columnsAt 1) ((rowsBehind os).map Row.column) = some ((rowsBehind os).map Prod.fst) := by
  have hfixed : allHeight (escapeOutline :: tableOutlines) = 3 := by decide
  have hline : allHeight [.mk returnLine []] = 1 := rfl
  have hmax : maxColumns = 100 := rfl
  have hbelow : ∀ j, 1 ≤ j + 1 → depths? (columnsAt j)
      ((allRows 0 (escapeOutline :: tableOutlines)).map Row.column) =
        some ((allRows 0 (escapeOutline :: tableOutlines)).map Prod.fst) := by
    intro j _
    have h := depths?_allRows (c := []) (r := []) 0 j (escapeOutline :: tableOutlines) (Nat.zero_le _)
      (by omega) fun _ _ => rfl
    rwa [List.append_nil, List.append_nil] at h
  rw [rowsBehind, List.map_append, List.map_append]
  refine depths?_allRows 1 1 _ (Nat.le_succ 1) ?_ hbelow
  rw [allHeight_append, hline]
  omega

theorem depths?_module {items : List Outline.Item} (hitems : FurtherIn os items) (hd : allHeight more < maxColumns)
    (n : Text) :
    depths? [(0, 0)] (([(0, headLine n), (1, bufferLine)].map Row.item ++
        (items ++ (rowsBehind more).map Row.item)).map fun i => columnOf i.1) =
      some (0 :: 1 :: ((allRows 1 os).map Prod.fst ++ (rowsBehind more).map Prod.fst)) := by
  have hcolumn : (fun i : Outline.Item => columnOf i.1) ∘ Row.item = Row.column :=
    funext fun o => columnOf_indentOf o.1
  obtain ⟨l, rows, hrows⟩ := rowsBehind_eq_cons more
  have hbehind := depths?_rowsBehind hd
  have hfirst : (rowsBehind more).map Row.column = (4, 4) :: rows.map Row.column := by
    rw [hrows]
    rfl
  rw [hfirst] at hbehind
  have hbody := hitems.depths _ _ hbehind
  rw [List.map_append, List.map_append, List.map_map, List.map_map, hcolumn, hfirst]
  exact depths?_cons (d := 0) (k := 0) (Nat.zero_le _) (by decide)
    (depths?_cons (d := 1) (Nat.le_refl 1) (by decide) hbody)

/-- A program is read as the same program at the start of the function that renders. -/
theorem ofText?_module_furtherIn (hp : isVariableName p = true) (h : ofText? t = some os)
    (hmovable : Movable t) (hrest : ReadAs rest (allRows 1 more)) (hl : ∀ l ∈ furtherIn t ++ rest, IsLine l)
    (ho : '\x00' ∉ origin) (hheight : allHeight os < maxColumns) (hmore : allHeight more < maxColumns) :
    ofText? (module p (furtherIn t ++ rest) origin) = some (outlines (Text.normalName p) (os ++ more)) := by
  obtain ⟨items, hscans, hitems⟩ := scans_furtherIn h hmovable hheight
  have hlines := isLine_moduleLines hp hl ho
  have hbehind : ReadAs (rest ++ closingLines) (rowsBehind more) := by
    have := hrest.append readAs_closingLines
    simpa [rowsBehind, allRows_append, allRows, rows] using this
  have hall := Scans.append (readAs_frontLines hp origin) (hscans.append hbehind)
  rw [← List.map_append, ← List.map_append] at hall
  have hmodule : moduleLines p (furtherIn t ++ rest) origin =
      headerLine origin :: openingLines p ++ (furtherIn t ++ (rest ++ closingLines)) := by
    simp [moduleLines]
  rw [module_eq_unlines]
  rw [hmodule] at hlines ⊢
  refine ofText?_of_scans hall (fun l hl => ⟨(hlines l hl).1, (hlines l hl).2.1⟩)
    (depths?_module hitems hmore _) ?_
  have hzip : (0 :: 1 :: ((allRows 1 os).map Prod.fst ++ (rowsBehind more).map Prod.fst)).zip
      (([(0, headLine (Text.normalName p)), (1, bufferLine)].map Row.item ++
        (items ++ (rowsBehind more).map Row.item)).map Prod.snd) =
      allRows 0 (outlines (Text.normalName p) (os ++ more)) := by
    have hsnd : ((rowsBehind more).map Row.item).map Prod.snd = (rowsBehind more).map Prod.snd := by
      rw [List.map_map]
      rfl
    rw [List.map_append, List.map_append, hsnd, hitems.lexemes, allRows_outlines, ← List.map_append,
      ← List.map_append]
    simp only [List.map_cons, List.map_nil, List.cons_append, List.nil_append, Row.item, List.zip_cons_cons,
      List.zip_map', List.map_id']
  rw [hzip, ofLines?_allRows]

theorem isLine_of_mem_furtherIn (ht : '\x00' ∉ t) : ∀ l ∈ furtherIn t, IsLine l := by
  intro l hl
  obtain ⟨m, hm, rfl⟩ := List.mem_map.1 hl
  obtain ⟨before, after, hsplit, -, -⟩ := Scriptlet.trimBlankLines_split (Text.sourceLines t)
  have hline : IsLine m := isLine_of_mem_sourceLines ht (by
    rw [hsplit]
    exact List.mem_append_left _ (List.mem_append_right _ hm))
  have htrimmed : IsLine (Text.trimEnd m) := by
    have hsub := (Text.trimEnd_prefix_self m).subset
    exact ⟨fun h => hline.1 (hsub h), fun h => hline.2.1 (hsub h), fun h => hline.2.2 (hsub h)⟩
  unfold Scriptlet.indentLine
  split
  · exact htrimmed
  · have hstep : IsLine Scriptlet.indentStep := by
      unfold IsLine
      decide
    exact hstep.append htrimmed

theorem ofText_module_behind {s : Passage} {body : List Text} {ps : List Grammar.Piece} {ss : List Stmt}
    (hp : isVariableName p = true) (hn : Text.normalName p ≠ Grammar.debugName) (hmovable : Movable s.text)
    (hheight : allHeight s.outlines < maxColumns)
    (hb : ReadAs (body.flatMap Text.sourceLines) (allRows 1 os)) (hl : ∀ t ∈ body, IsBodyText t)
    (ho : '\x00' ∉ origin) (hd : allHeight os < maxColumns) (hps : Grammar.ofOutlines os = some ps)
    (hss : Grammar.assemble ps = some (.none, ss)) (hfits : Fits (s.statements ++ ss)) :
    Program.ofText (module p (furtherIn s.text ++ body) origin) =
      .ok (program (Text.normalName p) (s.value ++ Stmt.foldAll ss)) := by
  have hfurther := isLine_of_mem_furtherIn s.no_null
  have hlines : ∀ l ∈ furtherIn s.text ++ body.flatMap Text.sourceLines, IsLine l := by
    refine List.forall_mem_append.2 ⟨hfurther, fun l hmem => ?_⟩
    obtain ⟨t, ht, hl'⟩ := List.mem_flatMap.1 hmem
    exact isLine_of_mem_sourceLines (hl t ht).1 hl'
  have hends : ∀ t ∈ furtherIn s.text ++ body, t.getLast? ≠ some '\r' :=
    List.forall_mem_append.2 ⟨fun l hl => (hfurther l hl).isBodyText.2, fun t ht => (hl t ht).2⟩
  have hsame : (furtherIn s.text).flatMap Text.sourceLines = furtherIn s.text :=
    Text.flatMap_sourceLines fun l hl => ⟨(hfurther l hl).1, (hfurther l hl).2.1⟩
  obtain ⟨qs, hqs, hstatements⟩ := s.pieces
  have hread := ofText?_module_furtherIn hp s.read hmovable hb hlines ho hheight hd
  rw [← ofText_unifyLineEnds, unifyLineEnds_module hp hends ho, List.flatMap_append, hsame,
    ofText_module_of_outlines hn (not_mem_module hp hlines ho) hread (Grammar.ofOutlines_append hqs hps)
      (Grammar.assemble_append hstatements hss), fault?_program _ hfits, foldAll_append]
  rfl

end Generated

open Script

namespace Text

theorem lines_concat_feed {t : Text} (h : ∀ c ∈ t, isLineBreak c = true → c = '\n') :
    lines (t ++ ['\n']) = physicalLines t := by
  induction t with
  | nil => rfl
  | cons c t ih =>
    obtain ⟨hc, ht⟩ := List.forall_mem_cons.1 h
    have hcr : ∀ u, c = '\r' → t ++ ['\n'] = '\n' :: u → False := by
      rintro u rfl -
      exact absurd (hc rfl) (by decide)
    rw [List.cons_append, lines, physicalLines, ih ht]
    · by_cases hfeed : c = '\n'
      · subst hfeed
        rfl
      · have hplain : ¬ isLineBreak c = true := fun hbreak => hfeed (hc hbreak)
        rw [if_neg hplain, if_neg hfeed]
    · exact hcr

theorem map_trimEnd_dedent {ls : List Text} (h : margin ls = []) :
    (dedent ls).map trimEnd = ls.map trimEnd := by
  rw [dedent, h, List.map_map]
  refine List.map_congr_left fun l _ => ?_
  by_cases hl : l.all isIndent = true
  · rw [Function.comp_apply, if_pos hl, trimEnd_of_allBlank (allBlank_of_all_isIndent hl)]
    rfl
  · rw [Function.comp_apply, if_neg hl]
    rfl

end Text

namespace Scriptlet

theorem trimBlankLines_map_trimEnd (ls : List Text) :
    trimBlankLines (ls.map Text.trimEnd) = (trimBlankLines ls).map Text.trimEnd := by
  have hsame : Text.allBlank ∘ Text.trimEnd = Text.allBlank := funext Text.allBlank_trimEnd
  simp only [trimBlankLines, List.dropWhile_map, hsame, ← List.map_reverse]

/-- Code below the marker of a directive keeps its lines if they have no margin in common. -/
theorem lines_below {t : Text} (hfeeds : ∀ c ∈ t, Text.isLineBreak c = true → c = '\n')
    (hmargin : Text.margin (Text.physicalLines t) = []) :
    lines ('\n' :: (t ++ ['\n'])) = (trimBlankLines (Text.physicalLines t)).map Text.trimEnd := by
  have hlines : Text.lines ('\n' :: (t ++ ['\n'])) = [] :: Text.physicalLines t := by
    rw [← Text.lines_concat_feed hfeeds]
    rfl
  have hhead : head ('\n' :: (t ++ ['\n'])) = [] := by
    rw [head, hlines]
    rfl
  have htail : tail ('\n' :: (t ++ ['\n'])) = (Text.physicalLines t).map Text.trimEnd := by
    rw [tail, hlines, List.drop_one, List.tail_cons, Text.map_trimEnd_dedent hmargin]
  have henters : entersBlock ('\n' :: (t ++ ['\n'])) = false := by
    simp [entersBlock, hhead]
  rw [lines, henters, hhead, htail, if_pos rfl, if_neg Bool.false_ne_true, trimBlankLines_map_trimEnd]

end Scriptlet

namespace Body

theorem closeAll_of_nil {b : Body} (h : b.blocks = []) : b.closeAll = b := by
  rw [closeAll, h]
  rfl

theorem writeAll_of_nil {b : Body} (h : b.blocks = []) (ls : List Text) :
    b.writeAll ls = b.extend (ls.map Scriptlet.indentLine) false := by
  induction ls generalizing b with
  | nil => exact b.extend_nil.symm
  | cons l ls ih =>
    have hwrite : b.write l = b.extend [Scriptlet.indentLine l] false := by
      obtain ⟨written, blocks⟩ := b
      obtain rfl : blocks = [] := h
      by_cases hl : l = [] <;> simp [write, extend, indent, Scriptlet.indentLine, hl]
    have hblocks : (b.write l).blocks = [] := by
      rw [write, h]
    rw [writeAll, List.foldl_cons, ← writeAll, ih hblocks, hwrite, extend_extend]
    rfl

end Body

namespace Script.Passage

variable {s : Passage}

def lines (s : Passage) : List Text :=
  (Scriptlet.trimBlankLines (Text.sourceLines s.text)).map Text.trimEnd

def directive (s : Passage) : Text := '\n' :: (s.text ++ ['\n'])

/-- The passage stands at the first column of a directive of its own, that neither is an end directive nor
goes on a statement, and that opens no block. -/
structure IsDirective (s : Passage) : Prop where
  feeds : ∀ c ∈ s.text, Text.isLineBreak c = true → c = '\n'
  margin : Text.margin (Text.physicalLines s.text) = []
  no_close : ¬ "?>".toList <:+: s.text
  ne_end : Compile.isBlockEnd s.lines = false
  begins : s.lines.head?.any Compile.isContinuation = false
  opens_nothing : Opener.indent? s.lines = none

theorem IsDirective.lines_directive (h : s.IsDirective) : Scriptlet.lines s.directive = s.lines := by
  have hr : '\r' ∉ s.text := fun hmem => absurd (h.feeds _ hmem rfl) (by decide)
  rw [directive, Scriptlet.lines_below h.feeds h.margin, lines, Text.sourceLines,
    Text.unifyLineEnds_eq_self hr]

theorem map_indentLine_lines (s : Passage) : s.lines.map Scriptlet.indentLine = Outline.furtherIn s.text := by
  rw [lines, Outline.furtherIn, List.map_map]
  rfl

theorem IsDirective.segment (h : s.IsDirective) {b : Body} (hb : b.blocks = []) :
    (Compile.segment b (.scriptlet s.directive)).1 = b.extend (Outline.furtherIn s.text) false := by
  have hstatement : Compile.statement b s.lines = b.writeAll s.lines := by
    rw [Compile.statement, h.begins, h.opens_nothing]
    rfl
  rw [← s.map_indentLine_lines, ← Body.writeAll_of_nil hb, Compile.segment, h.lines_directive, h.ne_end]
  by_cases hnil : s.lines = []
  · rw [if_pos hnil, hnil]
    rfl
  · rw [if_neg hnil, if_neg Bool.false_ne_true, hstatement]

theorem IsDirective.not_infix_directive (h : s.IsDirective) : ¬ "?>".toList <:+: s.directive :=
  Part.not_infix_cons (by decide) (not_infix_concat (by decide) h.no_close)

end Script.Passage

namespace Element

def sourceBehind (s : Passage) (es : List Element) : Text :=
  "<?\n".toList ++ s.text ++ "\n?>".toList ++ source es

structure WithinLimitsBehind (s : Passage) (es : List Element) : Prop where
  brackets : ∀ p ∈ allPhrases es, Outline.bracketsFit p.1 p.2.tokens = true
  outline : Outline.allHeight s.outlines < Outline.maxColumns
  columns : Outline.allHeight (allOutlines es) < Outline.maxColumns
  nesting : Generated.Fits (s.statements ++ statements Phrase.expr es)

variable {s : Passage} {es : List Element} {origin : Text}

theorem sourceBehind_eq (s : Passage) (es : List Element) : sourceBehind s es =
    Segment.sourceOf .standard (.scriptlet s.directive :: Part.allSegments (parts es)) := by
  simp [sourceBehind, source, Part.source, Segment.sourceOf, Segment.source, Passage.directive,
    Delimiters.standard]

theorem code_sourceBehind (hs : s.IsDirective) (hw : Written es) (origin : Text) :
    (Compile.template .standard (sourceBehind s es) origin).code =
      Generated.module "arg".toList (Outline.furtherIn s.text ++ Part.allLines 0 (parts es)) origin := by
  have hproper := allProper_parts es hw.literals hw.expressions
  have hparts := Part.wellFormed_allSegments (parts es) hproper Segment.wellFormed_nil (by simp)
  rw [List.append_nil] at hparts
  have hwell := Part.wellFormed_cons_scriptlet hs.not_infix_directive (by simp [Passage.directive]) hparts
  have hscan := Scan.after_sourceOf Delimiters.standard_safe Delimiters.standard_close_unbordered
    _ hwell [] (by simp [Delimiters.standard]) (.inl rfl) 0
  have hsegments : (Scan.ofTemplate .standard (sourceBehind s es)).segments =
      .scriptlet s.directive :: Part.allSegments (parts es) := by
    have : Scan.ofTemplate .standard (sourceBehind s es) =
        ⟨.scriptlet s.directive :: Part.allSegments (parts es), none⟩ := by
      rw [sourceBehind_eq]
      simpa [Scan.ofTemplate, Scan.literal] using hscan
    rw [this]
  have hwritten := @Part.segments_all (parts es) hproper
    ((({} : Body)).extend (Outline.furtherIn s.text) false) 0 (by rw [Body.indent_extend]; rfl)
  have hbody : Compile.bodyLines (Scan.ofTemplate .standard (sourceBehind s es)).segments =
      Outline.furtherIn s.text ++ Part.allLines 0 (parts es) := by
    rw [hsegments, Compile.bodyLines, Part.segments_cons, hs.segment rfl, hwritten, Body.extend_extend,
      Body.closeAll_of_nil rfl, Body.lines_extend]
    rfl
  rw [Compile.code_template, hbody]
  rfl

/-- The text is compiled to the program whose function runs the passage first. -/
theorem ofText_sourceBehind (hs : s.IsDirective) (hmovable : Outline.Movable s.text) (hw : Written es)
    (hl : WithinLimitsBehind s es) (ho : '\x00' ∉ origin) :
    Program.ofText (Compile.template .standard (sourceBehind s es) origin).code =
      .ok (Generated.program "arg".toList (s.value ++ statements Phrase.value es)) := by
  obtain ⟨ps, hps, hss⟩ := reads_allOutlines es
  have harg : Text.normalName "arg".toList = "arg".toList := by decide +kernel
  have h := @Generated.ofText_module_behind "arg".toList origin _ s _ ps _ (by decide)
    (by rw [harg]; decide) hmovable hl.outline (readAs_allLines es 0 hl.brackets) (isBodyText_allLines es 0)
    ho hl.columns hps hss hl.nesting
  rw [code_sourceBehind hs hw, h, harg, foldAll_statements]

end Element
end TemplateEngine
