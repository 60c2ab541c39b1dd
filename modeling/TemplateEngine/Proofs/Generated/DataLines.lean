import TemplateEngine.Proofs.Generated.Layout
import TemplateEngine.Proofs.Script.Quoting
import TemplateEngine.Proofs.Script.StatementStart
import TemplateEngine.Proofs.Scriptlet.Lines

set_option autoImplicit false

/-!
# Literal text stays within its line

Two templates that differ in the texts of their literals alone are compiled to modules that differ in
the lines of these literals alone, beside the comment that names the origin. Such a line holds one
string whose inside no text can leave.
-/
namespace TemplateEngine

namespace Literal

/-- Whether every quote is escaped by a backslash that is not escaped itself; `escaped` says this of the
first character. -/
def quotesEscaped : Bool → Text → Bool
  | _, [] => true
  | escaped, c :: t => (c ≠ '\'' || escaped) && quotesEscaped (c = '\\' && !escaped) t

/-- What stands between single quotes without ending the string or the line. -/
structure Enclosed (e : Text) : Prop where
  no_feed : '\n' ∉ e
  no_return : '\r' ∉ e
  no_null : '\x00' ∉ e
  quotes : quotesEscaped false e = true

/-- The quotes behind a character's escape are as they are without it. -/
theorem quotesEscaped_escapeChar (c : Char) (r : Text) :
    quotesEscaped false (escapeChar c ++ r) = quotesEscaped false r := by
  obtain ⟨d, hc, -, hd⟩ | ⟨-, hc⟩ | ⟨hc, hback, hquote, -⟩ := escapeChar_cases c
  · have hstart : quotesEscaped false (['\\', d] ++ r) = quotesEscaped false r := by
      simp [quotesEscaped]
    rw [hc, hstart]
  · rw [hc]
    simp [quotesEscaped]
  · rw [hc]
    simp [quotesEscaped, hback, hquote]

theorem quotesEscaped_escape (t : Text) : quotesEscaped false (escape t) = true := by
  induction t with
  | nil => rfl
  | cons c t ih => rw [escape_cons, quotesEscaped_escapeChar, ih]

theorem enclosed_escape (t : Text) : Enclosed (escape t) where
  no_feed := (not_mem_escape t).1
  no_return := (not_mem_escape t).2.1
  no_null := (not_mem_escape t).2.2
  quotes := quotesEscaped_escape t

end Literal

namespace Segment

inductive SameButText : Segment → Segment → Prop
  | literal (t u : Text) : SameButText (literal t) (literal u)
  | same (s : Segment) : SameButText s s

def literals (ss : List Segment) : List Text :=
  ss.filterMap fun
    | literal t => some t
    | _ => none

end Segment

namespace Generated

/-- Lines that are the same but where one adds a literal to the output: there the two have the same
indentation, and each has the string of its own literal. -/
inductive Alike : List Text → List Text → List Text → List Text → Prop
  | nil : Alike [] [] [] []
  | code {ts us ls ms : List Text} (l : Text) (rest : Alike ts us ls ms) :
      Alike ts us (l :: ls) (l :: ms)
  | literal {ts us ls ms : List Text} (indent t u : Text)
      (blank : ∀ c ∈ indent, Text.isIndent c = true)
      (enclosed : Literal.Enclosed (Literal.escape t) ∧ Literal.Enclosed (Literal.escape u))
      (rest : Alike ts us ls ms) :
      Alike (t :: ts) (u :: us)
        ((indent ++ "_buf.append('".toList ++ Literal.escape t ++ "')".toList) :: ls)
        ((indent ++ "_buf.append('".toList ++ Literal.escape u ++ "')".toList) :: ms)

namespace Alike

variable {ts us ts' us' ls ms ls' ms' : List Text}

theorem length_eq (h : Alike ts us ls ms) : ls.length = ms.length := by
  induction h with
  | nil => rfl
  | code l _ ih => simp [ih]
  | literal indent t u _ _ _ ih => simp [ih]

theorem append (h : Alike ts us ls ms) (h' : Alike ts' us' ls' ms') :
    Alike (ts ++ ts') (us ++ us') (ls ++ ls') (ms ++ ms') := by
  induction h with
  | nil => exact h'
  | code l _ ih => exact .code l ih
  | literal indent t u hblank henclosed _ ih => exact .literal indent t u hblank henclosed ih

theorem same (ls : List Text) : Alike [] [] ls ls := by
  induction ls with
  | nil => exact .nil
  | cons l ls ih => exact .code l ih

theorem literal_line {indent : Text} (t u : Text) (h : ∀ c ∈ indent, Text.isIndent c = true) :
    Alike [t] [u] [indent ++ Compile.literalLine t] [indent ++ Compile.literalLine u] := by
  have hline : ∀ v, indent ++ Compile.literalLine v =
      indent ++ "_buf.append('".toList ++ Literal.escape v ++ "')".toList := by
    intro v
    simp [Compile.literalLine, Literal.quote, Script.bufferName]
  rw [hline, hline]
  exact .literal indent t u h ⟨Literal.enclosed_escape t, Literal.enclosed_escape u⟩ .nil

end Alike
end Generated

namespace Generated.Alike

variable {ts us ls ms : List Text}

theorem physicalLines (h : Alike ts us ls ms) :
    Alike ts us (ls.flatMap Text.physicalLines) (ms.flatMap Text.physicalLines) := by
  induction h with
  | nil => exact .nil
  | code l _ ih => exact (Alike.same (Text.physicalLines l)).append ih
  | literal indent t u hblank henclosed _ ih =>
    have hone : ∀ v, Literal.Enclosed (Literal.escape v) →
        Text.physicalLines
            (indent ++ "_buf.append('".toList ++ Literal.escape v ++ "')".toList) =
          [indent ++ "_buf.append('".toList ++ Literal.escape v ++ "')".toList] := by
      intro v hv
      have hindent : '\n' ∉ indent := fun h => absurd (hblank _ h) (by decide)
      have hline : '\n' ∉ indent ++ "_buf.append('".toList ++ Literal.escape v ++ "')".toList := by
        simp [hindent, hv.no_feed]
      exact Text.physicalLines_eq_singleton hline
    rw [List.flatMap_cons, List.flatMap_cons, hone t henclosed.1, hone u henclosed.2]
    exact .literal indent t u hblank henclosed ih

end Generated.Alike

namespace Body

def Blank (b : Body) : Prop := ∀ block ∈ b.blocks, ∀ c ∈ block.indent, Text.isIndent c = true

variable {b : Body}

theorem Blank.indent (hb : b.Blank) : ∀ c ∈ b.indent, Text.isIndent c = true := by
  unfold Body.indent
  split
  · intro c hc
    rw [Scriptlet.eq_of_mem_indentStep hc]
    decide
  · next block outer hblocks => exact hb block (by simp [hblocks])

theorem Blank.write (hb : b.Blank) (l : Text) : (b.write l).Blank := by
  intro block hblock
  cases hblocks : b.blocks with
  | nil => simp [Body.write, hblocks] at hblock
  | cons top outer =>
    simp only [Body.write, hblocks, List.mem_cons] at hblock
    obtain rfl | hblock := hblock
    · exact hb top (by simp [hblocks])
    · exact hb block (by simp [hblocks, hblock])

theorem Blank.writeAll (hb : b.Blank) (ls : List Text) : (b.writeAll ls).Blank := by
  induction ls generalizing b with
  | nil => exact hb
  | cons l ls ih => exact ih (hb.write l)

theorem Blank.openBlock (hb : b.Blank) {offset : Text}
    (h : ∀ c ∈ offset, Text.isIndent c = true) : (b.openBlock offset).Blank := by
  intro block hblock c hc
  obtain rfl | hblock := List.mem_cons.1 hblock
  · simp only [List.mem_append] at hc
    obtain (hc | hc) | hc := hc
    · exact hb.indent c hc
    · exact h c hc
    · rw [Scriptlet.eq_of_mem_indentStep hc]
      decide
  · exact hb block hblock c hc

theorem Blank.closeBlock (hb : b.Blank) : b.closeBlock.Blank := by
  unfold Body.closeBlock
  split
  · exact hb
  · intro block hblock
    refine (?_ : Body.Blank _) block (List.mem_of_mem_drop hblock)
    split
    · exact hb
    · exact hb.write pass

/-- The indentation of a statement that opens a block is one of spaces and tabs. -/
theorem isIndent_of_indent? {ls : List Text} {offset : Text}
    (hls : ∀ l ∈ ls, ∀ c ∈ l, Text.isLineBreak c = false)
    (h : Script.Opener.indent? ls = some offset) : ∀ c ∈ offset, Text.isIndent c = true := by
  intro c hc
  have hends : ∀ l ∈ ls, '\n' ∉ l ∧ '\r' ∉ l := by
    intro l hl
    exact ⟨fun h => absurd (hls l hl _ h) (by decide), fun h => absurd (hls l hl _ h) (by decide)⟩
  have hgap := Script.Opener.blank_of_indent? hends h c hc
  -- A form feed is a blank, but it ends a line of a template.
  have hbreak : Text.isLineBreak c = false := by
    obtain ⟨⟨row, column⟩, -, hrow⟩ := Option.bind_eq_some_iff.1 h
    obtain ⟨l, hl, htake⟩ := Option.bind_eq_some_iff.1 hrow
    obtain rfl := Option.some.inj htake
    exact hls l (List.mem_of_getElem? hl) c (List.mem_of_mem_take hc)
  simp only [Script.LineScan.isGap, Bool.or_eq_true, decide_eq_true_eq] at hgap
  obtain (rfl | rfl) | rfl := hgap
  · decide
  · decide
  · exact absurd hbreak (by decide)

theorem Blank.statement (hb : b.Blank) {ls : List Text}
    (hls : ∀ l ∈ ls, ∀ c ∈ l, Text.isLineBreak c = false) : (Compile.statement b ls).Blank := by
  have hclosed : (if (ls.head?).any Compile.isContinuation then b.closeBlock else b).Blank := by
    split
    · exact hb.closeBlock
    · exact hb
  have hwritten := hclosed.writeAll ls
  unfold Compile.statement
  dsimp only
  split
  · next offset hoffset => exact hwritten.openBlock (isIndent_of_indent? hls hoffset)
  · exact hwritten

theorem Blank.segment (hb : b.Blank) (s : Segment) : (Compile.segment b s).1.Blank := by
  cases s with
  | literal t => exact hb.write _
  | raw e => exact hb.write _
  | escaped e => exact hb.write _
  | scriptlet body =>
    unfold Compile.segment
    dsimp only
    split
    · exact hb
    · split
      · exact hb.closeBlock
      · dsimp only
        exact hb.statement fun l hl => Scriptlet.no_break_of_mem_lines hl

end Body

namespace Compile

open Generated

variable {b c : Body}

/-- What two bodies get from texts that are the same but for their literals. -/
def GetAlike (ts us : List Text) (b c b' c' : Body) : Prop :=
  b'.blocks = c'.blocks ∧
    ∃ ls ms, b'.lines = b.lines ++ ls ∧ c'.lines = c.lines ++ ms ∧ Alike ts us ls ms

theorem GetAlike.trans {ts us ts' us' : List Text} {b' c' b'' c'' : Body}
    (h : GetAlike ts us b c b' c') (h' : GetAlike ts' us' b' c' b'' c'') :
    GetAlike (ts ++ ts') (us ++ us') b c b'' c'' := by
  obtain ⟨-, ls, ms, hls, hms, halike⟩ := h
  obtain ⟨hblocks, ls', ms', hls', hms', halike'⟩ := h'
  exact ⟨hblocks, ls ++ ls', ms ++ ms', by rw [hls', hls, List.append_assoc],
    by rw [hms', hms, List.append_assoc], halike.append halike'⟩

theorem getAlike_of_appends {f : Body → Body} (hf : Body.Appends f) (hbc : b.blocks = c.blocks) :
    GetAlike [] [] b c (f b) (f c) := by
  obtain ⟨hblocks, ls, hls, hms⟩ := hf b c hbc
  exact ⟨hblocks, ls, ls, hls, hms, Alike.same ls⟩

theorem getAlike_literal (t u : Text) (hb : b.Blank) (hbc : b.blocks = c.blocks) :
    GetAlike [t] [u] b c (b.write (literalLine t)) (c.write (literalLine u)) := by
  have hindent : b.indent = c.indent := by simp [Body.indent, hbc]
  have hne : ∀ v, literalLine v ≠ [] := fun v => by simp [literalLine, Script.bufferName]
  have hcode : ∀ v, Body.isCode (literalLine v) = true := by
    intro v
    rw [literalLine, List.append_assoc, List.append_assoc]
    exact Body.isCode_cons _ (by decide) (by decide)
  refine ⟨by simp [Body.write, hbc, hcode], _, _, ?_, ?_, Alike.literal_line t u hb.indent⟩
  · rw [Body.lines_write, if_neg (hne t)]
  · rw [Body.lines_write, if_neg (hne u), hindent]

/-- Segments that differ in a literal's text alone leave the same blocks, and add the same lines but for
that of the literal. -/
theorem getAlike_segment {s t : Segment} (h : s.SameButText t) (hb : b.Blank)
    (hbc : b.blocks = c.blocks) :
    GetAlike (Segment.literals [s]) (Segment.literals [t]) b c (segment b s).1 (segment c t).1 := by
  cases h with
  | literal t u => exact getAlike_literal t u hb hbc
  | same =>
    have happends := getAlike_of_appends (Body.Appends.segment s) hbc
    cases s with
    | literal t => exact getAlike_literal t t hb hbc
    | scriptlet body => exact happends
    | raw e => exact happends
    | escaped e => exact happends

theorem literals_cons (s : Segment) (ss : List Segment) :
    Segment.literals (s :: ss) = Segment.literals [s] ++ Segment.literals ss := by
  cases s <;> rfl

theorem getAlike_segments {ss tt : List Segment} (h : List.Forall₂ Segment.SameButText ss tt)
    (hb : b.Blank) (hbc : b.blocks = c.blocks) :
    GetAlike (Segment.literals ss) (Segment.literals tt) b c (segments b ss).1 (segments c tt).1 := by
  induction h generalizing b c with
  | nil => exact ⟨hbc, [], [], by simp [segments], by simp [segments], .nil⟩
  | @cons s t ss tt hst _ ih =>
    have hfirst := getAlike_segment hst hb hbc
    have hrest := ih (hb.segment s) hfirst.1
    rw [literals_cons s ss, literals_cons t tt]
    exact hfirst.trans hrest

theorem bodyLines_alike {ss tt : List Segment} (h : List.Forall₂ Segment.SameButText ss tt) :
    Alike (Segment.literals ss) (Segment.literals tt) (bodyLines ss) (bodyLines tt) := by
  have hblank : ({} : Body).Blank := fun block hblock => nomatch hblock
  have hwritten := getAlike_segments h hblank (rfl : ({} : Body).blocks = ({} : Body).blocks)
  have hclosed := hwritten.trans (getAlike_of_appends Body.Appends.closeAll hwritten.1)
  rw [List.append_nil, List.append_nil] at hclosed
  obtain ⟨-, ls, ms, hls, hms, halike⟩ := hclosed
  have hb : bodyLines ss = ls := hls
  have hc : bodyLines tt = ms := hms
  rwa [hb, hc]

def IsComment (l : Text) : Prop := l.head? = some '#' ∧ '\n' ∉ l ∧ '\r' ∉ l

theorem isComment_headerLine (origin : Text) : IsComment (headerLine origin) :=
  ⟨rfl, (not_mem_headerLine origin).1, (not_mem_headerLine origin).2.1⟩

/-- The lines of two modules are alike behind their first lines, which are comments, if their templates
differ in nothing but the texts of literals. -/
theorem code_alike (d : Delimiters) (source source' origin origin' : Text)
    (h : List.Forall₂ Segment.SameButText (Scan.ofTemplate d source).segments
      (Scan.ofTemplate d source').segments) :
    ∃ ls ms,
      Text.physicalLines (template d source origin).code = headerLine origin :: ls ∧
      Text.physicalLines (template d source' origin').code = headerLine origin' :: ms ∧
      IsComment (headerLine origin) ∧ IsComment (headerLine origin') ∧
      ls.length = ms.length ∧
      Alike (Segment.literals (Scan.ofTemplate d source).segments)
        (Segment.literals (Scan.ofTemplate d source').segments) ls ms := by
  have hmodule : ∀ body o, Text.physicalLines (module d.contextName body o) = headerLine o ::
      ((openingLines d.contextName ++ body ++ closingLines).flatMap Text.physicalLines ++ [[]]) := by
    intro body o
    have hheader : Text.physicalLines (headerLine o) = [headerLine o] :=
      Text.physicalLines_eq_singleton (isComment_headerLine o).2.1
    rw [module_eq_unlines, Script.Outline.physicalLines_unlines, moduleLines, List.cons_append,
      List.cons_append, List.flatMap_cons, hheader]
    rfl
  have hlines := (((Alike.same (openingLines d.contextName)).append (bodyLines_alike h)).append
    (Alike.same closingLines)).physicalLines
  have halike := hlines.append (Alike.same [[]])
  simp only [List.nil_append, List.append_nil] at halike
  exact ⟨_, _, by rw [code_template, hmodule], by rw [code_template, hmodule],
    isComment_headerLine origin, isComment_headerLine origin', halike.length_eq, halike⟩

/-- Quotes, backslashes and line ends in the literals, and line ends in the origin. -/
theorem code_alike_quotes :
    List.Forall₂ Segment.SameButText
        (Scan.ofTemplate .standard "it's\n<?if arg:?>\\'<?end?>".toList).segments
        (Scan.ofTemplate .standard "')#<?if arg:?>\r<?end?>".toList).segments ∧
      ∃ ls ms,
        Text.physicalLines (template .standard "it's\n<?if arg:?>\\'<?end?>".toList "a".toList).code =
          headerLine "a".toList :: ls ∧
        Text.physicalLines (template .standard "')#<?if arg:?>\r<?end?>".toList "b\nc".toList).code =
          headerLine "b\nc".toList :: ms ∧
        IsComment (headerLine "a".toList) ∧ IsComment (headerLine "b\nc".toList) ∧
        ls.length = ms.length ∧
        Alike ["it's\n".toList, "\\'".toList] ["')#".toList, "\r".toList] ls ms := by
  have hfirst : (Scan.ofTemplate .standard "it's\n<?if arg:?>\\'<?end?>".toList).segments =
      [.literal "it's\n".toList, .scriptlet "if arg:".toList, .literal "\\'".toList,
        .scriptlet "end".toList] := by
    decide +kernel
  have hsecond : (Scan.ofTemplate .standard "')#<?if arg:?>\r<?end?>".toList).segments =
      [.literal "')#".toList, .scriptlet "if arg:".toList, .literal "\r".toList,
        .scriptlet "end".toList] := by
    decide +kernel
  have hsame : List.Forall₂ Segment.SameButText
      (Scan.ofTemplate .standard "it's\n<?if arg:?>\\'<?end?>".toList).segments
      (Scan.ofTemplate .standard "')#<?if arg:?>\r<?end?>".toList).segments := by
    rw [hfirst, hsecond]
    exact .cons (.literal _ _) (.cons (.same _) (.cons (.literal _ _) (.cons (.same _) .nil)))
  have halike := code_alike .standard _ _ "a".toList "b\nc".toList hsame
  refine ⟨hsame, ?_⟩
  rwa [hfirst, hsecond] at halike

end Compile
end TemplateEngine
