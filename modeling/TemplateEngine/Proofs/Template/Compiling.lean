import TemplateEngine.Proofs.Generated.Loading
import TemplateEngine.Proofs.Template.Element

set_option autoImplicit false

/-!
# Compiling templates of expressions, conditions and loops

The text of such a template is compiled to a module whose function runs the statements of the tree. The
module can be loaded as long as the template stays within the limits of the language.
-/
namespace TemplateEngine

open Script

namespace Text

theorem trim_eq_self {c d : Char} {t : Text} (hc : isBlank c = false) (hd : isBlank d = false) :
    trim (c :: (t ++ [d])) = c :: (t ++ [d]) := by
  have hstart : trimStart (c :: (t ++ [d])) = c :: (t ++ [d]) := by
    simp [trimStart, trimStartBy, hc]
  have hreverse : (c :: (t ++ [d])).reverse = d :: (c :: t).reverse := by simp
  rw [trim, hstart, trimEnd, trimEndBy, hreverse, List.dropWhile_cons_of_neg (by simp [hd]),
    ← hreverse, List.reverse_reverse]

end Text

/-- Whether a text can stand in front of the expression of a head: it is on one line, starts with a
letter, and no marker, string or bracket starts in it. -/
structure Heads (w : Text) : Prop where
  first : ∃ c r, w = c :: r ∧ c ∈ ['i', 'e', 'f']
  plain : ∀ c ∈ w, Token.isPlain c = true ∧ c ≠ '?' ∧ Text.isLineBreak c = false

variable {w : Text} {e : LinePhrase}

theorem heads_if : Heads "if".toList := ⟨⟨'i', _, rfl, by decide⟩, Text.forall_mem_of_all (by decide)⟩

theorem heads_elif : Heads "elif".toList := ⟨⟨'e', _, rfl, by decide⟩, Text.forall_mem_of_all (by decide)⟩

theorem heads_loop (x : LoopVariable) : Heads (Generated.loopText x.text) where
  first := ⟨'f', _, rfl, by decide⟩
  plain := by
    obtain ⟨-, -, -, -, hpart⟩ := Generated.of_isVariableName x.isName
    have hfixed : ∀ c ∈ "for ".toList ++ " in".toList,
        Token.isPlain c = true ∧ c ≠ '?' ∧ Text.isLineBreak c = false :=
      Text.forall_mem_of_all (by decide)
    have hname : ∀ c ∈ x.text, Token.isPlain c = true ∧ c ≠ '?' ∧ Text.isLineBreak c = false := by
      intro c hc
      refine ⟨Token.plain_of_not_special LineScan.plainNames_nameRule (hpart c hc), ?_,
        x.no_break c hc⟩
      rintro rfl
      exact absurd (hpart _ hc) (by decide)
    intro c hc
    simp only [Generated.loopText, List.mem_append] at hc
    obtain (hc | hc) | hc := hc
    · exact hfixed c (List.mem_append_left _ hc)
    · exact hname c hc
    · exact hfixed c (List.mem_append_right _ hc)

theorem not_infix_append {s t : Text} (hs : ∀ c ∈ s, c ≠ '?') (ht : ¬ "?>".toList <:+: t) :
    ¬ "?>".toList <:+: s ++ t := by
  induction s with
  | nil => exact ht
  | cons c s ih =>
    obtain ⟨hc, hs⟩ := List.forall_mem_cons.1 hs
    exact Part.not_infix_cons hc (ih hs)

theorem not_infix_concat {t : Text} {c : Char} (hc : c ≠ '>') (ht : ¬ "?>".toList <:+: t) :
    ¬ "?>".toList <:+: t ++ [c] := by
  intro h
  obtain ⟨r, hr⟩ | h := List.infix_concat_iff.1 h
  · have hlast := congrArg List.getLast? hr
    rw [List.getLast?_append, List.getLast?_concat] at hlast
    exact hc (Option.some.inj hlast).symm
  · exact ht h

theorem headOf_eq (e : LinePhrase) (w : Text) : Generated.headOf e.toPhrase w = w ++ ' ' :: e.text ++ [':'] := by
  simp [Generated.headOf]

theorem isLine_headOf (hw : Heads w) (he : ¬ "?>".toList <:+: e.text) :
    Part.IsLine (Generated.headOf e.toPhrase w) := by
  obtain ⟨c, r, rfl, hc⟩ := hw.first
  have hform : Generated.headOf e.toPhrase (c :: r) = c :: ((r ++ ' ' :: e.text) ++ [':']) := by
    simp [Generated.headOf]
  have hfirst : Text.isBlank c = false ∧ c ≠ '-' ∧ c ≠ '=' := by
    have hall : ∀ c ∈ ['i', 'e', 'f'], Text.isBlank c = false ∧ c ≠ '-' ∧ c ≠ '=' :=
      Text.forall_mem_of_all (by decide)
    exact hall c hc
  refine ⟨by simp [hform], ?_, ?_, ?_, ?_, ?_⟩
  · intro d hd
    rw [headOf_eq] at hd
    simp only [List.mem_append, List.mem_cons, List.not_mem_nil, or_false] at hd
    obtain (hd | rfl | hd) | rfl := hd
    · exact (hw.plain d (List.mem_cons.2 hd)).2.2
    · rfl
    · exact e.no_break d hd
    · rfl
  · rw [hform]
    exact Text.trim_eq_self hfirst.1 (by decide)
  · rw [headOf_eq]
    intro hend
    have := congrArg List.getLast? hend
    rw [List.getLast?_concat] at this
    exact absurd this (by decide)
  · rw [hform]
    simp [hfirst.2]
  · rw [headOf_eq, List.append_assoc]
    refine not_infix_append (fun d hd => (hw.plain d hd).2.1) ?_
    rw [List.cons_append]
    exact Part.not_infix_cons (by decide) (not_infix_concat (by decide) he)

theorem indent?_headOf (e : LinePhrase) (hw : Heads w) :
    Opener.indent? [Generated.headOf e.toPhrase w] = some [] := by
  have hno : ∀ d, Text.isLineBreak d = true → d ∉ w ++ ' ' :: e.text := by
    intro d hd hmem
    have : Text.isLineBreak d = false := by
      simp only [List.mem_append, List.mem_cons] at hmem
      obtain hmem | rfl | hmem := hmem
      · exact (hw.plain d hmem).2.2
      · rfl
      · exact e.no_break d hmem
    rw [hd] at this
    contradiction
  have hplain : (w ++ [' ']).all Token.isPlain = true := by
    refine List.all_eq_true.2 fun c hc => ?_
    obtain hc | hc := List.mem_append.1 hc
    · exact (hw.plain c hc).1
    · rw [List.mem_singleton.1 hc]
      decide
  have hbare := LineScan.Bare.append_plain hplain e.bare
  rw [List.append_assoc, List.singleton_append] at hbare
  rw [headOf_eq]
  refine Opener.indent?_bare hbare (hno _ rfl) (hno _ rfl) ?_ ?_
  · obtain ⟨c, r, rfl, hc⟩ := hw.first
    intro d hd
    obtain rfl := Option.some.inj hd
    have hall : ∀ c ∈ ['i', 'e', 'f'], LineScan.isGap c = false :=
      Text.forall_mem_of_all (by decide)
    exact hall _ hc
  · simp

theorem isLine_else : Part.IsLine Generated.elseText := by decide

theorem indent?_else : Opener.indent? [Generated.elseText] = some [] :=
  Opener.indent?_bare (t := "else".toList) (.of_plain (by decide)) (by decide) (by decide)
    (fun _ hc => Option.some.inj hc ▸ rfl) (by decide)

namespace Element

def isLiteral : Element → Bool
  | literal _ => true
  | _ => false

mutual

def LiteralsApart : Element → Prop
  | literal t => t ≠ [] ∧ ¬ "<?".toList <:+: t
  | output _ _ => True
  | choice _ body others => AllLiteralsApart body ∧ OtherLiteralsApart others
  | each _ _ body => AllLiteralsApart body

def AllLiteralsApart : List Element → Prop
  | [] => True
  | e :: es =>
    LiteralsApart e ∧ (e.isLiteral = true → ∀ d ∈ es.head?, d.isLiteral = false) ∧ AllLiteralsApart es

def OtherLiteralsApart : Alternatives → Prop
  | .none => True
  | .otherwise body => AllLiteralsApart body
  | .elif _ body others => AllLiteralsApart body ∧ OtherLiteralsApart others

end

structure Written (es : List Element) : Prop where
  literals : AllLiteralsApart es
  /-- No expression ends the directive that it stands in. -/
  expressions : ∀ p ∈ allPhrases es, ¬ "?>".toList <:+: p.2.text

/-- The template stays within the limits of the language: brackets, blocks and loops are not nested too
deep. -/
structure WithinLimits (es : List Element) : Prop where
  brackets : ∀ p ∈ allPhrases es, Outline.bracketsFit p.1 p.2.tokens = true
  columns : Outline.allHeight (allOutlines es) < Outline.maxColumns
  nesting : Generated.Fits (statements Phrase.expr es)

theorem isLiteral_part (e : Element) : (part e).isLiteral = e.isLiteral := by
  cases e with
  | output escaped e => cases escaped <;> rfl
  | _ => rfl

mutual

theorem proper_part (e : Element) (hl : LiteralsApart e)
    (he : ∀ p ∈ phrases e, ¬ "?>".toList <:+: p.2.text) : (part e).Proper := by
  cases e with
  | literal t => exact hl
  | output escaped e =>
    have := he _ List.mem_cons_self
    cases escaped <;> exact this
  | choice test body others =>
    simp only [phrases, List.forall_mem_cons, List.forall_mem_append] at he
    exact ⟨isLine_headOf heads_if he.1, indent?_headOf test heads_if, rfl,
      allProper_parts body hl.1 he.2.1, branchesProper_branches others hl.2 he.2.2⟩
  | each x items body =>
    simp only [phrases, List.forall_mem_cons] at he
    exact ⟨isLine_headOf (heads_loop x) he.1, indent?_headOf items (heads_loop x), rfl,
      allProper_parts body hl he.2, trivial⟩

theorem allProper_parts (es : List Element) (hl : AllLiteralsApart es)
    (he : ∀ p ∈ allPhrases es, ¬ "?>".toList <:+: p.2.text) : Part.AllProper (parts es) := by
  cases es with
  | nil => trivial
  | cons e es =>
    simp only [allPhrases, List.forall_mem_append] at he
    refine ⟨proper_part e hl.1 he.1, fun hlit q hq => ?_, allProper_parts es hl.2.2 he.2⟩
    cases es with
    | nil => contradiction
    | cons d es =>
      obtain rfl := Option.some.inj hq
      rw [isLiteral_part] at hlit ⊢
      exact hl.2.1 hlit d rfl

theorem branchesProper_branches (others : Alternatives) (hl : OtherLiteralsApart others)
    (he : ∀ p ∈ otherPhrases others, ¬ "?>".toList <:+: p.2.text) :
    Part.BranchesProper (branches others) := by
  cases others with
  | none => trivial
  | otherwise body => exact ⟨isLine_else, indent?_else, rfl, allProper_parts body hl he, trivial⟩
  | elif test body others =>
    simp only [otherPhrases, List.forall_mem_cons, List.forall_mem_append] at he
    exact ⟨isLine_headOf heads_elif he.1, indent?_headOf test heads_elif, rfl,
      allProper_parts body hl.1 he.2.1, branchesProper_branches others hl.2 he.2.2⟩

end

theorem isBodyText_filler (d : Nat) (ps : List Part) :
    ∀ l ∈ Part.filler d ps, Generated.IsBodyText l := by
  unfold Part.filler
  split
  · exact List.forall_mem_singleton.2 ((isLine_margin d).append Generated.isLine_pass).isBodyText
  · simp

theorem isBodyText_output (escaped : Bool) (e : Phrase) (d : Nat) :
    Generated.IsBodyText (Part.margin d ++ Compile.appendCall (Generated.callName escaped) e.text) := by
  have hfront := (isLine_margin d).append (Generated.isLine_frontText escaped)
  rw [Generated.appendCall_eq, ← List.append_assoc, ← List.append_assoc]
  constructor
  · intro hmem
    obtain hmem | hmem := List.mem_append.1 hmem
    · obtain hmem | hmem := List.mem_append.1 hmem
      · exact hfront.2.2 hmem
      · exact e.no_null hmem
    · exact absurd hmem (by decide)
  · intro hlast
    have hclose : "))".toList.getLast? = some ')' := rfl
    rw [List.getLast?_append, hclose, Option.some_or] at hlast
    exact absurd hlast (by decide)

mutual

theorem isBodyText_lines (e : Element) (d : Nat) :
    ∀ l ∈ (part e).lines d, Generated.IsBodyText l := by
  have hmargin := isLine_margin d
  cases e with
  | literal t =>
    exact List.forall_mem_singleton.2 (hmargin.append (Generated.isLine_literalLine t)).isBodyText
  | output escaped e =>
    have := List.forall_mem_singleton.2 (isBodyText_output escaped e d)
    cases escaped <;> exact this
  | choice test body others =>
    simp only [part, Part.lines, List.forall_mem_cons, List.forall_mem_append]
    exact ⟨(hmargin.append (Generated.isLine_headOf test Generated.isLine_if)).isBodyText,
      ⟨isBodyText_allLines body (d + 1), isBodyText_filler _ _⟩, isBodyText_branchLines others d⟩
  | each x items body =>
    simp only [part, Part.lines, Part.branchLines, List.forall_mem_cons, List.forall_mem_append,
      List.append_nil]
    exact ⟨(hmargin.append (Generated.isLine_headOf items (Generated.isLine_loopText x.isName))).isBodyText,
      isBodyText_allLines body (d + 1), isBodyText_filler _ _⟩

theorem isBodyText_allLines (es : List Element) (d : Nat) :
    ∀ l ∈ Part.allLines d (parts es), Generated.IsBodyText l := by
  cases es with
  | nil => simp [parts, Part.allLines]
  | cons e es =>
    simp only [parts, Part.allLines, List.forall_mem_append]
    exact ⟨isBodyText_lines e d, isBodyText_allLines es d⟩

theorem isBodyText_branchLines (others : Alternatives) (d : Nat) :
    ∀ l ∈ Part.branchLines d (branches others), Generated.IsBodyText l := by
  have hmargin := isLine_margin d
  cases others with
  | none => simp [branches, Part.branchLines]
  | otherwise body =>
    simp only [branches, Part.branchLines, List.forall_mem_cons, List.forall_mem_append,
      List.append_nil]
    exact ⟨(hmargin.append Generated.isLine_else).isBodyText, isBodyText_allLines body (d + 1),
      isBodyText_filler _ _⟩
  | elif test body others =>
    simp only [branches, Part.branchLines, List.forall_mem_cons, List.forall_mem_append]
    exact ⟨(hmargin.append (Generated.isLine_headOf test Generated.isLine_elif)).isBodyText,
      ⟨isBodyText_allLines body (d + 1), isBodyText_filler _ _⟩, isBodyText_branchLines others d⟩

end

section

variable {es : List Element} {origin : Text}

/-- The text of the template is compiled to the program whose function runs the statements, unless that is
no program. -/
theorem ofText_source_eq (hw : Written es)
    (hbrackets : ∀ p ∈ allPhrases es, Outline.bracketsFit p.1 p.2.tokens = true)
    (hcolumns : Outline.allHeight (allOutlines es) < Outline.maxColumns) (ho : '\x00' ∉ origin) :
    Program.ofText (Compile.template .standard (source es) origin).code =
      match Program.fault? (Generated.program "arg".toList (statements Phrase.expr es)) with
      | some f => .error f
      | none => .ok (Generated.program "arg".toList (statements Phrase.value es)) := by
  have hcode := (Part.code_source_eq_layout (parts es) origin
    (allProper_parts es hw.literals hw.expressions)).2
  obtain ⟨ps, hps, hss⟩ := reads_allOutlines es
  have harg : Text.normalName "arg".toList = "arg".toList := by decide +kernel
  have h := Generated.ofText_module_of_texts (p := "arg".toList) (by decide) (by rw [harg]; decide)
    (readAs_allLines es 0 hbrackets) (isBodyText_allLines es 0) ho hcolumns hps hss
  rw [harg, foldAll_statements] at h
  rw [source, hcode]
  exact h

theorem ofText_source (hw : Written es) (hl : WithinLimits es) (ho : '\x00' ∉ origin) :
    Program.ofText (Compile.template .standard (source es) origin).code =
      .ok (Generated.program "arg".toList (statements Phrase.value es)) := by
  rw [ofText_source_eq hw hl.brackets hl.columns ho, Generated.fault?_program _ hl.nesting]

theorem load_source {globals : Table Text Value} (hw : Written es) (hl : WithinLimits es)
    (ho : '\x00' ∉ origin) (hf : globals.find? "frozenset".toList = none)
    (hs : globals.find? "str".toList = none) :
    Module.load globals (Compile.template .standard (source es) origin).code =
      .ok ⟨Generated.loaded globals "arg".toList (statements Phrase.value es)⟩ :=
  Generated.load_of_ofText (ofText_source hw hl ho) hf hs

end

end Element

end TemplateEngine
