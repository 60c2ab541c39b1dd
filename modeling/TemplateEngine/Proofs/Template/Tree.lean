import TemplateEngine.Proofs.Script.StatementStart
import TemplateEngine.Proofs.Scriptlet.Lines
import TemplateEngine.Proofs.Segment.RoundTrip

set_option autoImplicit false

/-!
# Templates as trees

A template whose blocks all end is a tree of literals, expressions, statements on one line each, and
blocks with their branches. Compiling its text lays the tree out: what stands in a block is one step
deeper than the head of the block, and only a block without code gets a statement that fills it.
-/
namespace TemplateEngine

mutual

inductive Part where
  | literal (text : Text)
  | raw (expression : Text)
  | escaped (expression : Text)
  | statement (line : Text)
  | block (head : Text) (body : List Part) (branches : List Branch)

inductive Branch where
  | mk (head : Text) (body : List Part)

end

namespace Part

mutual

def segments : Part → List Segment
  | literal t => [.literal t]
  | raw e => [.raw e]
  | escaped e => [.escaped e]
  | statement l => [.scriptlet l]
  | block h body branches =>
    .scriptlet h :: (allSegments body ++ (branchSegments branches ++ [.scriptlet Compile.blockEnd]))

def allSegments : List Part → List Segment
  | [] => []
  | p :: ps => segments p ++ allSegments ps

def branchSegments : List Branch → List Segment
  | [] => []
  | .mk h body :: bs => .scriptlet h :: (allSegments body ++ branchSegments bs)

end

def margin (depth : Nat) : Text := List.replicate (4 * (depth + 1)) ' '

def isLiteral : Part → Bool
  | literal _ => true
  | _ => false

def isComment : Part → Bool
  | statement l => l.head? = some '#'
  | _ => false

/-- The line that fills the parts of a block if they are nothing but comments. -/
def filler (depth : Nat) (parts : List Part) : List Text :=
  if parts.all isComment then [margin depth ++ Body.pass] else []

mutual

def lines (depth : Nat) : Part → List Text
  | literal t => [margin depth ++ Compile.literalLine t]
  | raw e => [margin depth ++ Compile.appendCall Compile.textCall e]
  | escaped e => [margin depth ++ Compile.appendCall Script.escapeName e]
  | statement l => [margin depth ++ l]
  | block h body branches =>
    (margin depth ++ h) ::
      (allLines (depth + 1) body ++ filler (depth + 1) body ++ branchLines depth branches)

def allLines (depth : Nat) : List Part → List Text
  | [] => []
  | p :: ps => lines depth p ++ allLines depth ps

def branchLines (depth : Nat) : List Branch → List Text
  | [] => []
  | .mk h body :: bs =>
    (margin depth ++ h) ::
      (allLines (depth + 1) body ++ filler (depth + 1) body ++ branchLines depth bs)

end

/-- A line that a directive may consist of, if it is not the one that ends a block. -/
structure IsLine (l : Text) : Prop where
  ne_nil : l ≠ []
  no_break : ∀ c ∈ l, Text.isLineBreak c = false
  trimmed : Text.trim l = l
  ne_end : l ≠ "end".toList
  no_sigil : l.head? ≠ some '-' ∧ l.head? ≠ some '='
  no_close : ¬ "?>".toList <:+: l

instance (l : Text) : Decidable (IsLine l) :=
  decidable_of_iff (l ≠ [] ∧ (l.all fun c => !Text.isLineBreak c) = true ∧ Text.trim l = l ∧
      l ≠ "end".toList ∧ (l.head? ≠ some '-' ∧ l.head? ≠ some '=') ∧ ¬ "?>".toList <:+: l)
    ⟨fun ⟨hne, hbreak, htrim, hend, hsigil, hclose⟩ =>
      ⟨hne, by simpa using hbreak, htrim, hend, hsigil, hclose⟩,
      fun h => ⟨h.ne_nil, by simpa using h.no_break, h.trimmed, h.ne_end, h.no_sigil, h.no_close⟩⟩

mutual

/-- Lines are proper, heads open a block where they stand and statements do not, and exactly the heads
of branches look like going on a statement. No two literals are neighbours. -/
def Proper : Part → Prop
  | literal t => t ≠ [] ∧ ¬ "<?".toList <:+: t
  | raw e | escaped e => ¬ "?>".toList <:+: e
  | statement l =>
    IsLine l ∧ Script.Opener.indent? [l] = none ∧ Compile.isContinuation l = false
  | block h body branches =>
    IsLine h ∧ Script.Opener.indent? [h] = some [] ∧ Compile.isContinuation h = false ∧
      AllProper body ∧ BranchesProper branches

def AllProper : List Part → Prop
  | [] => True
  | p :: ps =>
    Proper p ∧ (p.isLiteral = true → ∀ q ∈ ps.head?, q.isLiteral = false) ∧ AllProper ps

def BranchesProper : List Branch → Prop
  | [] => True
  | .mk h body :: bs =>
    IsLine h ∧ Script.Opener.indent? [h] = some [] ∧ Compile.isContinuation h = true ∧
      AllProper body ∧ BranchesProper bs

end

variable {l h : Text} {ss ts : List Segment}

theorem wellFormed_cons_scriptlet (hl : ¬ "?>".toList <:+: l)
    (hsigil : l.head? ≠ some '-' ∧ l.head? ≠ some '=') (hss : Segment.WellFormed .standard ss) :
    Segment.WellFormed .standard (.scriptlet l :: ss) where
  shown := by
    intro s hs
    obtain rfl | hs := List.mem_cons.1 hs
    · exact ⟨hl, hsigil⟩
    · exact hss.shown s hs
  apart := List.isChain_cons.2 ⟨fun t _ h => by simp [Segment.isLiteral] at h, hss.apart⟩

theorem wellFormed_cons_end (hss : Segment.WellFormed .standard ss) :
    Segment.WellFormed .standard (.scriptlet Compile.blockEnd :: ss) :=
  wellFormed_cons_scriptlet (by decide) (by decide) hss

theorem wellFormed_cons_line (hl : IsLine l) (hss : Segment.WellFormed .standard ss) :
    Segment.WellFormed .standard (.scriptlet l :: ss) :=
  wellFormed_cons_scriptlet hl.no_close hl.no_sigil hss

theorem head_segments {p : Part} (hp : p.isLiteral = false) :
    ∀ s ∈ (p.segments ++ ss).head?, s.isLiteral = false := by
  cases p with
  | literal t => contradiction
  | raw e => simp [segments, Segment.isLiteral]
  | escaped e => simp [segments, Segment.isLiteral]
  | statement l => simp [segments, Segment.isLiteral]
  | block h body branches => simp [segments, Segment.isLiteral]

theorem not_infix_cons {c : Char} {e : Text} (hc : c ≠ '?') (he : ¬ "?>".toList <:+: e) :
    ¬ "?>".toList <:+: c :: e := by
  intro hin
  obtain hpre | hin := List.infix_cons_iff.1 hin
  · obtain ⟨r, hr⟩ := hpre
    exact hc (List.cons.inj hr).1.symm
  · exact he hin

mutual

theorem wellFormed_segments (p : Part) (hp : p.Proper) {ss : List Segment}
    (hss : Segment.WellFormed .standard ss)
    (hnext : p.isLiteral = true → ∀ s ∈ ss.head?, s.isLiteral = false) :
    Segment.WellFormed .standard (p.segments ++ ss) := by
  cases p with
  | literal t =>
    rw [Proper] at hp
    rw [segments]
    refine ⟨fun s hs => ?_, List.isChain_cons.2 ⟨fun s hs _ => hnext rfl s hs, hss.apart⟩⟩
    obtain rfl | hs := List.mem_cons.1 hs
    · exact hp
    · exact hss.shown s hs
  | raw e =>
    rw [Proper] at hp
    exact Segment.wellFormed_directive (b := '-' :: e) (not_infix_cons (by decide) hp) hss
  | escaped e =>
    rw [Proper] at hp
    exact Segment.wellFormed_directive (b := '=' :: e) (not_infix_cons (by decide) hp) hss
  | statement l =>
    rw [Proper] at hp
    exact wellFormed_cons_line hp.1 hss
  | block h body branches =>
    rw [Proper] at hp
    obtain ⟨hline, -, -, hbody, hbranches⟩ := hp
    have hend := wellFormed_cons_end hss
    have hrest := wellFormed_branchSegments branches hbranches hend (by simp [Segment.isLiteral])
    have := wellFormed_allSegments body hbody hrest.1 hrest.2
    simpa [segments] using wellFormed_cons_line hline this

theorem wellFormed_allSegments (ps : List Part) (hps : AllProper ps) {ss : List Segment}
    (hss : Segment.WellFormed .standard ss) (hnext : ∀ s ∈ ss.head?, s.isLiteral = false) :
    Segment.WellFormed .standard (allSegments ps ++ ss) := by
  cases ps with
  | nil => exact hss
  | cons p ps =>
    rw [AllProper] at hps
    obtain ⟨hp, hapart, hps⟩ := hps
    have hrest := wellFormed_allSegments ps hps hss hnext
    have hfollow : p.isLiteral = true →
        ∀ s ∈ (allSegments ps ++ ss).head?, s.isLiteral = false := by
      intro hlit
      cases ps with
      | nil => exact hnext
      | cons q qs =>
        rw [allSegments, List.append_assoc]
        exact head_segments (hapart hlit q rfl)
    rw [allSegments, List.append_assoc]
    exact wellFormed_segments p hp hrest hfollow

theorem wellFormed_branchSegments (bs : List Branch) (hbs : BranchesProper bs) {ss : List Segment}
    (hss : Segment.WellFormed .standard ss) (hnext : ∀ s ∈ ss.head?, s.isLiteral = false) :
    Segment.WellFormed .standard (branchSegments bs ++ ss) ∧
      ∀ s ∈ (branchSegments bs ++ ss).head?, s.isLiteral = false := by
  cases bs with
  | nil => exact ⟨hss, hnext⟩
  | cons b bs =>
    obtain ⟨h, body⟩ := b
    rw [BranchesProper] at hbs
    obtain ⟨hline, -, -, hbody, hbs⟩ := hbs
    have hrest := wellFormed_branchSegments bs hbs hss hnext
    have := wellFormed_cons_line hline (wellFormed_allSegments body hbody hrest.1 hrest.2)
    rw [branchSegments, List.cons_append, List.append_assoc]
    exact ⟨this, by simp [Segment.isLiteral]⟩

end

theorem scriptletLines_eq (hne : l ≠ []) (hl : ∀ c ∈ l, Text.isLineBreak c = false)
    (htrim : Text.trim l = l) : Scriptlet.lines l = [l] := by
  have hhead : Scriptlet.head l = l := (Scriptlet.head_eq_of_cons (Text.lines_eq_self hne hl)).trans htrim
  have hblank : Text.allBlank l = false :=
    Bool.eq_false_iff.2 fun hall => hne (htrim ▸ Text.trim_of_allBlank hall)
  have hlines := (Scriptlet.lines_eq_trim_iff_of_no_break hblank (htrim.symm ▸ hl)).2 fun hnil =>
    absurd (hhead.symm.trans hnil) hne
  rwa [htrim] at hlines

theorem segment_end (b : Body) :
    (Compile.segment b (.scriptlet Compile.blockEnd)).1 = b.closeBlock :=
  congrArg Prod.fst (Compile.segment_blockEnd b)

theorem segment_line (b : Body) (hl : IsLine l) :
    (Compile.segment b (.scriptlet l)).1 = Compile.statement b [l] := by
  have hlines := scriptletLines_eq hl.ne_nil hl.no_break hl.trimmed
  have hend : Compile.isBlockEnd [l] = false := by
    simpa [Compile.isBlockEnd, hl.trimmed, Compile.blockEnd] using hl.ne_end
  simp [Compile.segment, hlines, hend]

theorem isCode_of_indent? {i : Text} (hl : IsLine l) (hi : Script.Opener.indent? [l] = some i) :
    Body.isCode l = true := by
  rw [Body.isCode_of_trim hl.ne_nil hl.trimmed, decide_eq_true_eq]
  intro hhash
  obtain ⟨r, rfl⟩ := List.head?_eq_some_iff.1 hhash
  have hfeed : '\n' ∉ '#' :: r := fun hmem => absurd (hl.no_break _ hmem) (by decide)
  have hlines := Text.physicalLines_join (List.cons_ne_nil _ []) fun _ h =>
    List.mem_singleton.1 h ▸ hfeed
  have hstart : Script.Opener.start? ['#' :: r] = none := by
    rw [Script.Opener.start?, hlines]
    rfl
  rw [Script.Opener.indent?, hstart] at hi
  contradiction

theorem segments_append (b : Body) (ss ts : List Segment) :
    (Compile.segments b (ss ++ ts)).1 = (Compile.segments (Compile.segments b ss).1 ts).1 := by
  rw [Compile.segments_append]

theorem segments_cons (b : Body) (s : Segment) (ss : List Segment) :
    (Compile.segments b (s :: ss)).1 = (Compile.segments (Compile.segment b s).1 ss).1 := rfl

theorem margin_succ (depth : Nat) : margin (depth + 1) = margin depth ++ Scriptlet.indentStep := by
  have hstep : Scriptlet.indentStep = List.replicate 4 ' ' := rfl
  rw [margin, margin, hstep, List.replicate_append_replicate]
  congr 1

theorem statement_head {b : Body} (hl : IsLine l) (hi : Script.Opener.indent? [l] = some [])
    (hc : Compile.isContinuation l = false) :
    Compile.statement b [l] = (b.extend [b.indent ++ l] true).openBlock [] := by
  rw [Compile.statement]
  simp only [List.head?_cons, Option.any_some, hc, hi, Bool.false_eq_true, if_false]
  rw [Body.writeAll, List.foldl_cons, List.foldl_nil, Body.write_eq_extend hl.ne_nil,
    isCode_of_indent? hl hi]

/-- What the head of a branch leaves: the block before it is closed, and one is open under it. -/
theorem statement_branch {b : Body} (hl : IsLine l) (hi : Script.Opener.indent? [l] = some [])
    (hc : Compile.isContinuation l = true) :
    Compile.statement b [l] =
      (b.closeBlock.extend [b.closeBlock.indent ++ l] true).openBlock [] := by
  rw [Compile.statement]
  simp only [List.head?_cons, Option.any_some, hc, hi, if_true]
  rw [Body.writeAll, List.foldl_cons, List.foldl_nil, Body.write_eq_extend hl.ne_nil,
    isCode_of_indent? hl hi]

theorem indent_openBlock_extend {b : Body} {depth : Nat} (ls : List Text) (code : Bool)
    (hb : b.indent = margin depth) :
    ((b.extend ls code).openBlock []).indent = margin (depth + 1) := by
  rw [margin_succ, ← hb]
  have hopen : ∀ c : Body, (c.openBlock []).indent = c.indent ++ [] ++ Scriptlet.indentStep :=
    fun _ => rfl
  rw [hopen, Body.indent_extend, List.append_nil]

theorem closeBlock_of_parts {b : Body} {depth : Nat} (ls : List Text) (ps : List Part)
    (hb : b.indent = margin depth) :
    (((b.extend ls true).openBlock []).extend (allLines (depth + 1) ps)
        (!ps.all isComment)).closeBlock =
      b.extend (ls ++ (allLines (depth + 1) ps ++ filler (depth + 1) ps)) true := by
  rw [Body.closeBlock_openBlock_extend, Body.extend_extend, Body.indent_extend, hb, ← margin_succ,
    filler]
  cases ps.all isComment <;> rfl

mutual

/-- A part is written as its layout says, whatever body it is written into. -/
theorem segments_part (p : Part) (hp : p.Proper) {b : Body} {depth : Nat}
    (hb : b.indent = margin depth) :
    (Compile.segments b p.segments).1 = b.extend (p.lines depth) (!p.isComment) := by
  have hcall : ∀ t, Body.isCode (Script.bufferName ++ t) = true :=
    fun t => Body.isCode_cons _ (by decide) (by decide)
  cases p with
  | literal t =>
    have hcode : Body.isCode (Compile.literalLine t) = true := by
      rw [Compile.literalLine, List.append_assoc, List.append_assoc]
      exact hcall _
    have hne : Compile.literalLine t ≠ [] := by simp [Compile.literalLine, Script.bufferName]
    have := Body.write_eq_extend (b := b) hne
    rwa [hb, hcode] at this
  | raw e =>
    have hcode : Body.isCode (Compile.appendCall Compile.textCall e) = true := by
      simp only [Compile.appendCall, List.append_assoc]
      exact hcall _
    have hne : Compile.appendCall Compile.textCall e ≠ [] := by
      simp [Compile.appendCall, Script.bufferName]
    have := Body.write_eq_extend (b := b) hne
    rwa [hb, hcode] at this
  | escaped e =>
    have hcode : Body.isCode (Compile.appendCall Script.escapeName e) = true := by
      simp only [Compile.appendCall, List.append_assoc]
      exact hcall _
    have hne : Compile.appendCall Script.escapeName e ≠ [] := by
      simp [Compile.appendCall, Script.bufferName]
    have := Body.write_eq_extend (b := b) hne
    rwa [hb, hcode] at this
  | statement l =>
    rw [Proper] at hp
    obtain ⟨hl, hi, hc⟩ := hp
    have hcode : Body.isCode l = !(statement l).isComment := by
      rw [Body.isCode_of_trim hl.ne_nil hl.trimmed]
      simp [isComment]
    have := Body.write_eq_extend (b := b) hl.ne_nil
    rw [hb, hcode] at this
    rw [segments, segments_cons, segment_line b hl, Compile.statement]
    simpa [hc, hi, Body.writeAll, Compile.segments, lines] using this
  | block h body branches =>
    rw [Proper] at hp
    obtain ⟨hl, hi, hc, hbody, hbranches⟩ := hp
    have hinner := segments_all body hbody (indent_openBlock_extend [margin depth ++ h] true hb)
    rw [segments, segments_cons, segment_line b hl, statement_head hl hi hc, hb, segments_append,
      hinner, segments_branches branches hbranches body hb]
    rfl

theorem segments_all (ps : List Part) (hps : AllProper ps) {b : Body} {depth : Nat}
    (hb : b.indent = margin depth) :
    (Compile.segments b (allSegments ps)).1 = b.extend (allLines depth ps) (!ps.all isComment) := by
  cases ps with
  | nil => exact (Body.extend_nil b).symm
  | cons p ps =>
    rw [AllProper] at hps
    have hrest := segments_all ps hps.2.2
      (b := b.extend (p.lines depth) (!p.isComment)) (by rw [Body.indent_extend, hb])
    rw [allSegments, segments_append, segments_part p hps.1 hb, hrest, Body.extend_extend, allLines,
      List.all_cons, Bool.not_and]

theorem segments_branches (bs : List Branch) (hbs : BranchesProper bs) (ps : List Part) {b : Body}
    {depth : Nat} {ls : List Text} (hb : b.indent = margin depth) :
    (Compile.segments (((b.extend ls true).openBlock []).extend (allLines (depth + 1) ps)
        (!ps.all isComment)) (branchSegments bs ++ [.scriptlet Compile.blockEnd])).1 =
      b.extend (ls ++ (allLines (depth + 1) ps ++ filler (depth + 1) ps ++ branchLines depth bs))
        true := by
  cases bs with
  | nil =>
    rw [branchSegments, List.nil_append, segments_cons, segment_end, closeBlock_of_parts ls ps hb,
      branchLines, List.append_nil]
    rfl
  | cons branch bs =>
    obtain ⟨h, body⟩ := branch
    rw [BranchesProper] at hbs
    obtain ⟨hl, hi, hc, hbody, hbs⟩ := hbs
    have hclosed := closeBlock_of_parts ls ps hb
    have hbody' := segments_all body hbody (indent_openBlock_extend
      (ls ++ (allLines (depth + 1) ps ++ filler (depth + 1) ps) ++ [margin depth ++ h]) true hb)
    rw [branchSegments, List.cons_append, segments_cons, segment_line _ hl,
      statement_branch hl hi hc, hclosed, Body.indent_extend, hb, Body.extend_extend, Bool.true_or,
      List.append_assoc (allSegments body), segments_append, hbody',
      segments_branches bs hbs body hb, branchLines]
    simp

end

def source (ps : List Part) : Text := Segment.sourceOf .standard (allSegments ps)

/-- Compiling the text of a tree writes its layout as the body of the generated function. -/
theorem code_source_eq_layout (ps : List Part) (origin : Text) (hps : AllProper ps) :
    Compile.bodyLines (Scan.ofTemplate .standard (source ps)).segments = allLines 0 ps ∧
      (Compile.template .standard (source ps) origin).code =
        Generated.module "arg".toList (allLines 0 ps) origin := by
  have hwell := wellFormed_allSegments ps hps Segment.wellFormed_nil (by simp)
  rw [List.append_nil] at hwell
  have hscan := Scan.after_sourceOf Delimiters.standard_safe Delimiters.standard_close_unbordered
    (allSegments ps) hwell [] (by simp [Delimiters.standard]) (.inl rfl) 0
  have hsegments : (Scan.ofTemplate .standard (source ps)).segments = allSegments ps := by
    have : Scan.ofTemplate .standard (source ps) = ⟨allSegments ps, none⟩ := by
      simpa [Scan.ofTemplate, source, Scan.literal] using hscan
    rw [this]
  have hwritten := @segments_all ps hps {} 0 rfl
  have hbody : Compile.bodyLines (Scan.ofTemplate .standard (source ps)).segments =
      allLines 0 ps := by
    have hopen : (({} : Body).extend (allLines 0 ps) (!ps.all isComment)).blocks = [] := rfl
    rw [hsegments, Compile.bodyLines, hwritten, Body.closeAll, hopen, List.length_nil,
      Body.closeBlocks, Body.lines_extend]
    rfl
  exact ⟨hbody, by rw [Compile.code_template, hbody]; rfl⟩

def nested : List Part :=
  [.literal "a".toList,
    .block "for x in arg:".toList
      [.block "if x:".toList [] [.mk "else:".toList [.escaped "x".toList, .statement "y = x".toList]]]
      [.mk "else:".toList [.statement "# none".toList]],
    .raw "y".toList]

theorem code_source_nested :
    AllProper nested ∧
      Compile.bodyLines (Scan.ofTemplate .standard (source nested)).segments =
        ["    _buf.append('a')".toList,
          "    for x in arg:".toList,
          "        if x:".toList,
          "            pass".toList,
          "        else:".toList,
          "            _buf.append(_escape(x))".toList,
          "            y = x".toList,
          "    else:".toList,
          "        # none".toList,
          "        pass".toList,
          "    _buf.append(str(y))".toList] ∧
      (Compile.template .standard (source nested) "t".toList).code =
        Generated.module "arg".toList (allLines 0 nested) "t".toList := by
  have hproper : AllProper nested := by
    simp only [nested, AllProper, Proper, BranchesProper]
    decide +kernel
  obtain ⟨hlines, hcode⟩ := code_source_eq_layout nested "t".toList hproper
  exact ⟨hproper, hlines.trans (by decide +kernel), hcode⟩

end Part
end TemplateEngine
