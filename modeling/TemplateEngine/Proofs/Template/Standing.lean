import TemplateEngine.Proofs.Template.Continuation

set_option autoImplicit false

/-!
# How blocks stand

Each open block is indented under the statement that opened it, deeper than what surrounds it, and all
that is written while it is open stands in it. No block is closed without code in it. The indentation is
counted from where the statement starts. That is as far in as the statement's line is indented, unless the
statement starts with a blank: in a line that goes on another one, a blank in front of a character which
starts no token is itself taken as the first token.
-/
namespace TemplateEngine

namespace Compile

/-- How a block was opened: the number of the line with the statement, that line as it stands in its
scriptlet, where in it the statement starts, and how many lines there were then. -/
structure Origin where
  number : Nat
  line : Text
  column : Nat
  since : Nat
  deriving DecidableEq

def origin? (number : Nat) (ls : List Text) : Option Origin := do
  let (row, column) ← Script.Opener.start? ls
  return ⟨number + row, ← ls[row]?, column, number + ls.length⟩

def originsAfter (b : Body) (os : List Origin) : Segment → List Origin
  | .scriptlet s =>
    let ls := Scriptlet.lines s
    if ls = [] then os
    else if isBlockEnd ls then os.drop 1
    else if (ls.head?).any isContinuation then
      (origin? b.closeBlock.lines.length ls).toList ++ os.drop 1
    else (origin? b.lines.length ls).toList ++ os
  | _ => os

def origins (b : Body) (os : List Origin) : List Segment → List Origin
  | [] => os
  | s :: ss => origins (segment b s).1 (originsAfter b os s) ss

def Origin.startsBlank (o : Origin) : Bool := (o.line[o.column]?).any Text.isIndent

end Compile

open Compile

def Block.Holds (block : Block) (line : Text) : Prop :=
  block.indent <+: line ∧ Body.isCode line = true

structure Block.Stands (lines : List Text) (around : Text) (block : Block) (o : Origin) : Prop where
  blank : ∀ c ∈ block.indent, Text.isIndent c = true
  statement : lines[o.number]? = some (around ++ o.line)
  indent : block.indent = around ++ o.line.take o.column ++ Scriptlet.indentStep
  before : o.number < o.since
  since : o.since ≤ lines.length
  inside : ∀ l ∈ lines.drop o.since, l = [] ∨ block.indent <+: l
  filled : block.filled = true → ∃ l ∈ lines.drop o.since, block.Holds l

inductive Standing (lines : List Text) : List Block → List Origin → Prop where
  | nil : Standing lines [] []
  | cons {block : Block} {outer : List Block} {o : Origin} {os : List Origin} :
      Standing lines outer os →
      block.Stands lines (Body.indentUnder (outer.map Block.indent)) o →
      Standing lines (block :: outer) (o :: os)

namespace Block

variable {lines ms : List Text} {around : Text} {block : Block} {o : Origin}

/-- The block is one step deeper than the line of its statement, unless that starts with a blank. -/
theorem Stands.indent_eq_iff (h : block.Stands lines around o)
    (ha : ∀ c ∈ around, Text.isIndent c = true) :
    block.indent = Text.indentOf (around ++ o.line) ++ Scriptlet.indentStep ↔
      o.startsBlank = false := by
  have hstart : ∀ c ∈ o.line.take o.column, Text.isIndent c = true := by
    intro c hc
    refine h.blank c ?_
    rw [h.indent]
    simp [hc]
  have hline : Text.indentOf o.line = o.line.take o.column ++ Text.indentOf (o.line.drop o.column) := by
    conv_lhs => rw [← List.take_append_drop o.column o.line]
    exact Text.indentOf_append hstart
  have hrest : Text.indentOf (o.line.drop o.column) = [] ↔ o.startsBlank = false := by
    rw [Origin.startsBlank, ← List.head?_drop, Text.indentOf]
    cases o.line.drop o.column with
    | nil => simp
    | cons c t => cases hc : Text.isIndent c <;> simp [hc]
  rw [h.indent, Text.indentOf_append ha, hline, ← hrest, ← List.append_assoc, List.append_left_inj]
  exact List.self_eq_append_right

theorem Stands.append (h : block.Stands lines around o)
    (hms : ∀ l ∈ ms, l = [] ∨ block.indent <+: l) : block.Stands (lines ++ ms) around o where
  blank := h.blank
  statement := by
    obtain ⟨hlt, -⟩ := List.getElem?_eq_some_iff.1 h.statement
    rw [List.getElem?_append_left hlt, h.statement]
  indent := h.indent
  before := h.before
  since := by
    rw [List.length_append]
    exact Nat.le_add_right_of_le h.since
  inside l hl := by
    rw [List.drop_append_of_le_length h.since] at hl
    exact (List.mem_append.1 hl).elim (h.inside l) (hms l)
  filled hf := by
    obtain ⟨l, hl, hcode⟩ := h.filled hf
    rw [List.drop_append_of_le_length h.since]
    exact ⟨l, List.mem_append_left _ hl, hcode⟩

theorem Stands.fill {code : Bool} (h : block.Stands (lines ++ ms) around o)
    (hsince : o.since ≤ lines.length) (hcode : code = true → ∃ l ∈ ms, block.Holds l) :
    Stands (lines ++ ms) around { block with filled := block.filled || code } o where
  blank := h.blank
  statement := h.statement
  indent := h.indent
  before := h.before
  since := h.since
  inside := h.inside
  filled hf := by
    obtain hf | hf := Bool.or_eq_true_iff.1 hf
    · exact h.filled hf
    · obtain ⟨l, hl, hholds⟩ := hcode hf
      rw [List.drop_append_of_le_length hsince]
      exact ⟨l, List.mem_append_right _ hl, hholds⟩

end Block

namespace Standing

variable {b : Body} {ls ms : List Text} {blocks : List Block} {os : List Origin}

theorem drop (h : Standing ls blocks os) (n : Nat) : Standing ls (blocks.drop n) (os.drop n) := by
  induction n generalizing blocks os with
  | zero => exact h
  | succ n ih =>
    cases h with
    | nil => exact .nil
    | cons h _ => exact ih h

theorem append (h : Standing ls blocks os)
    (hms : ∀ l ∈ ms, l = [] ∨ Body.indentUnder (blocks.map Block.indent) <+: l) :
    Standing (ls ++ ms) blocks os := by
  induction h with
  | nil => exact .nil
  | @cons block outer o os _ hblock ih =>
    refine .cons (ih fun l hl => (hms l hl).imp_right fun hp => ?_) (hblock.append hms)
    have haround : Body.indentUnder (outer.map Block.indent) <+: block.indent := by
      rw [hblock.indent, List.append_assoc]
      exact List.prefix_append _ _
    exact haround.trans hp

theorem blank (h : Standing b.lines b.blocks os) : b.Blank := by
  intro block hblock
  generalize b.blocks = blocks at h hblock
  induction h with
  | nil => simp at hblock
  | cons _ hstands ih =>
    obtain rfl | hblock := List.mem_cons.1 hblock
    · exact hstands.blank
    · exact ih hblock

theorem write (h : Standing b.lines b.blocks os) (l : Text) :
    Standing (b.write l).lines (b.write l).blocks os := by
  have hblank := h.blank.indent
  have happend : Standing (b.lines ++ [if l = [] then [] else b.indent ++ l]) b.blocks os := by
    refine h.append fun m hm => ?_
    obtain rfl := List.mem_singleton.1 hm
    split
    · exact .inl rfl
    · rw [Body.indent_eq]
      exact .inr (List.prefix_append _ _)
  rw [Body.lines_write]
  unfold Body.write
  dsimp only
  cases hblocks : b.blocks with
  | nil =>
    rw [hblocks] at happend
    exact happend
  | cons block outer =>
    rw [hblocks] at h happend
    have hinner : b.indent = block.indent := by rw [Body.indent, hblocks]
    cases h with
    | cons _ hstands =>
      cases happend with
      | cons houter hblock =>
        refine .cons houter (hblock.fill hstands.since fun hcode => ?_)
        have hne : l ≠ [] := by
          rintro rfl
          exact absurd hcode (by decide)
        refine ⟨_, List.mem_singleton.2 rfl, ?_⟩
        rw [if_neg hne, Block.Holds, ← hinner]
        exact ⟨List.prefix_append _ _, (Body.isCode_append hblank l).trans hcode⟩

theorem writeAll (h : Standing b.lines b.blocks os) (ls : List Text) :
    Standing (b.writeAll ls).lines (b.writeAll ls).blocks os := by
  induction ls generalizing b with
  | nil => exact h
  | cons l ls ih => exact ih (h.write l)

/-- Before it is closed a block holds code. -/
theorem closing (h : Standing b.lines b.blocks os) {block : Block} {o : Origin}
    (hblock : b.blocks.head? = some block) (ho : os.head? = some o) :
    ∃ l ∈ b.closeBlock.lines.drop o.since, block.Holds l := by
  cases hblocks : b.blocks with
  | nil => simp [hblocks] at hblock
  | cons top outer =>
    obtain rfl : top = block := by simpa [hblocks] using hblock
    by_cases hfilled : top.filled = true
    · have hlines : b.closeBlock.lines = b.lines := by
        simp [Body.closeBlock, hblocks, hfilled, Body.lines]
      rw [hblocks] at h
      cases h with
      | cons _ hstands =>
        obtain rfl := Option.some.inj ho
        rw [hlines]
        exact hstands.filled hfilled
    · have hlines : b.closeBlock.lines = (b.write Body.pass).lines := by
        simp [Body.closeBlock, hblocks, hfilled, Body.lines]
      have hwritten := h.write Body.pass
      have htop : (b.write Body.pass).blocks =
          { top with filled := top.filled || Body.isCode Body.pass } :: outer := by
        simp [Body.write, hblocks]
      rw [htop] at hwritten
      cases hwritten with
      | cons _ hstands =>
        obtain rfl := Option.some.inj ho
        rw [hlines]
        exact hstands.filled (by simp [show Body.isCode Body.pass = true by decide])

theorem closeBlock (h : Standing b.lines b.blocks os) :
    Standing b.closeBlock.lines b.closeBlock.blocks (os.drop 1) := by
  unfold Body.closeBlock
  cases hblocks : b.blocks with
  | nil =>
    rw [hblocks] at h
    cases h
    simpa [hblocks] using Standing.nil
  | cons block outer =>
    dsimp only
    split
    · exact h.drop 1
    · exact (h.write Body.pass).drop 1

theorem closeBlocks (h : Standing b.lines b.blocks os) (n : Nat) :
    Standing (b.closeBlocks n).lines (b.closeBlocks n).blocks (os.drop n) := by
  induction n generalizing b os with
  | zero => exact h
  | succ n ih =>
    have hnext := ih h.closeBlock
    rw [List.drop_drop, Nat.add_comm] at hnext
    exact hnext

/-- Lines are written, and then the block is opened that their last statement opens. -/
theorem openLast (h : Standing b.lines b.blocks os)
    (hls : ∀ l ∈ ls, ∀ c ∈ l, Text.isLineBreak c = false) :
    Standing (openLast (b.writeAll ls) ls).lines (openLast (b.writeAll ls) ls).blocks
      ((origin? b.lines.length ls).toList ++ os) := by
  have hwritten := h.writeAll ls
  have hlines := Body.lines_writeAll b ls
  have hindents : (b.writeAll ls).indent = b.indent := by
    rw [Body.indent_eq, Body.indent_eq, Body.indents_writeAll]
  unfold Compile.openLast
  cases hoffset : Script.Opener.indent? ls with
  | none =>
    have hnone : origin? b.lines.length ls = none := by
      unfold Script.Opener.indent? at hoffset
      unfold origin?
      cases hstart : Script.Opener.start? ls with
      | none => rfl
      | some start =>
        obtain ⟨row, column⟩ := start
        cases hl : ls[row]? with
        | none => simp [hl]
        | some l => simp [hstart, hl] at hoffset
    rw [hnone]
    exact hwritten
  | some offset =>
    have hblank := Body.isIndent_of_indent? hls hoffset
    obtain ⟨⟨row, column⟩, hstart, hrow⟩ := Option.bind_eq_some_iff.1 hoffset
    obtain ⟨l, hl, htake⟩ := Option.bind_eq_some_iff.1 hrow
    obtain rfl := Option.some.inj htake
    have horigin : origin? b.lines.length ls =
        some ⟨b.lines.length + row, l, column, b.lines.length + ls.length⟩ := by
      simp [origin?, hstart, hl]
    have hrowlt : row < ls.length := (List.getElem?_eq_some_iff.1 hl).1
    have hlength : (b.writeAll ls).lines.length = b.lines.length + ls.length := by
      rw [hlines, List.length_append, List.length_map]
    have hne : l ≠ [] := by
      refine Script.Opener.hasText_of_start? (fun m hm hc => ?_) hstart hl
      exact absurd (hls m hm _ hc) (by decide)
    rw [horigin]
    refine .cons hwritten ⟨?_, ?_, ?_, Nat.add_lt_add_left hrowlt _, Nat.le_of_eq hlength.symm, ?_, nofun⟩
    · exact (hwritten.blank.openBlock hblank) _ List.mem_cons_self
    · rw [Body.lines_openBlock, hlines, List.getElem?_append_right (Nat.le_add_right _ _)]
      simp only [Nat.add_sub_cancel_left, List.getElem?_map, hl, Option.map_some, if_neg hne]
      rw [← hindents, Body.indent_eq]
      rfl
    · rw [Body.indent_eq]
      rfl
    · intro m hm
      rw [Body.lines_openBlock, List.drop_of_length_le (Nat.le_of_eq hlength)] at hm
      simp at hm

theorem segment (h : Standing b.lines b.blocks os) (s : Segment) :
    Standing (segment b s).1.lines (segment b s).1.blocks (originsAfter b os s) := by
  cases s with
  | literal t => exact h.write _
  | raw e => exact h.write _
  | escaped e => exact h.write _
  | scriptlet s =>
    have hls : ∀ l ∈ Scriptlet.lines s, ∀ c ∈ l, Text.isLineBreak c = false :=
      fun l hl => Scriptlet.no_break_of_mem_lines hl
    unfold Compile.segment originsAfter
    dsimp only
    split
    · exact h
    · split
      · exact h.closeBlock
      · rw [statement_eq]
        dsimp only
        split
        · exact h.closeBlock.openLast hls
        · exact h.openLast hls

theorem segments (h : Standing b.lines b.blocks os) (ss : List Segment) :
    Standing (segments b ss).1.lines (segments b ss).1.blocks (origins b os ss) := by
  induction ss generalizing b os with
  | nil => exact h
  | cons s ss ih => exact ih (h.segment s)

theorem getElem? (h : Standing ls blocks os) {j : Nat} {block : Block} {o : Origin}
    (hblock : blocks[j]? = some block) (ho : os[j]? = some o) :
    ∃ around, (∀ c ∈ around, Text.isIndent c = true) ∧ block.Stands ls around o := by
  induction h generalizing j with
  | nil => simp at hblock
  | @cons top outer o' os houter hstands ih =>
    cases j with
    | zero =>
      obtain rfl : top = block := by simpa using hblock
      obtain rfl : o' = o := by simpa using ho
      refine ⟨_, fun c hc => hstands.blank c ?_, hstands⟩
      rw [hstands.indent]
      simp [hc]
    | succ j => exact ih (by simpa using hblock) (by simpa using ho)

end Standing

/-- All blocks of a body stand, each one step deeper than the line of its statement unless that starts
with a blank, and the innermost one will hold code when it is closed. -/
structure Body.Stands (b : Body) (os : List Origin) : Prop where
  blocks : Standing b.lines b.blocks os
  deeper : ∀ (j : Nat) (block : Block) (o : Origin), b.blocks[j]? = some block → os[j]? = some o →
    ∃ line, b.lines[o.number]? = some line ∧
      (block.indent = Text.indentOf line ++ Scriptlet.indentStep ↔ o.startsBlank = false)
  closing : ∀ (block : Block) (o : Origin), b.blocks.head? = some block → os.head? = some o →
    ∃ l ∈ b.closeBlock.lines.drop o.since, block.Holds l

theorem Standing.stands {b : Body} {os : List Origin} (h : Standing b.lines b.blocks os) :
    b.Stands os where
  blocks := h
  deeper j block o hblock ho := by
    obtain ⟨around, haround, hstands⟩ := h.getElem? hblock ho
    exact ⟨_, hstands.statement, hstands.indent_eq_iff haround⟩
  closing _ _ := h.closing

namespace Compile

def bodyAfter (ss : List Segment) (closed : Nat) : Body := (segments {} ss).1.closeBlocks closed

def originsOf (ss : List Segment) (closed : Nat) : List Origin := (origins {} [] ss).drop closed

/-- In the making of any module all blocks stand, after each segment and after each block that the end of
the template closes, and no block is open in the end. -/
theorem blocks_stand (d : Delimiters) (source origin : Text) :
    (∀ n k, (bodyAfter ((Scan.ofTemplate d source).segments.take n) k).Stands
      (originsOf ((Scan.ofTemplate d source).segments.take n) k)) ∧
    ∃ k, (bodyAfter (Scan.ofTemplate d source).segments k).blocks = [] ∧
      (template d source origin).code = Generated.module d.contextName
        (bodyAfter (Scan.ofTemplate d source).segments k).lines origin := by
  refine ⟨fun n k => ?_, (segments {} (Scan.ofTemplate d source).segments).1.blocks.length, ?_, rfl⟩
  · have hnothing : Standing ({} : Body).lines ({} : Body).blocks [] := .nil
    exact ((hnothing.segments ((Scan.ofTemplate d source).segments.take n)).closeBlocks k).stands
  · exact Body.blocks_closeAll _

/-- Three lines joined by backslashes. The first token is a blank in front of a character that starts no
token. -/
def blankSource : Text := "<?\\\n  $\\\nx:?>A".toList

/-- The block is one step deeper than what surrounds it, and not deeper than the line of its statement. -/
theorem blocks_stand_blank : ∃ block ∈ (bodyAfter (Scan.ofTemplate .standard blankSource).segments 0).blocks,
    (bodyAfter (Scan.ofTemplate .standard blankSource).segments 0).lines[1]? =
      some "      $\\".toList ∧
    block.indent = "        ".toList ∧
    block.indent ≠ Text.indentOf "      $\\".toList ++ Scriptlet.indentStep := by
  have hstands := (blocks_stand .standard blankSource []).1 2 0
  have hsegments : (Scan.ofTemplate .standard blankSource).segments.take 2 =
      (Scan.ofTemplate .standard blankSource).segments := by decide +kernel
  rw [hsegments] at hstands
  have hblocks : (bodyAfter (Scan.ofTemplate .standard blankSource).segments 0).blocks =
      [⟨"        ".toList, true⟩] := by decide +kernel
  have horigins : originsOf (Scan.ofTemplate .standard blankSource).segments 0 =
      [⟨1, "  $\\".toList, 0, 3⟩] := by decide +kernel
  have hline : (bodyAfter (Scan.ofTemplate .standard blankSource).segments 0).lines[1]? =
      some "      $\\".toList := by decide +kernel
  obtain ⟨line, hat, hiff⟩ := hstands.deeper 0 ⟨"        ".toList, true⟩ _ (by rw [hblocks]; rfl)
    (by rw [horigins]; rfl)
  obtain rfl := Option.some.inj (hline.symm.trans hat)
  refine ⟨⟨"        ".toList, true⟩, by rw [hblocks]; exact List.mem_singleton.2 rfl, hline, rfl,
    fun he => ?_⟩
  exact absurd (hiff.1 he) (by decide)

end Compile
end TemplateEngine
