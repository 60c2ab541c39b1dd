import TemplateEngine.Compile
import TemplateEngine.Proofs.Text.WhiteSpace

set_option autoImplicit false

/-!
# Writing into a body

Writing looks at the open blocks only, and adds lines behind those that are there. Within a block it
changes nothing else but the note that the block holds code.
-/
namespace TemplateEngine

namespace Body

/-- A line that starts with code and not with white space. -/
theorem isCode_cons {c : Char} (t : Text) (hblank : Text.isBlank c = false) (hc : c ≠ '#') :
    isCode (c :: t) = true := by
  obtain ⟨u, hu⟩ := Text.head?_trimEndBy t hblank
  have htrim : Text.trim (c :: t) = c :: u := by
    rw [Text.trim, Text.trimStart, Text.trimStartBy, List.dropWhile_cons_of_neg (by simp [hblank])]
    exact hu
  unfold isCode
  rw [htrim]
  split
  · contradiction
  · next h => exact absurd (List.cons.inj h).1 hc
  · rfl

theorem isCode_append {i : Text} (hi : ∀ c ∈ i, Text.isIndent c = true) (l : Text) :
    isCode (i ++ l) = isCode l := by
  rw [isCode, Text.trim_append (Text.allBlank_of_all_isIndent (List.all_eq_true.2 hi))]
  rfl

theorem isCode_of_allBlank {l : Text} (h : Text.allBlank l = true) : isCode l = false := by
  rw [isCode, Text.trim_of_allBlank h]

theorem isCode_trimEnd (l : Text) : isCode (Text.trimEnd l) = isCode l := by
  rw [isCode, Text.trim_trimEnd]
  rfl

/-- A trimmed line is code unless it is a comment. -/
theorem isCode_of_trim {l : Text} (hne : l ≠ []) (htrim : Text.trim l = l) :
    isCode l = decide (l.head? ≠ some '#') := by
  unfold isCode
  rw [htrim]
  cases l with
  | nil => contradiction
  | cons c t =>
    by_cases hc : c = '#'
    · simp [hc]
    · simp [hc]

def extend (b : Body) (ls : List Text) (code : Bool) : Body where
  written := b.written ++ ls.toArray
  blocks :=
    match b.blocks with
    | [] => []
    | block :: outer => { block with filled := block.filled || code } :: outer

variable {b : Body} {ls ms : List Text} {code more : Bool}

theorem extend_nil (b : Body) : b.extend [] false = b := by
  obtain ⟨written, blocks⟩ := b
  cases blocks <;> simp [extend]

theorem extend_extend :
    (b.extend ls code).extend ms more = b.extend (ls ++ ms) (code || more) := by
  obtain ⟨written, blocks⟩ := b
  cases blocks <;> simp [extend, Bool.or_assoc]

@[simp] theorem indent_extend : (b.extend ls code).indent = b.indent := by
  unfold extend indent
  cases b.blocks <;> rfl

@[simp] theorem lines_extend : (b.extend ls code).lines = b.lines ++ ls := by
  simp [extend, lines]

theorem write_eq_extend {l : Text} (hl : l ≠ []) :
    b.write l = b.extend [b.indent ++ l] (isCode l) := by
  obtain ⟨written, blocks⟩ := b
  cases blocks <;> simp [write, extend, hl]

/-- Closing a block that was opened under a statement and written into gives back the body around it,
with the lines of the block and one that fills it if there is no code among them. -/
theorem closeBlock_openBlock_extend :
    ((b.openBlock []).extend ls code).closeBlock =
      b.extend (ls ++ if code then [] else [b.indent ++ Scriptlet.indentStep ++ pass]) false := by
  obtain ⟨written, blocks⟩ := b
  have hpass : pass ≠ [] := by decide
  cases code <;> cases blocks <;>
    simp [openBlock, extend, closeBlock, write, indent, hpass]

/-- A change that looks at the open blocks only, and adds lines. -/
def Appends (f : Body → Body) : Prop :=
  ∀ b c, b.blocks = c.blocks → (f b).blocks = (f c).blocks ∧
    ∃ ls, (f b).lines = b.lines ++ ls ∧ (f c).lines = c.lines ++ ls

namespace Appends

variable {f g : Body → Body}

theorem id : Appends fun b => b := fun _ _ h => ⟨h, [], by simp, by simp⟩

theorem comp (hg : Appends g) (hf : Appends f) : Appends fun b => g (f b) := by
  intro b c h
  obtain ⟨hblocks, ls, hb, hc⟩ := hf b c h
  obtain ⟨hblocks', ms, hb', hc'⟩ := hg (f b) (f c) hblocks
  exact ⟨hblocks', ls ++ ms, by rw [hb', hb, List.append_assoc], by rw [hc', hc, List.append_assoc]⟩

theorem write (l : Text) : Appends fun b => b.write l := by
  intro b c h
  have hindent : b.indent = c.indent := by simp [indent, h]
  exact ⟨by simp [Body.write, h], _, lines_write b l, by rw [lines_write c l, hindent]⟩

theorem writeAll (ls : List Text) : Appends fun b => b.writeAll ls := by
  induction ls with
  | nil => exact id
  | cons l ls ih => exact ih.comp (write l)

theorem openBlock (offset : Text) : Appends fun b => b.openBlock offset := by
  intro b c h
  exact ⟨by simp [Body.openBlock, indent, h], [], by simp [Body.openBlock, lines],
    by simp [Body.openBlock, lines]⟩

theorem closeBlock : Appends Body.closeBlock := by
  intro b c h
  unfold Body.closeBlock
  rw [← h]
  cases hb : b.blocks with
  | nil => exact ⟨h, [], by simp, by simp⟩
  | cons block outer =>
    dsimp only
    split
    · exact ⟨by simp [← h, hb], [], by simp [lines], by simp [lines]⟩
    · obtain ⟨hblocks, ls, hlb, hlc⟩ := write pass b c h
      dsimp only at hblocks hlb hlc
      exact ⟨by rw [hblocks], ls, hlb, hlc⟩

theorem closeBlocks (n : Nat) : Appends fun b => b.closeBlocks n := by
  induction n with
  | zero => exact id
  | succ n ih => exact ih.comp closeBlock

theorem closeAll : Appends Body.closeAll := by
  intro b c h
  unfold Body.closeAll
  rw [← h]
  exact closeBlocks b.blocks.length b c h

theorem statement (ls : List Text) : Appends fun b => Compile.statement b ls := by
  have hclose : Appends fun b =>
      if (ls.head?).any Compile.isContinuation then b.closeBlock else b := by
    split
    · exact closeBlock
    · exact id
  unfold Compile.statement
  cases Script.Opener.indent? ls with
  | none => exact (writeAll ls).comp hclose
  | some offset => exact (openBlock offset).comp ((writeAll ls).comp hclose)

theorem segment (s : Segment) : Appends fun b => (Compile.segment b s).1 := by
  cases s with
  | literal t => exact write (Compile.literalLine t)
  | raw e => exact write (Compile.appendCall Compile.textCall e)
  | escaped e => exact write (Compile.appendCall Script.escapeName e)
  | scriptlet body =>
    by_cases hempty : Scriptlet.lines body = []
    · simpa only [Compile.segment, hempty, if_true] using id
    · by_cases hend : Compile.isBlockEnd (Scriptlet.lines body) = true
      · simpa only [Compile.segment, hempty, hend, if_true, if_false] using closeBlock
      · simpa only [Compile.segment, hempty, hend, Bool.false_eq_true, if_false] using
          statement (Scriptlet.lines body)

end Appends
end Body

namespace Compile

theorem segment_blockEnd (b : Body) : segment b (.scriptlet blockEnd) =
    (b.closeBlock, if b.blocks = [] then [.strayEnd] else []) := by
  have hlines : Scriptlet.lines blockEnd = [blockEnd] := by decide +kernel
  have hend : isBlockEnd [blockEnd] = true := by decide
  simp [segment, hlines, hend]

theorem segments_append (b : Body) (ss ts : List Segment) : segments b (ss ++ ts) =
    ((segments (segments b ss).1 ts).1, (segments b ss).2 ++ (segments (segments b ss).1 ts).2) := by
  induction ss generalizing b with
  | nil => rfl
  | cons s ss ih => simp only [List.cons_append, segments, ih, List.append_assoc]

end Compile
end TemplateEngine
