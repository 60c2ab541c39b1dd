import TemplateEngine.Proofs.Generated.DataLines
import TemplateEngine.Proofs.Template.Tree

set_option autoImplicit false

/-!
# Where a branch is written

A branch closes the innermost open block and is then written as far in as what surrounds that block.
This is as far in as the statement that opened the block only if that statement is not indented within
its own scriptlet. If it is, as an `if` below a `for` in one scriptlet, the branch goes on the statement
around it: here on the `for`.
-/
namespace TemplateEngine

namespace Body

variable {b : Body}

def indents (b : Body) : List Text := b.blocks.map Block.indent

def indentUnder : List Text → Text
  | [] => Scriptlet.indentStep
  | i :: _ => i

theorem indent_eq (b : Body) : b.indent = indentUnder b.indents := by
  unfold indent indents
  cases b.blocks <;> rfl

@[simp] theorem indents_write (b : Body) (l : Text) : (b.write l).indents = b.indents := by
  unfold write indents
  cases b.blocks <;> rfl

@[simp] theorem indents_writeAll (b : Body) (ls : List Text) : (b.writeAll ls).indents = b.indents := by
  induction ls generalizing b with
  | nil => rfl
  | cons l ls ih => exact (ih (b.write l)).trans (indents_write b l)

theorem indents_openBlock (b : Body) (offset : Text) : (b.openBlock offset).indents =
    (b.indent ++ offset ++ Scriptlet.indentStep) :: b.indents := rfl

theorem indents_closeBlock (b : Body) : b.closeBlock.indents = b.indents.drop 1 := by
  have hdrop : ∀ c : Body, indents { c with blocks := c.blocks.drop 1 } = c.indents.drop 1 :=
    fun c => List.map_drop
  unfold closeBlock
  split
  · next h => simp [indents, h]
  · dsimp only
    rw [hdrop]
    split
    · rfl
    · rw [indents_write]

theorem lines_writeAll (b : Body) (ls : List Text) : (b.writeAll ls).lines =
    b.lines ++ ls.map fun l => if l = [] then [] else b.indent ++ l := by
  induction ls generalizing b with
  | nil => simp [writeAll]
  | cons l ls ih =>
    have hstep : b.writeAll (l :: ls) = (b.write l).writeAll ls := rfl
    rw [hstep, ih, lines_write, indent_write]
    simp

theorem lines_openBlock (b : Body) (offset : Text) : (b.openBlock offset).lines = b.lines := rfl

theorem Blank.segments (hb : b.Blank) (ss : List Segment) : (Compile.segments b ss).1.Blank := by
  induction ss generalizing b with
  | nil => exact hb
  | cons s ss ih => exact ih (hb.segment s)

theorem Appends.getElem? {f : Body → Body} (hf : Appends f) {k : Nat} {l : Text}
    (h : b.lines[k]? = some l) : (f b).lines[k]? = some l := by
  obtain ⟨-, ls, hls, -⟩ := hf b b rfl
  obtain ⟨hk, -⟩ := List.getElem?_eq_some_iff.1 h
  rw [hls, List.getElem?_append_left hk, h]

end Body

namespace Compile

/-- The line with the statement that opened a block: its number in the body, and how it stands in the
statement's scriptlet. -/
structure Opening where
  number : Nat
  line : Text
  deriving DecidableEq

def opening? (number : Nat) (ls : List Text) : Option Opening := do
  let (row, _) ← Script.Opener.start? ls
  return ⟨number + row, ← ls[row]?⟩

def openingsAfter (b : Body) (os : List Opening) : Segment → List Opening
  | .scriptlet s =>
    let ls := Scriptlet.lines s
    if ls = [] then os
    else if isBlockEnd ls then os.drop 1
    else if (ls.head?).any isContinuation then
      (opening? b.closeBlock.lines.length ls).toList ++ os.drop 1
    else (opening? b.lines.length ls).toList ++ os
  | _ => os

def openings (b : Body) (os : List Opening) : List Segment → List Opening
  | [] => os
  | s :: ss => openings (segment b s).1 (openingsAfter b os s) ss

/-- Each block has an opening, whose line stands in the body under what surrounds the block; the block is
one step deeper than the blanks in front of the statement. -/
inductive Opened (lines : List Text) : List Text → List Opening → Prop where
  | nil : Opened lines [] []
  | cons {indents : List Text} {os : List Opening} {o : Opening} {offset : Text} :
      Opened lines indents os → lines[o.number]? = some (Body.indentUnder indents ++ o.line) →
      offset <+: o.line →
      Opened lines ((Body.indentUnder indents ++ offset ++ Scriptlet.indentStep) :: indents) (o :: os)

variable {b : Body} {os : List Opening} {ls : List Text}

theorem Opened.of_appends {f : Body → Body} (hf : Body.Appends f) {indents : List Text}
    (h : Opened b.lines indents os) : Opened (f b).lines indents os := by
  induction h with
  | nil => exact .nil
  | cons _ hline hoffset ih => exact .cons ih (hf.getElem? hline) hoffset

theorem Opened.drop {lines indents : List Text} (h : Opened lines indents os) (n : Nat) :
    Opened lines (indents.drop n) (os.drop n) := by
  induction n generalizing indents os with
  | zero => exact h
  | succ n ih =>
    cases h with
    | nil => exact .nil
    | cons h _ _ => exact ih h

theorem Opened.closeBlock (h : Opened b.lines b.indents os) :
    Opened b.closeBlock.lines b.closeBlock.indents (os.drop 1) := by
  rw [Body.indents_closeBlock]
  exact (h.drop 1).of_appends Body.Appends.closeBlock

def openLast (b : Body) (ls : List Text) : Body :=
  match Script.Opener.indent? ls with
  | some offset => b.openBlock offset
  | none => b

theorem statement_eq (b : Body) (ls : List Text) : statement b ls =
    openLast ((if (ls.head?).any isContinuation then b.closeBlock else b).writeAll ls) ls := rfl

theorem Opened.writeAll (h : Opened b.lines b.indents os) (hls : ∀ l ∈ ls, '\n' ∉ l) :
    Opened (openLast (b.writeAll ls) ls).lines (openLast (b.writeAll ls) ls).indents
      ((opening? b.lines.length ls).toList ++ os) := by
  have hwritten : Opened (b.writeAll ls).lines (b.writeAll ls).indents os := by
    rw [Body.indents_writeAll]
    exact h.of_appends (Body.Appends.writeAll ls)
  unfold openLast Script.Opener.indent? opening?
  cases hstart : Script.Opener.start? ls with
  | none => exact hwritten
  | some start =>
    obtain ⟨row, column⟩ := start
    cases hl : ls[row]? with
    | none => simpa [hl] using hwritten
    | some l =>
      have hne := Script.Opener.hasText_of_start? hls hstart hl
      have hline : (b.writeAll ls).lines[b.lines.length + row]? =
          some (Body.indentUnder (b.writeAll ls).indents ++ l) := by
        rw [Body.lines_writeAll, List.getElem?_append_right (by omega), Body.indents_writeAll,
          ← Body.indent_eq]
        simp [hl, hne]
      simp only [hl, Option.bind_eq_bind, Option.bind_some, Option.pure_def]
      rw [Body.lines_openBlock, Body.indents_openBlock, Body.indent_eq]
      exact .cons hwritten hline (List.take_prefix column l)

theorem Opened.segment (h : Opened b.lines b.indents os) (s : Segment) :
    Opened (segment b s).1.lines (segment b s).1.indents (openingsAfter b os s) := by
  have hwrite : ∀ l, Opened (b.write l).lines (b.write l).indents os := by
    intro l
    rw [Body.indents_write]
    exact h.of_appends (Body.Appends.write l)
  cases s with
  | literal t => exact hwrite _
  | raw e => exact hwrite _
  | escaped e => exact hwrite _
  | scriptlet s =>
    have hls : ∀ l ∈ Scriptlet.lines s, '\n' ∉ l := fun l hl hc =>
      absurd (Scriptlet.no_break_of_mem_lines hl _ hc) (by decide)
    unfold Compile.segment openingsAfter
    dsimp only
    split
    · exact h
    · split
      · exact h.closeBlock
      · rw [statement_eq]
        dsimp only
        split
        · exact h.closeBlock.writeAll hls
        · exact h.writeAll hls

theorem Opened.segments (h : Opened b.lines b.indents os) (ss : List Segment) :
    Opened (segments b ss).1.lines (segments b ss).1.indents (openings b os ss) := by
  induction ss generalizing b os with
  | nil => exact h
  | cons s ss ih => exact ih (h.segment s)

theorem word_of_isContinuation {first : Text} (h : isContinuation first = true) :
    ∃ word ∈ ["elif", "else", "except", "finally"].map String.toList, word <+: first := by
  have hprefix : ∀ (word : Text) (q : Text → Bool), (behind? word first).any q = true →
      word <+: first := by
    intro word q hq
    unfold behind? at hq
    split at hq
    · next hp => exact List.isPrefixOf_iff_prefix.1 hp
    · contradiction
  simp only [isContinuation, Bool.or_eq_true] at h
  obtain ((h | h) | h) | h := h
  · exact ⟨_, by simp, hprefix "elif".toList _ h⟩
  · exact ⟨_, by simp, hprefix "else".toList _ h⟩
  · exact ⟨_, by simp, hprefix "except".toList _ h⟩
  · exact ⟨_, by simp, hprefix "finally".toList _ h⟩

theorem form_of_isContinuation {first : Text} (h : isContinuation first = true) (rest : List Text) :
    first ≠ [] ∧ Text.indentOf first = [] ∧ isBlockEnd (first :: rest) = false := by
  obtain ⟨word, hword, t, rfl⟩ := word_of_isContinuation h
  have hform : ∀ c d : Char, Text.isBlank c = false → Text.isIndent c = false →
      d ≠ 'n' → ∀ u, c :: d :: u ≠ [] ∧ Text.indentOf (c :: d :: u) = [] ∧
        isBlockEnd ((c :: d :: u) :: rest) = false := by
    intro c d hblank hindent hd u
    refine ⟨by simp, by simp [Text.indentOf, hindent], ?_⟩
    cases rest with
    | cons m rest => rfl
    | nil =>
      have htrim : Text.trimStart (c :: d :: u) = c :: d :: u := by
        simp [Text.trimStart, Text.trimStartBy, hblank]
      have hprefix := Text.trimEnd_prefix_self (c :: d :: u)
      refine decide_eq_false fun hend => ?_
      rw [Text.trim, htrim] at hend
      rw [hend] at hprefix
      have hnext := (List.cons_prefix_cons.1 hprefix).2
      exact hd (List.cons_prefix_cons.1 hnext).1.symm
  simp only [List.map_cons, List.map_nil, List.mem_cons, List.not_mem_nil, or_false] at hword
  obtain rfl | rfl | rfl | rfl := hword
  · exact hform 'e' 'l' (by decide) (by decide) (by decide) _
  · exact hform 'e' 'l' (by decide) (by decide) (by decide) _
  · exact hform 'e' 'x' (by decide) (by decide) (by decide) _
  · exact hform 'f' 'i' (by decide) (by decide) (by decide) _

/-- Lines of the body stay in the module to the end of the template. -/
theorem getElem?_bodyLines {ss : List Segment} {k : Nat} {l : Text}
    (h : b.lines[k]? = some l) : (segments b ss).1.closeAll.lines[k]? = some l := by
  refine Body.Appends.closeAll.getElem? ?_
  induction ss generalizing b with
  | nil => exact h
  | cons s ss ih => exact ih ((Body.Appends.segment s).getElem? h)

theorem getElem?_segment_of_isContinuation {s first : Text} {rest : List Text}
    (hs : Scriptlet.lines s = first :: rest) (hc : isContinuation first = true) :
    (segment b (.scriptlet s)).1.lines[b.closeBlock.lines.length]? =
      some (b.closeBlock.indent ++ first) := by
  obtain ⟨hne, -, hend⟩ := form_of_isContinuation hc rest
  have hlines : (segment b (.scriptlet s)).1 = openLast (b.closeBlock.writeAll (first :: rest))
      (first :: rest) := by
    simp [segment, hs, hend, statement_eq, hc]
  have hwritten : (b.closeBlock.writeAll (first :: rest)).lines[b.closeBlock.lines.length]? =
      some (b.closeBlock.indent ++ first) := by
    rw [Body.lines_writeAll, List.getElem?_append_right (Nat.le_refl _)]
    simp [hne]
  rw [hlines, openLast]
  split
  · exact hwritten
  · exact hwritten

/-- Where a branch is written, in the code of any template: under what surrounds the block that it
closes. The statement that opened the block stands there too, and is indented alike exactly if it is not
indented within its scriptlet. -/
theorem indentOf_continuation (d : Delimiters) (source origin : Text) {before after : List Segment}
    {s first : Text} {rest : List Text}
    (hsegments : (Scan.ofTemplate d source).segments = before ++ .scriptlet s :: after)
    (hs : Scriptlet.lines s = first :: rest) (hc : isContinuation first = true)
    (hb : (segments {} before).1 = b) (hopen : b.blocks ≠ []) :
    ∃ (lines : List Text) (o : Opening) (os : List Opening),
      (template d source origin).code = Generated.module d.contextName lines origin ∧
      openings {} [] before = o :: os ∧
      lines[o.number]? = some (b.closeBlock.indent ++ o.line) ∧
      lines[b.closeBlock.lines.length]? = some (b.closeBlock.indent ++ first) ∧
      Text.indentOf (b.closeBlock.indent ++ first) = b.closeBlock.indent ∧
      (Text.indentOf (b.closeBlock.indent ++ first) = Text.indentOf (b.closeBlock.indent ++ o.line) ↔
        Text.indentOf o.line = []) := by
  have hopened : Opened b.lines b.indents (openings {} [] before) :=
    hb ▸ Opened.segments .nil before
  have hblank : b.Blank := hb ▸ Body.Blank.segments (fun block hblock => by simp at hblock) before
  have hall : (segments {} (before ++ .scriptlet s :: after)).1 =
      (segments (segment b (.scriptlet s)).1 after).1 := by
    rw [Part.segments_append, Part.segments_cons, hb]
  obtain ⟨i, is, hindents⟩ := List.exists_cons_of_ne_nil
    (show b.indents ≠ [] by simpa [Body.indents] using hopen)
  have haround : b.closeBlock.indent = Body.indentUnder is := by
    rw [Body.indent_eq, Body.indents_closeBlock, hindents]
    rfl
  have hindent : ∀ c ∈ b.closeBlock.indent, Text.isIndent c = true := hblank.closeBlock.indent
  have hbranch : Text.indentOf (b.closeBlock.indent ++ first) = b.closeBlock.indent := by
    rw [Text.indentOf_append hindent, (form_of_isContinuation hc rest).2.1, List.append_nil]
  generalize openings {} [] before = os at hopened ⊢
  rw [hindents] at hopened
  cases hopened with
  | @cons _ os o offset _ hline _ =>
    rw [← haround] at hline
    refine ⟨bodyLines (before ++ .scriptlet s :: after), o, os, ?_, rfl, ?_, ?_, hbranch, ?_⟩
    · rw [code_template, hsegments]
    · rw [bodyLines, hall]
      exact getElem?_bodyLines ((Body.Appends.segment (.scriptlet s)).getElem? hline)
    · rw [bodyLines, hall]
      exact getElem?_bodyLines (getElem?_segment_of_isContinuation hs hc)
    · rw [hbranch, Text.indentOf_append hindent]
      exact List.self_eq_append_right

def nestedSource : Text := "<?for n in arg:\n    if n:?>A<?else:?>B<?end?>".toList

/-- The branch stands below the loop and not below the test, whose block it closes. -/
theorem indentOf_continuation_nested : ∃ (lines : List Text) (k m : Nat),
    (template .standard nestedSource []).code = Generated.module "arg".toList lines [] ∧
    lines[k]? = some "        if n:".toList ∧ lines[m]? = some "    else:".toList ∧
    Text.indentOf "    else:".toList ≠ Text.indentOf "        if n:".toList := by
  have hsegments : (Scan.ofTemplate .standard nestedSource).segments =
      [.scriptlet "for n in arg:\n    if n:".toList, .literal ['A']] ++
        .scriptlet "else:".toList :: [.literal ['B'], .scriptlet "end".toList] := by
    decide +kernel
  have hopenings : openings {} []
      [.scriptlet "for n in arg:\n    if n:".toList, .literal ['A']] =
        [⟨1, "    if n:".toList⟩] := by
    decide +kernel
  obtain ⟨lines, o, os, hcode, hos, ho, hfirst, -, hiff⟩ := indentOf_continuation .standard
    nestedSource [] hsegments
    (show Scriptlet.lines "else:".toList = ["else:".toList] by decide +kernel) (by decide +kernel) rfl
    (by decide +kernel)
  obtain ⟨rfl, -⟩ := List.cons.inj (hopenings.symm.trans hos)
  have haround : (segments {} [.scriptlet "for n in arg:\n    if n:".toList,
      .literal ['A']]).1.closeBlock.indent = "    ".toList := by
    decide +kernel
  rw [haround] at ho hfirst hiff
  exact ⟨lines, _, _, hcode, ho, hfirst, fun h => absurd (hiff.1 h) (by decide)⟩

end Compile
end TemplateEngine
