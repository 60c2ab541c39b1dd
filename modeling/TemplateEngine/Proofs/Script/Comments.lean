import TemplateEngine.Proofs.Script.Alone
import TemplateEngine.Proofs.Script.StatementStart

set_option autoImplicit false

/-!
# Comments and blank lines

Lines that scan leave no string and no bracket open and are not to be joined with what follows. Where
that is so, a line without code yields nothing, however it is indented and whatever its comment says.
-/
namespace TemplateEngine.Script

namespace LineScan

/-- A line without code: blanks, perhaps with a comment behind them. -/
def IsIdle (l : Text) : Prop :=
  ∃ blanks comment, l = blanks ++ comment ∧ (∀ c ∈ blanks, isGap c = true) ∧
    (comment = [] ∨ comment.head? = some '#')

variable {rule : NameRule} {row : Nat} {st : LineState} {l : Text} {ls ms : List Text}

theorem startStatement_idle (hl : IsIdle l) : startStatement rule row st l = ([], st) := by
  obtain ⟨blanks, comment, rfl, hblanks, hcomment⟩ := hl
  have hdrop : (blanks ++ comment).dropWhile isGap = comment.dropWhile isGap :=
    List.dropWhile_append_of_pos hblanks
  obtain rfl | hhash := hcomment
  · rw [startStatement, hdrop]
    rfl
  · obtain ⟨r, rfl⟩ := List.head?_eq_some_iff.1 hhash
    rw [startStatement, hdrop]
    rfl

theorem lines_idle (hst : st.Settled) (hls : ∀ l ∈ ls, IsIdle l) : lines rule row st ls = ([], st) := by
  induction ls generalizing row with
  | nil => rfl
  | cons l ls ih =>
    have hline : line rule row st l = ([], st) := by
      simp only [line, hst.string, hst.depth, hst.joined, decide_true, Bool.not_false, Bool.and_self,
        if_true]
      exact startStatement_idle (hls l List.mem_cons_self)
    have hrest : lines rule (row + 1) st ls = ([], st) :=
      ih fun m hm => hls m (List.mem_cons_of_mem l hm)
    simp only [lines, hline, hrest, List.append_nil]

theorem settled_of_events? {es : List Event} (h : events? rule ls = some es) :
    (lines rule 0 {} ls).2.Settled := by
  unfold events? at h
  simp only [Option.ite_none_right_eq_some, Bool.and_eq_true, decide_eq_true_eq,
    Bool.not_eq_true'] at h
  obtain ⟨⟨⟨hstring, hdepth⟩, hjoined⟩, -⟩ := h
  exact ⟨hstring, hdepth, hjoined⟩

/-- Lines without code behind lines that scan add no event. -/
theorem events?_append_idle {es : List Event} (h : events? rule ls = some es)
    (hms : ∀ m ∈ ms, IsIdle m) : events? rule (ls ++ ms) = some es := by
  have hidle : lines rule (0 + ls.length) (lines rule 0 {} ls).2 ms = ([], (lines rule 0 {} ls).2) :=
    lines_idle (settled_of_events? h) hms
  have hlines : lines rule 0 {} (ls ++ ms) = lines rule 0 {} ls := by
    rw [lines_append, hidle, List.append_nil]
  rw [events?, hlines]
  exact h

end LineScan

namespace Opener

open LineScan

variable {ls ms : List Text}

/-- What is known behind lines, if they scan and their indentation is in order. -/
def stateAfter? (ls : List Text) : Option State := do
  (← events? wordRule (Text.physicalLines (Text.join ['\n'] ls))).foldlM step {}

theorem start?_eq (ls : List Text) :
    start? ls = (stateAfter? ls).bind fun st => if st.colon then st.start else none :=
  (Option.bind_assoc ..).symm

/-- Lines are scanned one by one, also if there is none. -/
theorem stateAfter?_eq (hls : ∀ l ∈ ls, '\n' ∉ l) :
    stateAfter? ls = (events? wordRule ls).bind (·.foldlM step {}) := by
  by_cases hnil : ls = []
  · rw [hnil]
    rfl
  · rw [stateAfter?, Text.physicalLines_join hnil hls]
    rfl

theorem stateAfter?_append_idle (hls : ∀ l ∈ ls, '\n' ∉ l) (hms : ∀ m ∈ ms, '\n' ∉ m ∧ IsIdle m)
    (hscans : (stateAfter? ls).isSome) : stateAfter? (ls ++ ms) = stateAfter? ls := by
  have hall : ∀ l ∈ ls ++ ms, '\n' ∉ l := by
    intro l hl
    obtain hl | hl := List.mem_append.1 hl
    · exact hls l hl
    · exact (hms l hl).1
  rw [stateAfter?_eq hls] at hscans
  rw [stateAfter?_eq hls, stateAfter?_eq hall]
  cases hevents : events? wordRule ls with
  | none => simp [hevents] at hscans
  | some es => rw [events?_append_idle hevents fun m hm => (hms m hm).2]

theorem row_lt_of_start? {row column : Nat} (hls : ∀ l ∈ ls, '\n' ∉ l)
    (h : start? ls = some (row, column)) : row < ls.length := by
  have hne : ls ≠ [] := by
    rintro rfl
    contradiction
  have htext := (@inText_lines wordRule ls ls 0 {} rfl fun s hs => nomatch hs).1
  obtain ⟨l, hl, -⟩ := @start?_of_starts (fun r _ => HasText ls r) ls row column hls
    (starts_of_forall htext) h hne
  exact (List.getElem?_eq_some_iff.1 hl).1

/-- Comments and blank lines behind lines that scan change nothing of what is known behind them: they
open no block, and hide none that the lines open. -/
theorem indent?_append_idle (hls : ∀ l ∈ ls, '\n' ∉ l) (hms : ∀ m ∈ ms, '\n' ∉ m ∧ IsIdle m)
    (hscans : (stateAfter? ls).isSome) :
    stateAfter? (ls ++ ms) = stateAfter? ls ∧ indent? (ls ++ ms) = indent? ls := by
  have hstate := stateAfter?_append_idle hls hms hscans
  have hstart : start? (ls ++ ms) = start? ls := by rw [start?_eq, start?_eq, hstate]
  refine ⟨hstate, ?_⟩
  rw [indent?, indent?, hstart]
  cases h : start? ls with
  | none => rfl
  | some place =>
    obtain ⟨row, column⟩ := place
    have hrow : (ls ++ ms)[row]? = ls[row]? := List.getElem?_append_left (row_lt_of_start? hls h)
    simp only [Option.bind_eq_bind, Option.bind_some, hrow]

/-- Behind a nested statement that opens a block: an empty line, a comment that is less indented and
holds a colon and an open bracket, and one that is more indented and holds quotes. -/
theorem indent?_append_idle_nested :
    (stateAfter? ["for x in y:".toList, "  if x:".toList]).isSome ∧
      indent? ["for x in y:".toList, "  if x:".toList, [], "# so (or:".toList, "\t\t#'''".toList] =
        some [' ', ' '] := by
  have hscans : (stateAfter? ["for x in y:".toList, "  if x:".toList]).isSome := by decide +kernel
  have hidle : ∀ m ∈ [[], "# so (or:".toList, "\t\t#'''".toList], '\n' ∉ m ∧ IsIdle m := by
    simp only [List.forall_mem_cons]
    refine ⟨⟨by decide, [], [], rfl, by simp, .inl rfl⟩,
      ⟨by decide, [], "# so (or:".toList, rfl, by simp, .inr rfl⟩,
      ⟨by decide, "\t\t".toList, "#'''".toList, rfl, by simp [isGap], .inr rfl⟩, by simp⟩
  have hlines : ∀ l ∈ ["for x in y:".toList, "  if x:".toList], '\n' ∉ l := by decide +kernel
  exact ⟨hscans, (indent?_append_idle hlines hidle hscans).2.trans (by decide +kernel)⟩

/-- A line that is to be joined with the next one does not scan, and an empty line ends it. -/
example : indent? ["if x: \\".toList] = none ∧ indent? ["if x: \\".toList, []] = some [] := by
  decide +kernel

end Opener
end TemplateEngine.Script
