import TemplateEngine.Proofs.Script.Trimming
import TemplateEngine.Proofs.Body.Writing

set_option autoImplicit false

/-!
# Lines of a program further in

Where no string goes over the end of a line, the lines of a program can be written further in: their tokens
are the same ones so many columns on, and white space at the ends of lines can be left out.
-/
namespace TemplateEngine.Script

def Event.indented (b : Text) : Event → Event
  | .margin m => .margin (b ++ m)
  | .token t => .token (t.moved 0 b.length)
  | .lineEnd => .lineEnd

namespace LineScan

variable {rule : NameRule} {row : Nat} {st : LineState} {b l : Text} {ls ms : List Text}

theorem tokensOf_map_moved (r : Nat) (es : List Event) :
    tokensOf (es.map (Event.moved r)) = (tokensOf es).map (Token.moved r 0) := by
  induction es with
  | nil => rfl
  | cons e es ih =>
    cases e with
    | token t => exact congrArg (t.moved r 0 :: ·) ih
    | _ => exact ih

theorem Valid.of_moved {ts : List Token} {r c : Nat} (h : Valid (ts.map (Token.moved r c))) : Valid ts :=
  fun k hk => h (k.moved r c) (List.mem_map_of_mem hk)

theorem finish_indented (b : Text) {r : List Token × LineEnd} (hstring : (finish st r).2.string = none) :
    finish st (r.1.map (Token.moved 0 b.length), r.2.moved 0 b.length) =
      ((finish st r).1.map (Event.indented b), (finish st r).2) := by
  obtain ⟨ts, e⟩ := r
  have hts : (ts.map (Token.moved 0 b.length)).map Event.token =
      (ts.map Event.token).map (Event.indented b) := by
    simp [Event.indented, Function.comp_def]
  cases e with
  | plain =>
    simp only [finish, LineEnd.moved, depthAfter_moved, hts]
    split <;> simp [Event.indented]
  | backslash => simp [finish, LineEnd.moved, depthAfter_moved, hts]
  | openString s => contradiction

theorem not_mem_gap (hb : ∀ c ∈ b, isGap c = true) : '\r' ∉ b := fun hmem =>
  absurd (hb _ hmem) (by decide)

theorem startStatement_indent (hb : ∀ c ∈ b, isGap c = true) (hr : '\r' ∉ l)
    (hstring : (startStatement rule row st l).2.string = none) : startStatement rule row st (b ++ l) =
      ((startStatement rule row st l).1.map (Event.indented b), (startStatement rule row st l).2) := by
  have htake : (b ++ l).takeWhile isGap = b ++ l.takeWhile isGap := List.takeWhile_append_of_pos hb
  have hdrop : (b ++ l).dropWhile isGap = l.dropWhile isGap := List.dropWhile_append_of_pos hb
  have hr' : '\r' ∉ b ++ l := by simp [not_mem_gap hb, hr]
  obtain ⟨hsame, hblank⟩ | ⟨heq, c, u, hu, hhash⟩ := startStatement_cases rule row st hr
  · obtain ⟨hsame', -⟩ | ⟨-, c, u, hu, hhash⟩ := startStatement_cases rule row st hr'
    · rw [hsame', hsame]
      rfl
    · rw [hdrop] at hu
      obtain hnil | ⟨v, hv⟩ := hblank
      · exact absurd (hu.symm.trans hnil) (by simp)
      · exact absurd (List.cons.inj (hu.symm.trans hv)).1 hhash
  · obtain ⟨-, hblank⟩ | ⟨heq', -⟩ := startStatement_cases rule row st hr'
    · rw [hdrop] at hblank
      obtain hnil | ⟨v, hv⟩ := hblank
      · exact absurd (hu.symm.trans hnil) (by simp)
      · exact absurd (List.cons.inj (hu.symm.trans hv)).1 hhash
    · have hmoved := rest_moved rule 0 b.length row (l.takeWhile isGap).length (l.dropWhile isGap)
      rw [Nat.zero_add] at hmoved
      rw [heq] at hstring ⊢
      rw [heq', htake, hdrop, List.length_append, hmoved, finish_indented b hstring]
      rfl

theorem Known.moved {ts : List Token} (h : Known ts) (r c : Nat) : Known (ts.map (Token.moved r c)) := by
  intro k hk
  obtain ⟨t, ht, rfl⟩ := List.mem_map.1 hk
  exact h t ht

theorem rest_indent (hb : ∀ c ∈ b, isGap c = true) (hknown : Known (rest rule row 0 l).1) :
    rest rule row 0 (b ++ l) =
      ((rest rule row 0 l).1.map (Token.moved 0 b.length), (rest rule row 0 l).2.moved 0 b.length) := by
  have hgap : ∀ c ∈ l.takeWhile isGap, isGap c = true := isGap_of_mem_takeWhile
  have hsplit := List.takeWhile_append_dropWhile (p := isGap) (l := l)
  have hmoved := rest_moved rule 0 b.length row (l.takeWhile isGap).length (l.dropWhile isGap)
  have hone := @rest_gap_append rule row 0 _ _ hgap (dropWhile_dropWhile_gap l) (.inl (by rwa [hsplit]))
  rw [hsplit, Nat.zero_add] at hone
  rw [Nat.zero_add, ← hone] at hmoved
  have htwo := @rest_gap_append rule row 0 _ _ (List.forall_mem_append.2 ⟨hb, hgap⟩)
    (dropWhile_dropWhile_gap l) (.inr (by
      rw [Nat.zero_add, List.length_append, hmoved]
      exact hknown.moved 0 b.length))
  rw [List.append_assoc, hsplit, List.length_append, Nat.zero_add] at htwo
  rw [htwo, hmoved]

/-- A line that neither goes on a string nor leaves one open is scanned in the same way further in. -/
theorem line_indent (hb : ∀ c ∈ b, isGap c = true) (hr : '\r' ∉ l) (hst : st.string = none)
    (hstring : (line rule row st l).2.string = none) (hknown : Known (tokensOf (line rule row st l).1)) :
    line rule row st (b ++ l) = ((line rule row st l).1.map (Event.indented b), (line rule row st l).2) := by
  simp only [line, hst] at hstring hknown ⊢
  by_cases hstart : (decide (st.depth = 0) && !st.joined) = true
  · rw [if_pos hstart] at hstring hknown
    rw [if_pos hstart, if_pos hstart]
    exact startStatement_indent hb hr hstring
  · rw [if_neg hstart] at hstring hknown
    rw [if_neg hstart, if_neg hstart]
    rw [(tokensOf_finish _ _).1] at hknown
    rw [rest_indent hb hknown, finish_indented b hstring]

/-- No line ends inside a string. -/
def Unbroken (rule : NameRule) (row : Nat) (st : LineState) (ls : List Text) : Prop :=
  ∀ ms, ms <+: ls → (lines rule row st ms).2.string = none

theorem Unbroken.start (h : Unbroken rule row st ls) : st.string = none := h [] List.nil_prefix

theorem Unbroken.of_prefix (h : Unbroken rule row st ls) (hms : ms <+: ls) : Unbroken rule row st ms :=
  fun _ hns => h _ (hns.trans hms)

theorem Unbroken.cons (h : Unbroken rule row st (l :: ls)) :
    (line rule row st l).2.string = none ∧ Unbroken rule (row + 1) (line rule row st l).2 ls :=
  ⟨h [l] (List.cons_prefix_cons.2 ⟨rfl, List.nil_prefix⟩), fun _ hms =>
    h _ (List.cons_prefix_cons.2 ⟨rfl, hms⟩)⟩

theorem Unbroken.append (h : Unbroken rule row st (ls ++ ms)) :
    Unbroken rule (row + ls.length) (lines rule row st ls).2 ms := by
  intro ns hns
  have := h (ls ++ ns) ((List.prefix_append_right_inj ls).2 hns)
  rwa [lines_append] at this

theorem valid_append {ts us : List Token} : Valid (ts ++ us) ↔ Valid ts ∧ Valid us := List.forall_mem_append

theorem indentStep_gaps : ∀ c ∈ Scriptlet.indentStep, isGap c = true := Text.forall_mem_of_all (by decide)

theorem map_indented_nil (b : Text) (hst : st.string = none) :
    (line rule row st []).1.map (Event.indented b) = (line rule row st []).1 := by
  have hrest : rest rule row 0 [] = ([], .plain) := rfl
  simp only [line, hst]
  split
  · rfl
  · rw [hrest]
    simp only [finish]
    split <;> rfl

theorem line_indentLine (hr : '\r' ∉ l) (hst : st.string = none)
    (hstring : (line Lexeme.nameRule row st l).2.string = none)
    (hvalid : Valid (tokensOf (line Lexeme.nameRule row st l).1)) :
    line Lexeme.nameRule row st (Scriptlet.indentLine (Text.trimEnd l)) =
      ((line Lexeme.nameRule row st l).1.map (Event.indented Scriptlet.indentStep),
        (line Lexeme.nameRule row st l).2) := by
  have htrim := line_trimEnd hr hst hstring hvalid
  rw [← htrim] at hstring hvalid ⊢
  by_cases hempty : Text.trimEnd l = []
  · rw [hempty, map_indented_nil _ hst]
    rfl
  · have hr' : '\r' ∉ Text.trimEnd l := fun hmem => hr ((Text.trimEnd_prefix_self l).subset hmem)
    rw [Scriptlet.indentLine, if_neg hempty]
    exact line_indent indentStep_gaps hr' hst hstring hvalid.known

theorem lines_indentLine (hr : ∀ l ∈ ls, '\r' ∉ l) (hunbroken : Unbroken Lexeme.nameRule row st ls)
    (hvalid : Valid (tokensOf (lines Lexeme.nameRule row st ls).1)) :
    lines Lexeme.nameRule row st (ls.map fun l => Scriptlet.indentLine (Text.trimEnd l)) =
      ((lines Lexeme.nameRule row st ls).1.map (Event.indented Scriptlet.indentStep),
        (lines Lexeme.nameRule row st ls).2) := by
  induction ls generalizing row st with
  | nil => rfl
  | cons l ls ih =>
    obtain ⟨hl, hls⟩ := List.forall_mem_cons.1 hr
    obtain ⟨hstring, hrest⟩ := hunbroken.cons
    simp only [lines, tokensOf_append, valid_append] at hvalid
    simp only [List.map_cons, lines, line_indentLine hl hunbroken.start hstring hvalid.1,
      ih hls hrest hvalid.2, List.map_append]

/-- Blank lines change nothing where no string and no joined line goes on. -/
theorem lines_blank (hblank : ∀ l ∈ ls, Text.allBlank l = true) (hr : ∀ l ∈ ls, '\r' ∉ l)
    (hunbroken : Unbroken Lexeme.nameRule row st ls) (hjoined : st.joined = false)
    (hvalid : Valid (tokensOf (lines Lexeme.nameRule row st ls).1)) :
    (lines Lexeme.nameRule row st ls).2 = st ∧
      (st.depth = 0 → (lines Lexeme.nameRule row st ls).1 = []) := by
  induction ls generalizing row with
  | nil => exact ⟨rfl, fun _ => rfl⟩
  | cons l ls ih =>
    obtain ⟨hl, hr⟩ := List.forall_mem_cons.1 hr
    obtain ⟨hlblank, hblank⟩ := List.forall_mem_cons.1 hblank
    obtain ⟨hstring, hrest⟩ := hunbroken.cons
    simp only [lines, tokensOf_append, valid_append] at hvalid
    have hline := line_trimEnd hl hunbroken.start hstring hvalid.1
    rw [Text.trimEnd_of_allBlank hlblank] at hline
    have hempty : (line Lexeme.nameRule row st []).2 = st ∧
        (st.depth = 0 → (line Lexeme.nameRule row st []).1 = []) := by
      have hst := hunbroken.start
      obtain ⟨string, carried, depth, joined⟩ := st
      obtain rfl : string = none := hst
      obtain rfl : joined = false := hjoined
      have hrest : rest Lexeme.nameRule row 0 [] = ([], .plain) := rfl
      by_cases hdepth : depth = 0
      · simp [line, startStatement, hdepth]
      · simp [line, hdepth, hrest, finish, depthAfter]
    rw [hline] at hempty
    rw [hempty.1] at hrest hvalid
    obtain ⟨hst, hnone⟩ := ih hblank hr hrest hvalid.2
    refine ⟨by simp only [lines, hempty.1, hst], fun hdepth => ?_⟩
    simp only [lines, hempty.1, hempty.2 hdepth, hnone hdepth, List.append_nil]

theorem Unbroken.of_row (h : Unbroken rule row {} ls) : Unbroken rule 0 {} ls := by
  intro ms hms
  have hmoved := congrArg (fun r => r.2.string) (lines_moved rule row 0 {} ms)
  have := h ms hms
  rw [LineState.moved_start, Nat.add_zero] at hmoved
  rw [hmoved] at this
  simpa [LineState.moved] using this

/-- A program is scanned in the same way without the blank lines around it, unless a joined line goes on
into them. -/
theorem lines_trimBlankLines (hr : ∀ l ∈ ls, '\r' ∉ l) (hunbroken : Unbroken Lexeme.nameRule 0 {} ls)
    (hsettled : (lines Lexeme.nameRule 0 {} ls).2.Settled)
    (hjoined : (lines Lexeme.nameRule 0 {} (Scriptlet.trimBlankLines ls)).2.joined = false)
    (hvalid : Valid (tokensOf (lines Lexeme.nameRule 0 {} ls).1)) : ∃ row,
    (lines Lexeme.nameRule 0 {} ls).1 =
        (lines Lexeme.nameRule 0 {} (Scriptlet.trimBlankLines ls)).1.map (Event.moved row) ∧
      (lines Lexeme.nameRule 0 {} (Scriptlet.trimBlankLines ls)).2.Settled ∧
      Unbroken Lexeme.nameRule 0 {} (Scriptlet.trimBlankLines ls) := by
  obtain ⟨before, after, hls, hbefore, hafter⟩ := Scriptlet.trimBlankLines_split ls
  generalize Scriptlet.trimBlankLines ls = ms at hls hjoined ⊢
  subst hls
  rw [List.append_assoc] at hunbroken hsettled hvalid ⊢
  rw [lines_append] at hsettled hvalid ⊢
  simp only [tokensOf_append, valid_append] at hvalid
  simp only [List.forall_mem_append] at hr
  obtain ⟨hst, hnone⟩ := lines_blank hbefore hr.1.1 (hunbroken.of_prefix (List.prefix_append before _)) rfl
    hvalid.1
  have hmid := hunbroken.append
  rw [hst, Nat.zero_add] at hsettled hvalid hmid ⊢
  rw [hnone rfl, List.nil_append]
  -- what stands in front only counts the rows
  have hmoved := lines_moved Lexeme.nameRule before.length 0 {} ms
  rw [LineState.moved_start, Nat.add_zero] at hmoved
  have hms := (hmid.of_prefix (List.prefix_append ms after)).of_row
  have hsame : (lines Lexeme.nameRule 0 {} ms).2.moved before.length = (lines Lexeme.nameRule 0 {} ms).2 := by
    have hstring := hms ms List.prefix_rfl
    generalize (lines Lexeme.nameRule 0 {} ms).2 = st at hstring
    obtain ⟨string, carried, depth, joined⟩ := st
    obtain rfl : string = none := hstring
    rfl
  rw [hsame] at hmoved
  have hrest := hmid.append
  rw [lines_append, hmoved] at hsettled hvalid ⊢
  rw [hmoved] at hrest
  simp only [tokensOf_append, valid_append] at hvalid
  obtain ⟨hend, hnone'⟩ := lines_blank hafter hr.2 hrest hjoined hvalid.2.2
  rw [hend] at hsettled
  refine ⟨before.length, ?_, hsettled, hms⟩
  rw [hnone' hsettled.depth, List.append_nil]

/-- What a line is that goes on no string: nothing, the rest of a statement, or the start of one. -/
theorem line_cases (rule : NameRule) (row : Nat) (l : Text) (hst : st.string = none) :
    (line rule row st l = ([], st) ∧ st.depth = 0 ∧ st.joined = false) ∨
      ∃ r, line rule row st l = finish st r ∨
        ∃ m, line rule row st l = (.margin m :: (finish st r).1, (finish st r).2) := by
  simp only [line, hst]
  by_cases hstart : (decide (st.depth = 0) && !st.joined) = true
  · rw [if_pos hstart]
    simp only [Bool.and_eq_true, decide_eq_true_eq, Bool.not_eq_true'] at hstart
    unfold startStatement
    dsimp only
    split
    · exact .inl ⟨rfl, hstart⟩
    · exact .inl ⟨rfl, hstart⟩
    · exact .inl ⟨rfl, hstart⟩
    · exact .inr ⟨_, .inr ⟨_, rfl⟩⟩
  · rw [if_neg hstart]
    exact .inr ⟨_, .inl rfl⟩

theorem carried_finish {r : List Token × LineEnd} (hstring : (finish st r).2.string = none) :
    (finish st r).2.carried = st.carried := by
  obtain ⟨ts, e⟩ := r
  cases e with
  | plain => rfl
  | backslash => rfl
  | openString s => contradiction

theorem carried_lines (h : Unbroken rule row st ls) : (lines rule row st ls).2.carried = st.carried := by
  induction ls generalizing row st with
  | nil => rfl
  | cons l ls ih =>
    obtain ⟨hstring, hrest⟩ := h.cons
    have hline : (line rule row st l).2.carried = st.carried := by
      obtain ⟨heq, -⟩ | ⟨r, heq | ⟨m, heq⟩⟩ := line_cases rule row l h.start
      · rw [heq]
      · rw [heq] at hstring ⊢
        exact carried_finish hstring
      · rw [heq] at hstring ⊢
        exact carried_finish hstring
    rw [← hline]
    exact ih hrest

/-- A line after which a statement may start ends one, unless nothing is on it. -/
theorem finish_ends {r : List Token × LineEnd} (h : (finish st r).2.Settled) :
    ∃ es, (finish st r).1 = es ++ [.lineEnd] := by
  obtain ⟨ts, e⟩ := r
  cases e with
  | plain =>
    have hdepth : depthAfter st.depth ts = 0 := h.depth
    exact ⟨ts.map Event.token, by simp [finish, hdepth]⟩
  | backslash => exact absurd h.joined (by simp [finish])
  | openString s => exact absurd h.string (by simp [finish])

/-- A program's events end with a statement, unless there are none. -/
theorem lines_ends (h : Unbroken rule row st ls) (hend : (lines rule row st ls).2.Settled) :
    (∃ es, (lines rule row st ls).1 = es ++ [.lineEnd]) ∨ (lines rule row st ls).1 = [] ∧ st.Settled := by
  induction ls generalizing row st with
  | nil => exact .inr ⟨rfl, hend⟩
  | cons l ls ih =>
    obtain ⟨hstring, hrest⟩ := h.cons
    simp only [lines]
    obtain ⟨es, hes⟩ | ⟨hnone, hsettled⟩ := ih hrest hend
    · exact .inl ⟨_ ++ es, by rw [hes, List.append_assoc]⟩
    · rw [hnone, List.append_nil]
      obtain ⟨heq, hdepth, hjoined⟩ | ⟨r, heq | ⟨m, heq⟩⟩ := line_cases rule row l h.start
      · exact .inr ⟨by rw [heq], h.start, hdepth, hjoined⟩
      · rw [heq] at hsettled ⊢
        exact .inl (finish_ends hsettled)
      · rw [heq] at hsettled ⊢
        obtain ⟨es, hes⟩ := finish_ends hsettled
        exact .inl ⟨.margin m :: es, by rw [hes, List.cons_append]⟩

/-- A program's events start with a statement, unless there are none. -/
theorem lines_starts (rule : NameRule) (row : Nat) (ls : List Text) :
    (lines rule row {} ls).1 = [] ∨ ∃ m es, (lines rule row {} ls).1 = .margin m :: es := by
  induction ls generalizing row with
  | nil => exact .inl rfl
  | cons l ls ih =>
    simp only [lines]
    have hline : line rule row {} l = startStatement rule row {} l := rfl
    rw [hline]
    unfold startStatement
    dsimp only
    split
    · exact ih (row + 1)
    · exact ih (row + 1)
    · exact ih (row + 1)
    · exact .inr ⟨_, _, rfl⟩

end LineScan

namespace Outline

open LineScan

variable {ls : List Text} {L : List Line}

theorem cutLines_indented (b m : Text) (done : List Token) (es : List Event) :
    cutLines (b ++ m) (done.map (Token.moved 0 b.length)) (es.map (Event.indented b)) =
      (cutLines m done es).map fun l => (b ++ l.1, l.2.map (Token.moved 0 b.length)) := by
  induction es generalizing m done with
  | nil =>
    by_cases h : done = []
    · simp [cutLines, h]
    · simp [cutLines, h, List.map_reverse]
  | cons e es ih =>
    cases e with
    | margin c => exact ih c done
    | token t => exact ih m (t :: done)
    | lineEnd =>
      have := ih m []
      rw [List.map_nil] at this
      by_cases h : done = []
      · simp [cutLines, h, Event.indented, this]
      · simp [cutLines, h, Event.indented, this, List.map_reverse]

def Content.indented (b : Text) (c : Content) : Content := (b ++ c.1, c.2)

theorem flatMap_cutLines (m : Text) (done : List Token) (es : List Event) :
    (cutLines m done es).flatMap Prod.snd = done.reverse ++ tokensOf es := by
  induction es generalizing m done with
  | nil => by_cases h : done = [] <;> simp [cutLines, h, tokensOf]
  | cons e es ih =>
    cases e with
    | margin c => exact ih c done
    | token t => simpa [cutLines, tokensOf, Event.token?] using ih m (t :: done)
    | lineEnd =>
      have hend : tokensOf (.lineEnd :: es) = tokensOf es := rfl
      by_cases h : done = [] <;> simp [cutLines, h, ih, hend]

theorem scans_nil (h : LineScan.lines Lexeme.nameRule 0 {} ls = ([], {})) : Scans ls [] := by
  intro row b
  have hmoved := lines_moved Lexeme.nameRule row 0 {} ls
  rw [LineState.moved_start, Nat.add_zero, h] at hmoved
  exact ⟨[], [], b, hmoved, fun _ => rfl, rfl⟩

theorem valid_of_ofTokens? {ts : List Token} (h : (Lexeme.ofTokens? ts).isSome = true) : Valid ts := by
  induction ts with
  | nil => exact nofun
  | cons t ts ih =>
    obtain ⟨ls, hls⟩ := Option.isSome_iff_exists.1 h
    simp only [Lexeme.ofTokens?, Option.bind_eq_bind, Option.bind_eq_some_iff] at hls
    obtain ⟨-, -, l, hl, ks, hks, -⟩ := hls
    exact List.forall_mem_cons.2 ⟨by simp [hl], ih (by simp [hks])⟩

theorem scans_indented {t : Text} (h : lines? t = some L)
    (hunbroken : Unbroken Lexeme.nameRule 0 {} (Text.sourceLines t))
    (hjoined : (LineScan.lines Lexeme.nameRule 0 {}
      (Scriptlet.trimBlankLines (Text.sourceLines t))).2.joined = false)
    (hspelled : ∀ l ∈ L, (Lexeme.ofTokens? l.2).isSome = true) :
    Scans ((Scriptlet.trimBlankLines (Text.sourceLines t)).map fun l => Scriptlet.indentLine (Text.trimEnd l))
      (L.map fun l => (content l).indented Scriptlet.indentStep) := by
  obtain ⟨hsettled, hcut⟩ := lines_sourceLines h
  have hr : ∀ l ∈ Text.sourceLines t, '\r' ∉ l := fun l hl hmem =>
    Text.not_mem_unifyLineEnds t (Text.of_mem_physicalLines hl _ hmem).2
  have hvalid : Valid (tokensOf (LineScan.lines Lexeme.nameRule 0 {} (Text.sourceLines t)).1) := by
    have hall := flatMap_cutLines [] [] (LineScan.lines Lexeme.nameRule 0 {} (Text.sourceLines t)).1
    rw [hcut, List.reverse_nil, List.nil_append] at hall
    rw [← hall]
    intro k hk
    obtain ⟨l, hl, hkl⟩ := List.mem_flatMap.1 hk
    exact valid_of_ofTokens? (hspelled l hl) k hkl
  obtain ⟨row, hevents, hend, hwhole⟩ := lines_trimBlankLines hr hunbroken hsettled hjoined hvalid
  obtain ⟨before, after, hls, -, -⟩ := Scriptlet.trimBlankLines_split (Text.sourceLines t)
  have hr' : ∀ l ∈ Scriptlet.trimBlankLines (Text.sourceLines t), '\r' ∉ l := fun l hl => hr l (by
    rw [hls]
    simp [hl])
  generalize Scriptlet.trimBlankLines (Text.sourceLines t) = ms at hevents hend hwhole hr' ⊢
  rw [hevents, tokensOf_map_moved] at hvalid
  have hindented := lines_indentLine hr' hwhole hvalid.of_moved
  have hstart : (LineScan.lines Lexeme.nameRule 0 {} ms).2 = {} := by
    have hcarried := carried_lines hwhole
    generalize (LineScan.lines Lexeme.nameRule 0 {} ms).2 = st at hend hcarried
    obtain ⟨string, carried, depth, joined⟩ := st
    obtain ⟨rfl, rfl, rfl⟩ := hend
    obtain rfl : carried = false := hcarried
    rfl
  rw [hstart] at hindented
  rw [hevents] at hcut
  have hstarts := lines_starts Lexeme.nameRule 0 ms
  have hends := lines_ends hwhole hend
  have hlines := cutLines_moved row [] [] (LineScan.lines Lexeme.nameRule 0 {} ms).1
  rw [List.map_nil, hcut] at hlines
  subst hlines
  generalize (LineScan.lines Lexeme.nameRule 0 {} ms).1 = es at hindented hstarts hends ⊢
  obtain rfl | ⟨m, es, rfl⟩ := hstarts
  · exact scans_nil hindented
  · refine scans_of_yields ?_
    have hlast : es.getLast? = some .lineEnd := by
      obtain ⟨fs, hfs⟩ | ⟨hnone, -⟩ := hends
      · have := congrArg List.getLast? hfs
        rw [List.getLast?_concat] at this
        cases es with
        | nil => simp at this
        | cons e es => simpa using this
      · contradiction
    have hcontents := cutLines_indented Scriptlet.indentStep m [] es
    rw [List.map_nil] at hcontents
    rw [hindented]
    simp only [List.map_cons, Event.indented, yields, decide_true, Bool.true_and, List.getLast?_map, hlast,
      Option.map_some, hcontents, List.map_map, decide_eq_true_eq]
    refine List.map_congr_left fun l _ => ?_
    simp [content, Content.indented, bracketsFit_moved, Lexeme.ofTokens?_moved]

end Outline
end TemplateEngine.Script
