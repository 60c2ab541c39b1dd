import TemplateEngine.Proofs.Body.Writing
import TemplateEngine.Proofs.Text.PhysicalLines

set_option autoImplicit false

/-!
# What becomes of the lines of a scriptlet

The lines below the open marker lose their margin and the white space at their ends. If they are to stand in
the block that the code beside the marker opens, each of them is put one step further in. Nothing else
happens to them, so no code is lost and their indentation stays as it is among themselves. Whether they are
to stand in that block is decided by the first of them, which may be a comment.

The body is cut at every character that Unicode lets end a line, while a module has lines that end at
carriage returns and line feeds alone.
-/
namespace TemplateEngine.Scriptlet

variable {body l p q : Text}

def below (body : Text) : List Text := (Text.lines body).drop 1

def beside (body : Text) : List Text := if head body = [] then [] else [head body]

/-- What becomes of a line if its margin `p` is replaced by `q`: white space is nothing then, and there is none
at the end. -/
def moved (p q l : Text) : Text := if Text.allBlank l then [] else q ++ Text.trimEnd (l.drop p.length)

/-- Code beside the marker opens a block, and the first line below it starts right behind the margin `p`. -/
def Enters (p body : Text) : Prop :=
  head body ≠ [] ∧ Script.Opener.indent? [head body] ≠ none ∧
    ∃ l, (below body).find? (fun l => !Text.allBlank l) = some l ∧ Text.startsBlank (l.drop p.length) = false

theorem moved_of_allBlank (h : Text.allBlank l = true) : moved p q l = [] := if_pos h

theorem moved_of_not_allBlank (h : Text.allBlank l = false) :
    moved p q l = q ++ Text.trimEnd (l.drop p.length) :=
  if_neg (Bool.eq_false_iff.1 h)

theorem append_drop_of_isMargin {ls : List Text} (hp : Text.IsMargin p ls) (hl : l ∈ ls)
    (h : Text.allBlank l = false) : p ++ l.drop p.length = l := by
  have hkind : l.all Text.isIndent = false := by
    rw [Bool.eq_false_iff]
    exact fun hall => Bool.noConfusion (h.symm.trans (Text.allBlank_of_all_isIndent hall))
  obtain ⟨x, rfl⟩ := hp.starts l hl hkind
  rw [List.drop_left]

theorem allBlank_drop_of_isMargin {ls : List Text} (hp : Text.IsMargin p ls) (hl : l ∈ ls)
    (h : Text.allBlank l = false) : Text.allBlank (l.drop p.length) = false := by
  have hblank : Text.allBlank p = true :=
    List.all_eq_true.2 fun c hc => Text.isBlank_of_isIndent (hp.blank c hc)
  have hline := congrArg Text.allBlank (append_drop_of_isMargin hp hl h)
  rwa [Text.allBlank_append, hblank, Bool.true_and, h] at hline

theorem allBlank_moved {ls : List Text} (hp : Text.IsMargin p ls) (hl : l ∈ ls) :
    Text.allBlank (moved p q l) = Text.allBlank l := by
  cases h : Text.allBlank l with
  | true =>
    rw [moved_of_allBlank h]
    rfl
  | false =>
    rw [moved_of_not_allBlank h, Text.allBlank_append, Text.allBlank_trimEnd, allBlank_drop_of_isMargin hp hl h,
      Bool.and_false]

theorem trimEnd_moved {ls : List Text} (hp : Text.IsMargin p ls) (hl : l ∈ ls) :
    Text.trimEnd (moved p q l) = moved p q l := by
  cases h : Text.allBlank l with
  | true =>
    rw [moved_of_allBlank h]
    rfl
  | false =>
    have hdrop : Text.allBlank (Text.trimEnd (l.drop p.length)) = false := by
      rw [Text.allBlank_trimEnd]
      exact allBlank_drop_of_isMargin hp hl h
    rw [moved_of_not_allBlank h, Text.trimEnd_append_of_not_allBlank _ hdrop, Text.trimEnd_trimEnd]

/-- Among themselves the lines keep their indentation. -/
theorem indentOf_moved {ls : List Text} (hp : Text.IsMargin p ls) (hq : ∀ c ∈ q, Text.isIndent c = true)
    (hl : l ∈ ls) (h : Text.allBlank l = false) :
    ∃ i, Text.indentOf l = p ++ i ∧ Text.indentOf (moved p q l) = q ++ i := by
  refine ⟨Text.indentOf (l.drop p.length), ?_, ?_⟩
  · rw [← Text.indentOf_append hp.blank, append_drop_of_isMargin hp hl h]
  · rw [moved_of_not_allBlank h, Text.indentOf_append hq,
      Text.indentOf_trimEnd (allBlank_drop_of_isMargin hp hl h)]

theorem isCode_moved {ls : List Text} (hp : Text.IsMargin p ls) (hq : ∀ c ∈ q, Text.isIndent c = true)
    (hl : l ∈ ls) : Body.isCode (moved p q l) = Body.isCode l := by
  cases h : Text.allBlank l with
  | true =>
    rw [moved_of_allBlank h, Body.isCode_of_allBlank h]
    rfl
  | false =>
    rw [moved_of_not_allBlank h, Body.isCode_append hq, Body.isCode_trimEnd,
      ← Body.isCode_append hp.blank, append_drop_of_isMargin hp hl h]

def step (body : Text) : Text := if entersBlock body then indentStep else []

theorem eq_of_mem_indentStep {c : Char} (h : c ∈ indentStep) : c = ' ' := by
  simpa [indentStep] using h

theorem isIndent_of_mem_step {c : Char} (h : c ∈ step body) : Text.isIndent c = true := by
  unfold step at h
  split at h
  · rw [eq_of_mem_indentStep h]
    rfl
  · contradiction

theorem tail_eq (body : Text) : tail body = (below body).map (moved (Text.margin (below body)) []) := by
  rw [tail, Text.dedent, List.map_map]
  refine List.map_congr_left fun l _ => ?_
  cases h : Text.allBlank l with
  | true =>
    rw [moved_of_allBlank h, Function.comp_apply]
    split
    · rfl
    · exact Text.trimEnd_of_allBlank (List.all_eq_true.2 fun c hc =>
        List.all_eq_true.1 h c (List.mem_of_mem_drop hc))
  | false =>
    have hkind : ¬ l.all Text.isIndent = true := fun hall =>
      Bool.noConfusion (h.symm.trans (Text.allBlank_of_all_isIndent hall))
    rw [moved_of_not_allBlank h, Function.comp_apply, if_neg hkind]
    rfl

theorem indentLine_moved {ls : List Text} (hp : Text.IsMargin p ls) (hl : l ∈ ls) :
    indentLine (moved p [] l) = moved p indentStep l := by
  cases h : Text.allBlank l with
  | true => rw [moved_of_allBlank h, moved_of_allBlank h, indentLine, if_pos rfl]
  | false =>
    have hne : moved p [] l ≠ [] := by
      intro hnil
      have := allBlank_moved (q := []) hp hl
      rw [hnil, h] at this
      contradiction
    rw [indentLine, if_neg hne, moved_of_not_allBlank h, moved_of_not_allBlank h]
    rfl

def rows (body : Text) : List Text := (below body).map (moved (Text.margin (below body)) (step body))

theorem lines_eq (body : Text) : lines body = trimBlankLines (beside body ++ rows body) := by
  have hrows : (if entersBlock body then (tail body).map indentLine else tail body) = rows body := by
    rw [rows, tail_eq, step]
    split
    · rw [List.map_map]
      exact List.map_congr_left fun l hl => indentLine_moved (Text.isMargin_margin _) hl
    · rfl
  rw [lines, hrows, beside]
  split <;> rfl

theorem find?_map_of_same {kind : Text → Bool} {f : Text → Text} {ls : List Text}
    (h : ∀ l ∈ ls, kind (f l) = kind l) : (ls.map f).find? kind = (ls.find? kind).map f := by
  induction ls with
  | nil => rfl
  | cons l ls ih =>
    have hl := h l List.mem_cons_self
    have hls := ih fun m hm => h m (List.mem_cons_of_mem l hm)
    rw [List.map_cons, List.find?_cons, List.find?_cons, hl, hls]
    cases kind l <;> rfl

theorem startsIndented_eq (ls : List Text) : startsIndented ls =
    match ls.find? fun l => !Text.allBlank l with
    | some l => Text.startsBlank l
    | none => true := by
  rw [startsIndented]
  cases h : ls.find? fun l => !Text.allBlank l with
  | none => rfl
  | some l =>
    cases l with
    | nil => exact absurd (List.find?_some h) (by decide)
    | cons c u => rfl

theorem entersBlock_iff (body : Text) :
    entersBlock body = true ↔ Enters (Text.margin (below body)) body := by
  have hp := Text.isMargin_margin (below body)
  have hfirst : (tail body).find? (fun l => !Text.allBlank l) =
      ((below body).find? fun l => !Text.allBlank l).map (moved (Text.margin (below body)) []) := by
    rw [tail_eq]
    exact find?_map_of_same fun l hl => congrArg not (allBlank_moved hp hl)
  rw [entersBlock, startsIndented_eq, hfirst, Enters]
  cases h : (below body).find? fun l => !Text.allBlank l with
  | none => simp
  | some l =>
    have hl : l ∈ below body := List.mem_of_find?_eq_some h
    have hblank : Text.allBlank l = false := by simpa using List.find?_some h
    have hstarts : Text.startsBlank (moved (Text.margin (below body)) [] l) =
        Text.startsBlank (l.drop (Text.margin (below body)).length) := by
      rw [moved_of_not_allBlank hblank, List.nil_append,
        Text.startsBlank_trimEnd (allBlank_drop_of_isMargin hp hl hblank)]
    simp [hstarts, Option.isSome_iff_ne_none, and_assoc]

theorem mem_beside_iff : l ∈ beside body ↔ head body ≠ [] ∧ l = head body := by
  unfold beside
  split <;> simp_all

theorem mem_lines (hl : l ∈ lines body) :
    l = head body ∨ ∃ m ∈ below body, moved (Text.margin (below body)) (step body) m = l := by
  rw [lines_eq] at hl
  exact (List.mem_append.1 (mem_of_mem_trimBlankLines hl)).imp (fun h => (mem_beside_iff.1 h).2) List.mem_map.1

theorem no_break_of_mem_lines (hl : l ∈ lines body) : ∀ c ∈ l, Text.isLineBreak c = false := by
  intro c hc
  obtain rfl | ⟨m, hm, rfl⟩ := mem_lines hl
  · have hfirst := Text.mem_of_mem_trim hc
    cases hlines : (Text.lines body)[0]? with
    | none =>
      rw [hlines] at hfirst
      contradiction
    | some m =>
      rw [hlines] at hfirst
      exact (Text.of_mem_lines (List.mem_of_getElem? hlines) c hfirst).1
  · unfold moved at hc
    split at hc
    · contradiction
    · obtain hc | hc := List.mem_append.1 hc
      · have hindent := isIndent_of_mem_step hc
        simp only [Text.isIndent, Bool.or_eq_true, beq_iff_eq] at hindent
        obtain rfl | rfl := hindent <;> decide
      · have hmem := List.mem_of_mem_drop ((Text.trimEnd_prefix_self _).subset hc)
        exact (Text.of_mem_lines (List.mem_of_mem_drop hm) c hmem).1

/-- The lines `ls` are those of a body in which the margin `p` has been replaced by `q`. -/
structure Normalizes (body p q : Text) (ls : List Text) : Prop where
  margin : Text.IsMargin p (below body)
  enters : Enters p body → q = indentStep
  stays : ¬ Enters p body → q = []
  /-- What becomes of the lines that are not blank. -/
  kept : ∀ l ∈ below body, Text.allBlank l = false → ∃ x, l = p ++ x ∧ moved p q l = q ++ Text.trimEnd x
  rows : ∃ before after, beside body ++ (below body).map (moved p q) = before ++ ls ++ after ∧
    ∀ l ∈ before ++ after, Text.allBlank l = true
  ends : ∀ l, ls.head? = some l ∨ ls.getLast? = some l → Text.allBlank l = false
  once : ls.filter (fun l => !Text.allBlank l) =
    beside body ++ ((below body).filter fun l => !Text.allBlank l).map (moved p q)
  /-- Indentation stays as it is among the lines. -/
  indentation : ∀ l ∈ below body, Text.allBlank l = false →
    ∃ i, Text.indentOf l = p ++ i ∧ Text.indentOf (moved p q l) = q ++ i
  trimmed : ∀ l ∈ ls, Text.trimEnd l = l

theorem filter_map_moved {ls : List Text} (hp : Text.IsMargin p ls) :
    (ls.map (moved p q)).filter (fun l => !Text.allBlank l) =
      (ls.filter fun l => !Text.allBlank l).map (moved p q) := by
  rw [List.filter_map]
  congr 1
  exact List.filter_congr fun l hl => congrArg not (allBlank_moved hp hl)

theorem allBlank_head (h : head body ≠ []) : Text.allBlank (head body) = false := by
  rw [head, Text.allBlank_trim, Bool.eq_false_iff]
  exact fun hblank => h (Text.trim_eq_nil_iff.2 hblank)

theorem allBlank_of_mem_beside (h : l ∈ beside body) : Text.allBlank l = false := by
  obtain ⟨hne, rfl⟩ := mem_beside_iff.1 h
  exact allBlank_head hne

theorem filter_beside : (beside body).filter (fun l => !Text.allBlank l) = beside body :=
  List.filter_eq_self.2 fun l hl => by simp [allBlank_of_mem_beside hl]

theorem filter_of_allBlank {ls : List Text} (h : ∀ l ∈ ls, Text.allBlank l = true) :
    ls.filter (fun l => !Text.allBlank l) = [] :=
  List.filter_eq_nil_iff.2 fun l hl => by simp [h l hl]

/-- The lines that are not blank, each of them once. -/
theorem filter_lines (body : Text) : (lines body).filter (fun l => !Text.allBlank l) =
    beside body ++ ((below body).filter fun l => !Text.allBlank l).map
      (moved (Text.margin (below body)) (step body)) := by
  obtain ⟨before, after, hrows, hbefore, hafter⟩ := trimBlankLines_split (beside body ++ rows body)
  have hfilter := congrArg (List.filter fun l => !Text.allBlank l) hrows
  rw [← lines_eq, List.filter_append, List.filter_append, List.filter_append, filter_of_allBlank hbefore,
    filter_of_allBlank hafter, rows, filter_map_moved (Text.isMargin_margin _), filter_beside, List.nil_append,
    List.append_nil] at hfilter
  exact hfilter.symm

theorem allBlank_end (h : (lines body).head? = some l ∨ (lines body).getLast? = some l) :
    Text.allBlank l = false := by
  rw [lines_eq] at h
  exact h.elim head?_trimBlankLines getLast?_trimBlankLines

/-- Normalisation of a body loses no code. -/
theorem lines_normalizes (body : Text) : ∃ p q, Normalizes body p q (lines body) := by
  have hp := Text.isMargin_margin (below body)
  have hq : ∀ c ∈ step body, Text.isIndent c = true := fun c => isIndent_of_mem_step
  obtain ⟨before, after, hrows, hbefore, hafter⟩ := trimBlankLines_split (beside body ++ rows body)
  rw [← lines_eq] at hrows
  refine ⟨_, step body, hp, fun h => ?_, fun h => ?_, fun l hl h => ?_, ⟨before, after, hrows, ?_⟩,
    fun l => allBlank_end, filter_lines body, fun l hl h => indentOf_moved hp hq hl h, fun l hl => ?_⟩
  · rw [step, if_pos ((entersBlock_iff body).2 h)]
  · rw [step, if_neg fun henters => h ((entersBlock_iff body).1 henters)]
  · exact ⟨_, (append_drop_of_isMargin hp hl h).symm, moved_of_not_allBlank h⟩
  · exact List.forall_mem_append.2 ⟨hbefore, hafter⟩
  · obtain rfl | ⟨m, hm, rfl⟩ := mem_lines hl
    · rw [head, Text.trim, Text.trimEnd_trimEnd]
    · exact trimEnd_moved hp hm

/-- The first line holding anything is a comment behind the margin, while the first line of code is not. -/
def LedByComment (ls : List Text) : Prop :=
  ∃ f g, ls.find? (fun l => !Text.allBlank l) = some f ∧ ls.find? Body.isCode = some g ∧
    Body.isCode f = false ∧ Text.startsBlank (f.drop (Text.margin ls).length) = true ∧
    Text.startsBlank (g.drop (Text.margin ls).length) = false

theorem allBlank_of_isCode (h : Body.isCode l = true) : Text.allBlank l = false := by
  rw [Bool.eq_false_iff]
  exact fun hblank => Bool.noConfusion (h.symm.trans (Body.isCode_of_allBlank hblank))

theorem head_ne_nil_of_opener (h : Script.Opener.indent? [head body] ≠ none) : head body ≠ [] := by
  intro hnil
  rw [hnil] at h
  exact h (by decide +kernel)

theorem exists_lines_cons (h : head body ≠ []) : ∃ ls after, lines body = head body :: ls ∧
    rows body = ls ++ after ∧ ∀ l ∈ after, Text.allBlank l = true := by
  obtain ⟨before, after, hrows, hbefore, hafter⟩ := trimBlankLines_split (beside body ++ rows body)
  rw [← lines_eq, beside, if_neg h, List.singleton_append] at hrows
  have hhead : Text.allBlank (head body) ≠ true := by simp [allBlank_head h]
  cases before with
  | cons b bs => exact absurd (hbefore b List.mem_cons_self) ((List.cons.inj hrows).1 ▸ hhead)
  | nil =>
    rw [List.nil_append] at hrows
    cases hlines : lines body with
    | nil =>
      rw [hlines, List.nil_append] at hrows
      exact absurd (hafter _ (hrows ▸ List.mem_cons_self)) hhead
    | cons l ls =>
      rw [hlines, List.cons_append] at hrows
      obtain ⟨rfl, htail⟩ := List.cons.inj hrows
      exact ⟨ls, after, rfl, htail, hafter⟩

/-- The first line of code below the marker is still the first one behind the code beside it. -/
theorem find?_isCode_lines (h : head body ≠ []) : ((lines body).drop 1).find? Body.isCode =
    ((below body).find? Body.isCode).map (moved (Text.margin (below body)) (step body)) := by
  obtain ⟨ls, after, hlines, hrows, hafter⟩ := exists_lines_cons h
  have hnone : after.find? Body.isCode = none :=
    List.find?_eq_none.2 fun l hl => by simp [Body.isCode_of_allBlank (hafter l hl)]
  have hmoved : (rows body).find? Body.isCode =
      ((below body).find? Body.isCode).map (moved (Text.margin (below body)) (step body)) :=
    find?_map_of_same fun l hl => isCode_moved (Text.isMargin_margin _) (fun c => isIndent_of_mem_step) hl
  rw [hrows, List.find?_append, hnone, Option.or_none] at hmoved
  rw [hlines]
  exact hmoved

theorem find?_of_imp {kind narrower : Text → Bool} {ls : List Text} (himp : ∀ l, narrower l = true → kind l = true)
    (hfirst : ls.find? kind = some l) (h : narrower l = true) : ls.find? narrower = some l := by
  obtain ⟨-, before, after, rfl, hbefore⟩ := List.find?_eq_some_iff_append.1 hfirst
  refine List.find?_eq_some_iff_append.2 ⟨h, before, after, rfl, fun m hm => ?_⟩
  cases hnarrower : narrower m with
  | false => rfl
  | true => simpa [himp m hnarrower] using hbefore m hm

theorem startsBlank_moved_step {p : Text} (hp : Text.IsMargin p (below body)) (hl : l ∈ below body)
    (h : Text.allBlank l = false) : Text.startsBlank (moved p (step body) l) = true ↔
      entersBlock body = true ∨ Text.startsBlank (l.drop p.length) = true := by
  rw [moved_of_not_allBlank h, step]
  cases entersBlock body with
  | true => exact iff_of_true rfl (.inl rfl)
  | false =>
    rw [if_neg (by decide), List.nil_append, Text.startsBlank_trimEnd (allBlank_drop_of_isMargin hp hl h)]
    simp

/-- The first line of code below code that opens a block is indented, unless a comment misleads. -/
theorem firstCode_indented_iff (body : Text) (hopen : Script.Opener.indent? [head body] ≠ none)
    (hcode : ∃ l ∈ below body, Body.isCode l = true) :
    ∃ m, ((lines body).drop 1).find? Body.isCode = some m ∧
      (Text.startsBlank m = true ↔ ¬ LedByComment (below body)) := by
  have hp := Text.isMargin_margin (below body)
  have hne := head_ne_nil_of_opener hopen
  obtain ⟨g, hg⟩ := Option.isSome_iff_exists.1 (List.find?_isSome.2 hcode)
  have hgmem := List.mem_of_find?_eq_some hg
  have hgcode : Body.isCode g = true := List.find?_some hg
  have hgblank := allBlank_of_isCode hgcode
  obtain ⟨f, hf⟩ : ∃ f, (below body).find? (fun l => !Text.allBlank l) = some f :=
    Option.isSome_iff_exists.1 (List.find?_isSome.2 ⟨g, hgmem, by simp [hgblank]⟩)
  refine ⟨_, (find?_isCode_lines hne).trans (congrArg _ hg), ?_⟩
  have henters : entersBlock body = true ↔
      Text.startsBlank (f.drop (Text.margin (below body)).length) = false := by
    rw [entersBlock_iff, Enters, hf]
    simp [hne, hopen]
  have hled : LedByComment (below body) ↔ Body.isCode f = false ∧
      Text.startsBlank (f.drop (Text.margin (below body)).length) = true ∧
      Text.startsBlank (g.drop (Text.margin (below body)).length) = false := by
    simp [LedByComment, hf, hg]
  rw [startsBlank_moved_step hp hgmem hgblank, henters, hled]
  -- If the first line that is not blank is code, it is the first line of code.
  have hsame : Body.isCode f = true → f = g := fun hfcode =>
    Option.some.inj ((find?_of_imp (fun l hl => by simp [allBlank_of_isCode hl]) hf hfcode).symm.trans hg)
  cases hfcode : Body.isCode f with
  | true =>
    rw [hsame hfcode]
    cases Text.startsBlank (g.drop (Text.margin (below body)).length) <;> simp
  | false =>
    cases Text.startsBlank (f.drop (Text.margin (below body)).length) <;>
      cases Text.startsBlank (g.drop (Text.margin (below body)).length) <;> simp

/-- An indented comment keeps the code below it out of the block. -/
theorem firstCode_outside_block :
    Script.Opener.indent? [head "if x:\n  # note\ny = 1".toList] ≠ none ∧
      ((lines "if x:\n  # note\ny = 1".toList).drop 1).find? Body.isCode = some "y = 1".toList ∧
      LedByComment (below "if x:\n  # note\ny = 1".toList) := by
  have hopen : Script.Opener.indent? [head "if x:\n  # note\ny = 1".toList] ≠ none := by decide +kernel
  have hcode : ∃ l ∈ below "if x:\n  # note\ny = 1".toList, Body.isCode l = true :=
    ⟨"y = 1".toList, by decide +kernel, by decide +kernel⟩
  have hfound : ((lines "if x:\n  # note\ny = 1".toList).drop 1).find? Body.isCode = some "y = 1".toList := by
    decide +kernel
  obtain ⟨m, hm, hiff⟩ := firstCode_indented_iff "if x:\n  # note\ny = 1".toList hopen hcode
  obtain rfl := Option.some.inj (hm.symm.trans hfound)
  exact ⟨hopen, hfound, Classical.not_not.1 fun hled => absurd (hiff.2 hled) (by decide +kernel)⟩

theorem head_eq_of_cons {ls : List Text} (h : Text.lines body = l :: ls) : head body = Text.trim l := by
  rw [head, h]
  rfl

theorem below_eq_of_cons {ls : List Text} (h : Text.lines body = l :: ls) : below body = ls := by
  rw [below, h]
  rfl

theorem beside_eq_nil_iff : beside body = [] ↔ head body = [] := by
  unfold beside
  split <;> simp_all

theorem lines_eq_singleton_iff (hl : Text.allBlank l = false) : lines body = [l] ↔
    beside body ++ ((below body).filter fun l => !Text.allBlank l).map
      (moved (Text.margin (below body)) (step body)) = [l] := by
  rw [← filter_lines]
  constructor
  · intro h
    rw [h]
    simp [hl]
  · intro h
    have hends : ∀ m, (lines body).head? = some m ∨ (lines body).getLast? = some m → Text.allBlank m = false :=
      fun m => allBlank_end
    cases hlines : lines body with
    | nil =>
      rw [hlines] at h
      contradiction
    | cons m ms =>
      have hm := hends m (.inl (by rw [hlines]; rfl))
      rw [hlines, List.filter_cons_of_pos (by simp [hm])] at h
      obtain ⟨rfl, hms⟩ := List.cons.inj h
      -- The last line is not blank either, so it is the first one.
      cases hlast : ms.getLast? with
      | none => rw [List.getLast?_eq_none_iff.1 hlast]
      | some n =>
        have hn := hends n (.inr (by rw [hlines, List.getLast?_cons, hlast]; rfl))
        have hblank := List.filter_eq_nil_iff.1 hms n (List.mem_of_getLast? hlast)
        simp [hn] at hblank

theorem exists_lines_around (h : Text.allBlank body = false)
    (hbreak : ∀ c ∈ Text.trim body, Text.isLineBreak c = false) : ∃ before a b after,
    Text.lines body = before ++ (a ++ Text.trim body ++ b) :: after ∧ Text.allBlank a = true ∧
      Text.allBlank b = true ∧ (∀ l ∈ before, Text.allBlank l = true) ∧ ∀ l ∈ after, Text.allBlank l = true := by
  obtain ⟨v, w, hbody, hv, hw⟩ := Text.exists_eq_trim body
  obtain ⟨c, u, htrim, -⟩ := Text.exists_trim_cons h
  have hne : Text.trim body ≠ [] := by simp [htrim]
  obtain ⟨before, a, hlines, hbefore, ha⟩ := Text.exists_lines_append v
    (hbreak c (htrim ▸ List.mem_cons_self)) (u ++ w)
  have hblank : ∀ {s t : Text}, (∀ c ∈ s, c ∈ t) → Text.allBlank t = true → Text.allBlank s = true :=
    fun hs ht => List.all_eq_true.2 fun c hc => List.all_eq_true.1 ht c (hs c hc)
  rw [← List.cons_append, ← htrim, ← List.append_assoc, ← hbody, Text.lines_inFront hbreak hne] at hlines
  refine ⟨before, a, (Text.lines w).headD [], (Text.lines w).tail, ?_, hblank ha hv, ?_,
    fun l hl => hblank (hbefore l hl) hv, fun l hl => ?_⟩
  · rw [hlines]
    cases Text.lines w with
    | nil => simp [Text.inFront]
    | cons l ls => simp [Text.inFront]
  · cases hw' : Text.lines w with
    | nil => rfl
    | cons l ls =>
      have hl : l ∈ Text.lines w := hw' ▸ List.mem_cons_self
      exact hblank (fun c hc => (Text.of_mem_lines hl c hc).2) hw
  · exact hblank (fun c hc => (Text.of_mem_lines (List.mem_of_mem_tail hl) c hc).2) hw

theorem allBlank_iff_lines (t : Text) :
    Text.allBlank t = true ↔ ∀ l ∈ Text.lines t, Text.allBlank l = true := by
  induction t with
  | nil => exact iff_of_true rfl nofun
  | cons c t ih =>
    have hcons : Text.allBlank (c :: t) = (Text.isBlank c && Text.allBlank t) := rfl
    cases hc : Text.isLineBreak c with
    | true =>
      rw [hcons, Text.isBlank_of_isLineBreak hc, Bool.true_and, ih]
      obtain hnew | hsame := Text.lines_cons_cases hc t
      · rw [hnew, List.forall_mem_cons]
        exact ⟨fun h => ⟨rfl, h⟩, And.right⟩
      · rw [hsame]
    | false =>
      rw [hcons, Bool.and_eq_true, ih, Text.lines_cons hc]
      cases Text.lines t <;> simp [Text.inFront, Text.allBlank, and_assoc]

theorem lines_eq_nil_iff (body : Text) : lines body = [] ↔ Text.allBlank body = true := by
  have hnil : lines body = [] ↔ (lines body).filter (fun l => !Text.allBlank l) = [] := by
    refine ⟨fun h => by rw [h]; rfl, fun h => ?_⟩
    cases hlines : lines body with
    | nil => rfl
    | cons l ls =>
      have hl : Text.allBlank l = false := allBlank_end (.inl (by rw [hlines]; rfl))
      have hblank := List.filter_eq_nil_iff.1 h l (hlines ▸ List.mem_cons_self)
      simp [hl] at hblank
  rw [hnil, filter_lines, List.append_eq_nil_iff, List.map_eq_nil_iff, allBlank_iff_lines, List.filter_eq_nil_iff]
  cases hlines : Text.lines body with
  | nil =>
    have hhead : head body = [] := by
      rw [head, hlines]
      rfl
    refine iff_of_true ⟨beside_eq_nil_iff.2 hhead, ?_⟩ nofun
    rw [below, hlines]
    exact nofun
  | cons l ls =>
    rw [beside_eq_nil_iff, head_eq_of_cons hlines, Text.trim_eq_nil_iff, below_eq_of_cons hlines,
      List.forall_mem_cons]
    simp

theorem lines_eq_trim_iff_of_no_break (h : Text.allBlank body = false)
    (hbreak : ∀ c ∈ Text.trim body, Text.isLineBreak c = false) : lines body = [Text.trim body] ↔
      (head body = [] → ∃ l ∈ below body, Text.margin (below body) ++ Text.trim body <+: l) := by
  obtain ⟨before, a, b, after, hlines, ha, hb, hbefore, hafter⟩ := exists_lines_around h hbreak
  have hblank : Text.allBlank (Text.trim body) = false := (Text.allBlank_trim body).trans h
  have htrim : Text.trim (a ++ Text.trim body ++ b) = Text.trim body :=
    (Text.trim_surround ha hb _).trans (Text.trim_trim body)
  have hline : Text.allBlank (a ++ Text.trim body ++ b) = false := by
    rw [← Text.allBlank_trim, htrim, hblank]
  generalize a ++ Text.trim body ++ b = x at hlines htrim hline
  rw [lines_eq_singleton_iff hblank]
  cases before with
  | nil =>
    have hhead : head body = Text.trim body := (head_eq_of_cons hlines).trans htrim
    have hne : head body ≠ [] := by
      intro hnil
      rw [← hhead, hnil] at hblank
      contradiction
    rw [below_eq_of_cons hlines, filter_of_allBlank hafter, beside, if_neg hne, hhead]
    exact iff_of_true rfl fun hnil => absurd (hhead.trans hnil) hne
  | cons l before =>
    obtain ⟨hl, hbefore⟩ := List.forall_mem_cons.1 hbefore
    have hhead : head body = [] := (head_eq_of_cons hlines).trans (Text.trim_of_allBlank hl)
    have hbelow : below body = before ++ x :: after := below_eq_of_cons hlines
    have hx : x ∈ below body := by simp [hbelow]
    have hfilter : (below body).filter (fun l => !Text.allBlank l) = [x] := by
      rw [hbelow, List.filter_append, filter_of_allBlank hbefore, List.filter_cons_of_pos (by simp [hline]),
        filter_of_allBlank hafter, List.nil_append]
    have hstep : step body = [] := by
      rw [step, if_neg]
      simp [entersBlock, hhead]
    have hsplit := append_drop_of_isMargin (Text.isMargin_margin (below body)) hx hline
    rw [hfilter, beside, if_pos hhead, List.nil_append, List.map_singleton, moved_of_not_allBlank hline, hstep,
      List.nil_append]
    constructor
    · intro hrest _
      refine ⟨x, hx, ?_⟩
      rw [← hsplit, ← (List.cons.inj hrest).1]
      exact (List.prefix_append_right_inj _).2 (Text.trimEnd_prefix_self _)
    · intro hmargin
      obtain ⟨k, hk, z, hz⟩ := hmargin hhead
      have hkblank : Text.allBlank k = false := by
        rw [← hz, Text.allBlank_append, Text.allBlank_append, hblank, Bool.and_false, Bool.false_and]
      -- Only one of the lines below is not blank.
      obtain rfl : k = x := by
        have hmem : k ∈ (below body).filter fun l => !Text.allBlank l :=
          List.mem_filter.2 ⟨hk, by simp [hkblank]⟩
        rw [hfilter] at hmem
        exact List.mem_singleton.1 hmem
      have hpblank : Text.allBlank (Text.margin (below body)) = true :=
        Text.allBlank_of_all_isIndent (List.all_eq_true.2 (Text.isMargin_margin (below body)).blank)
      obtain ⟨c, u, hcode, hc⟩ := Text.exists_trim_cons h
      have hstart : Text.startsBlank (Text.trim body ++ z) = false := by
        rw [hcode]
        exact hc
      rw [← hz, List.append_assoc] at htrim ⊢
      rw [List.drop_left, ← Text.trim_of_startsBlank hstart, ← Text.trim_append hpblank, htrim]

/-- Scriptlets are cut into the lines that a module has exactly if no other character that Unicode lets end a
line stands within them. Code on a single line stays on it under the same condition, except that its margin
may stay as well. -/
theorem lines_cut (body : Text) :
    ((Text.lines body).length = (Text.sourceRows body).length ↔
      ∀ c ∈ body.dropLast, Text.isLineBreak c = true → c = '\n' ∨ c = '\r') ∧
    (lines body = [] ↔ Text.allBlank body = true) ∧
    (lines body = [Text.trim body] ↔ Text.allBlank body = false ∧
      (∀ c ∈ Text.trim body, Text.isLineBreak c = false) ∧
      (head body = [] → ∃ l ∈ below body, Text.margin (below body) ++ Text.trim body <+: l)) := by
  refine ⟨(Text.length_lines_eq_iff body).2, lines_eq_nil_iff body, fun h => ?_, fun ⟨h, hbreak, hmargin⟩ =>
    (lines_eq_trim_iff_of_no_break h hbreak).2 hmargin⟩
  have hblank : Text.allBlank body = false := by
    rw [← Text.allBlank_trim]
    exact allBlank_end (.inl (by rw [h]; rfl))
  have hbreak := no_break_of_mem_lines (h ▸ List.mem_singleton_self (Text.trim body))
  exact ⟨hblank, hbreak, (lines_eq_trim_iff_of_no_break hblank hbreak).1 h⟩

/-- A line separator within a string literal cuts it in two. -/
theorem lines_cut_line_separator :
    (Text.sourceRows "x = 'a\u2028b'".toList).length = 1 ∧
      (Text.lines "x = 'a\u2028b'".toList).length ≠ (Text.sourceRows "x = 'a\u2028b'".toList).length ∧
      lines "x = 'a\u2028b'".toList ≠ [Text.trim "x = 'a\u2028b'".toList] := by
  obtain ⟨hcount, -, hline⟩ := lines_cut "x = 'a\u2028b'".toList
  refine ⟨by decide +kernel, fun h => ?_, fun h => ?_⟩
  · exact absurd (hcount.1 h '\u2028' (by decide +kernel) (by decide)) (by decide)
  · exact absurd ((hline.1 h).2.1 '\u2028' (by decide +kernel)) (by decide)

end TemplateEngine.Scriptlet
