import TemplateEngine.Text.Lines

set_option autoImplicit false

/-!
# Lines of texts

A text without line feeds is one piece, and a line feed between two texts keeps their pieces apart. A
scriptlet's body is cut at more characters than end the lines of a module.
-/
namespace TemplateEngine.Text

theorem forall_mem_of_all {p : Char → Prop} [DecidablePred p] {t : Text}
    (h : t.all (fun c => decide (p c)) = true) : ∀ c ∈ t, p c :=
  fun c hc => of_decide_eq_true (List.all_eq_true.1 h c hc)

theorem physicalLines_ne_nil (t : Text) : physicalLines t ≠ [] := by
  fun_cases physicalLines t <;> simp_all

theorem physicalLines_append (s t : Text) :
    physicalLines (s ++ '\n' :: t) = physicalLines s ++ physicalLines t := by
  induction s with
  | nil => simp [physicalLines]
  | cons c s ih =>
    rw [List.cons_append, physicalLines, physicalLines, ih]
    split
    · rfl
    · cases hs : physicalLines s with
      | nil => exact absurd hs (physicalLines_ne_nil s)
      | cons l ls => rfl

theorem physicalLines_eq_singleton {t : Text} (h : '\n' ∉ t) : physicalLines t = [t] := by
  induction t with
  | nil => rfl
  | cons c t ih =>
    simp only [List.mem_cons, not_or] at h
    rw [physicalLines, if_neg (Ne.symm h.1), ih h.2]

theorem physicalLines_join {ls : List Text} (hne : ls ≠ []) (h : ∀ l ∈ ls, '\n' ∉ l) :
    physicalLines (join ['\n'] ls) = ls := by
  induction ls with
  | nil => contradiction
  | cons l ls ih =>
    have hl := physicalLines_eq_singleton (h l List.mem_cons_self)
    cases ls with
    | nil => exact hl
    | cons m ms =>
      have hrest := ih (by simp) fun k hk => h k (List.mem_cons_of_mem l hk)
      have hjoin : join ['\n'] (l :: m :: ms) = l ++ '\n' :: join ['\n'] (m :: ms) := by
        simp [join]
      rw [hjoin, physicalLines_append, hl, hrest]
      rfl

def inFront (s : Text) : List Text → List Text
  | [] => [s]
  | l :: ls => (s ++ l) :: ls

def behind (s : Text) : List Text → List Text
  | [] => [s]
  | [l] => [l ++ s]
  | l :: m :: ls => l :: behind s (m :: ls)

theorem physicalLines_inFront {s : Text} (h : '\n' ∉ s) (t : Text) :
    physicalLines (s ++ t) = inFront s (physicalLines t) := by
  obtain ⟨l, ls, ht⟩ := List.exists_cons_of_ne_nil (physicalLines_ne_nil t)
  induction s with
  | nil => simp [ht, inFront]
  | cons c s ih =>
    simp only [List.mem_cons, not_or] at h
    rw [List.cons_append, physicalLines, if_neg (Ne.symm h.1), ih h.2, ht]
    rfl

theorem physicalLines_behind {s : Text} (h : '\n' ∉ s) (t : Text) :
    physicalLines (t ++ s) = behind s (physicalLines t) := by
  induction t with
  | nil => simpa [physicalLines, behind] using physicalLines_eq_singleton h
  | cons c t ih =>
    obtain ⟨l, ls, ht⟩ := List.exists_cons_of_ne_nil (physicalLines_ne_nil t)
    rw [List.cons_append, physicalLines, physicalLines, ih, ht]
    by_cases hc : c = '\n'
    · simp [hc, behind]
    · cases ls <;> simp [hc, behind]

theorem unifyLineEnds_eq_self {t : Text} (h : '\r' ∉ t) : unifyLineEnds t = t := by
  induction t with
  | nil => rfl
  | cons c t ih =>
    simp only [List.mem_cons, not_or] at h
    rw [unifyLineEnds, ih h.2, if_neg (Ne.symm h.1)]
    rintro u rfl
    exact absurd rfl h.1

theorem not_mem_unifyLineEnds (t : Text) : '\r' ∉ unifyLineEnds t := by
  fun_induction unifyLineEnds t with
  | case1 => simp
  | case2 t ih => simp [ih]
  | case3 c t _ ih =>
    rw [List.mem_cons, not_or]
    refine ⟨?_, ih⟩
    split
    · decide
    · exact Ne.symm ‹_›

theorem mem_unifyLineEnds {c : Char} (hn : c ≠ '\n') (hr : c ≠ '\r') (t : Text) :
    c ∈ unifyLineEnds t ↔ c ∈ t := by
  fun_induction unifyLineEnds t with
  | case1 => rfl
  | case2 t ih => simp [ih, hn, hr]
  | case3 d t _ ih =>
    rw [List.mem_cons, List.mem_cons, ih]
    by_cases hd : d = '\r'
    · simp [hd, hn, hr]
    · simp [hd]

theorem unifyLineEnds_cons {c : Char} {t : Text} (h : c = '\r' → t.head? ≠ some '\n') :
    unifyLineEnds (c :: t) = (if c = '\r' then '\n' else c) :: unifyLineEnds t := by
  rw [unifyLineEnds]
  rintro u rfl rfl
  exact h rfl rfl

theorem unifyLineEnds_append {s t : Text} (h : s.getLast? = some '\r' → t.head? ≠ some '\n') :
    unifyLineEnds (s ++ t) = unifyLineEnds s ++ unifyLineEnds t := by
  fun_induction unifyLineEnds s with
  | case1 => rfl
  | case2 s ih =>
    have hs : s.getLast? = some '\r' → t.head? ≠ some '\n' := by
      cases s with
      | nil => simp
      | cons c s => simpa using h
    rw [List.cons_append, List.cons_append, unifyLineEnds, ih hs]
    rfl
  | case3 c s hno ih =>
    cases s with
    | nil =>
      have ht : c = '\r' → t.head? ≠ some '\n' := by simpa using h
      rw [List.singleton_append, unifyLineEnds_cons ht]
      rfl
    | cons d s =>
      have hd : c = '\r' → (d :: s ++ t).head? ≠ some '\n' := by
        rintro hc hd
        obtain rfl := Option.some.inj hd
        exact hno s hc rfl
      rw [List.cons_append, unifyLineEnds_cons hd, ih (by simpa using h), List.cons_append]

def sourceLines (t : Text) : List Text := physicalLines (unifyLineEnds t)

theorem sourceLines_eq_singleton {t : Text} (hn : '\n' ∉ t) (hr : '\r' ∉ t) : sourceLines t = [t] := by
  rw [sourceLines, unifyLineEnds_eq_self hr, physicalLines_eq_singleton hn]

theorem flatMap_sourceLines {ls : List Text} (h : ∀ l ∈ ls, '\n' ∉ l ∧ '\r' ∉ l) :
    ls.flatMap sourceLines = ls := by
  have hsingle := List.map_congr_left fun l hl => sourceLines_eq_singleton (h l hl).1 (h l hl).2
  rw [List.flatMap_def, hsingle, ← List.flatMap_def, List.flatMap_singleton']

theorem sourceLines_behind {b t : Text} (hn : '\n' ∉ b) (hr : '\r' ∉ b) :
    sourceLines (t ++ b) = behind b (sourceLines t) := by
  have hfirst : b.head? ≠ some '\n' := fun h => hn (List.mem_of_head? h)
  rw [sourceLines, unifyLineEnds_append fun _ => hfirst, unifyLineEnds_eq_self hr,
    physicalLines_behind hn, sourceLines]

theorem sourceLines_inFront {a t : Text} (hn : '\n' ∉ a) (hr : '\r' ∉ a) :
    sourceLines (a ++ t) = inFront a (sourceLines t) := by
  have hlast : a.getLast? ≠ some '\r' := fun h => hr (List.mem_of_getLast? h)
  rw [sourceLines, unifyLineEnds_append (absurd · hlast), unifyLineEnds_eq_self hr,
    physicalLines_inFront hn, ← sourceLines]

theorem sourceLines_surround {a b t : Text} (han : '\n' ∉ a) (har : '\r' ∉ a) (hbn : '\n' ∉ b)
    (hbr : '\r' ∉ b) :
    sourceLines (a ++ (t ++ b)) = inFront a (behind b (sourceLines t)) := by
  rw [sourceLines_inFront han har, sourceLines_behind hbn hbr]

theorem of_mem_physicalLines {t l : Text} (hl : l ∈ physicalLines t) : ∀ c ∈ l, c ≠ '\n' ∧ c ∈ t := by
  fun_induction physicalLines t generalizing l with
  | case1 => simp_all
  | case2 t ih =>
    intro c hc
    obtain rfl | hl := List.mem_cons.1 hl
    · simp at hc
    · have := ih hl c hc
      exact ⟨this.1, List.mem_cons_of_mem _ this.2⟩
  | case3 c t hc hlines ih => exact absurd hlines (physicalLines_ne_nil t)
  | case4 c t hc m ms hlines ih =>
    intro d hd
    obtain rfl | hl := List.mem_cons.1 hl
    · obtain rfl | hd := List.mem_cons.1 hd
      · exact ⟨hc, List.mem_cons_self⟩
      · have := ih (l := m) (by simp [hlines]) d hd
        exact ⟨this.1, List.mem_cons_of_mem _ this.2⟩
    · have := ih (l := l) (by simp [hlines, hl]) d hd
      exact ⟨this.1, List.mem_cons_of_mem _ this.2⟩

theorem of_mem_lines {t l : Text} (hl : l ∈ lines t) :
    ∀ c ∈ l, isLineBreak c = false ∧ c ∈ t := by
  fun_induction lines t generalizing l with
  | case1 => simp at hl
  | case2 t ih =>
    intro c hc
    obtain rfl | hl := List.mem_cons.1 hl
    · simp at hc
    · have := ih hl c hc
      simp [this.1, this.2]
  | case3 c t _ hb ih =>
    intro d hd
    obtain rfl | hl := List.mem_cons.1 hl
    · simp at hd
    · have := ih hl d hd
      simp [this.1, this.2]
  | case4 c t _ hb hlines ih =>
    intro d hd
    obtain rfl := List.mem_singleton.1 hl
    obtain rfl := List.mem_singleton.1 hd
    simpa using hb
  | case5 c t _ hb m ms hlines ih =>
    intro d hd
    obtain rfl | hl := List.mem_cons.1 hl
    · obtain rfl | hd := List.mem_cons.1 hd
      · simpa using hb
      · have := ih (l := m) (by simp [hlines]) d hd
        simp [this.1, this.2]
    · have := ih (l := l) (by simp [hlines, hl]) d hd
      simp [this.1, this.2]

theorem lines_cons {c : Char} {t : Text} (hc : isLineBreak c = false) :
    lines (c :: t) = inFront [c] (lines t) := by
  have hcr : c ≠ '\r' := by
    rintro rfl
    exact absurd hc (by decide)
  rw [lines]
  · rw [if_neg (by simp [hc])]
    cases lines t <;> rfl
  · rintro u rfl
    contradiction

theorem lines_return_feed (t : Text) : lines ('\r' :: '\n' :: t) = [] :: lines t := lines.eq_2 t

theorem lines_cons_break {c : Char} {t : Text} (hc : isLineBreak c = true) (h : c = '\r' → t.head? ≠ some '\n') :
    lines (c :: t) = [] :: lines t := by
  rw [lines]
  · rw [if_pos hc]
  · rintro u rfl rfl
    exact h rfl rfl

theorem lines_cons_cases {c : Char} (hc : isLineBreak c = true) (t : Text) :
    lines (c :: t) = [] :: lines t ∨ lines (c :: t) = lines t := by
  by_cases h : c = '\r' ∧ t.head? = some '\n'
  · obtain ⟨rfl, hn⟩ := h
    obtain ⟨u, rfl⟩ := List.head?_eq_some_iff.1 hn
    have hfeed : lines ('\n' :: u) = [] :: lines u := lines_cons_break (by decide) (by simp)
    exact .inr ((lines_return_feed u).trans hfeed.symm)
  · exact .inl (lines_cons_break hc fun hr hn => h ⟨hr, hn⟩)

theorem lines_inFront {s : Text} (hs : ∀ c ∈ s, isLineBreak c = false) (hne : s ≠ []) (t : Text) :
    lines (s ++ t) = inFront s (lines t) := by
  induction s with
  | nil => exact absurd rfl hne
  | cons c s ih =>
    obtain ⟨hc, hs⟩ := List.forall_mem_cons.1 hs
    rw [List.cons_append, lines_cons hc]
    cases s with
    | nil => rfl
    | cons d s =>
      rw [ih hs (by simp)]
      cases lines t <;> rfl

theorem lines_eq_self {s : Text} (hne : s ≠ []) (hs : ∀ c ∈ s, isLineBreak c = false) : lines s = [s] := by
  have := lines_inFront hs hne []
  rwa [List.append_nil] at this

theorem exists_lines_append (s : Text) {c : Char} (hc : isLineBreak c = false) (t : Text) :
    ∃ before a, lines (s ++ c :: t) = before ++ inFront a (lines (c :: t)) ∧
      (∀ l ∈ before, ∀ d ∈ l, d ∈ s) ∧ ∀ d ∈ a, d ∈ s := by
  induction s with
  | nil =>
    refine ⟨[], [], ?_, nofun, nofun⟩
    rw [List.nil_append, List.nil_append, lines_cons hc]
    cases lines t <;> rfl
  | cons e s ih =>
    obtain ⟨before, a, hlines, hbefore, ha⟩ := ih
    have hbefore : ∀ l ∈ before, ∀ d ∈ l, d ∈ e :: s := fun l hl d hd =>
      List.mem_cons_of_mem e (hbefore l hl d hd)
    have ha : ∀ d ∈ a, d ∈ e :: s := fun d hd => List.mem_cons_of_mem e (ha d hd)
    rw [List.cons_append]
    cases he : isLineBreak e with
    | true =>
      obtain hnew | hsame := lines_cons_cases he (s ++ c :: t)
      · exact ⟨[] :: before, a, by rw [hnew, hlines, List.cons_append],
          List.forall_mem_cons.2 ⟨nofun, hbefore⟩, ha⟩
      · exact ⟨before, a, by rw [hsame, hlines], hbefore, ha⟩
    | false =>
      rw [lines_cons he, hlines]
      cases before with
      | nil =>
        refine ⟨[], e :: a, ?_, nofun, List.forall_mem_cons.2 ⟨List.mem_cons_self, ha⟩⟩
        rw [List.nil_append, List.nil_append]
        cases lines (c :: t) <;> rfl
      | cons l before =>
        obtain ⟨hl, hbefore⟩ := List.forall_mem_cons.1 hbefore
        exact ⟨(e :: l) :: before, a, rfl,
          List.forall_mem_cons.2 ⟨List.forall_mem_cons.2 ⟨List.mem_cons_self, hl⟩, hbefore⟩, ha⟩

/-- The lines that the reader of a module takes a text for: nothing behind the last line end is no line. -/
def sourceRows (t : Text) : List Text :=
  if (sourceLines t).getLast? = some [] then (sourceLines t).dropLast else sourceLines t

theorem sourceLines_ne_nil (t : Text) : sourceLines t ≠ [] := physicalLines_ne_nil _

theorem length_sourceRows_of_cons {s t : Text} {l : Text} (h : sourceLines s = l :: sourceLines t) :
    (sourceRows s).length = (sourceRows t).length + 1 := by
  obtain ⟨m, ms, ht⟩ := List.exists_cons_of_ne_nil (sourceLines_ne_nil t)
  rw [sourceRows, sourceRows, h, ht, List.getLast?_cons_cons, List.dropLast_cons_cons]
  split <;> rfl

theorem length_sourceRows_of_inFront {s t a : Text} (ha : a ≠ []) (h : sourceLines s = inFront a (sourceLines t)) :
    (sourceRows s).length = max 1 (sourceRows t).length := by
  obtain ⟨l, ls, ht⟩ := List.exists_cons_of_ne_nil (sourceLines_ne_nil t)
  rw [sourceRows, sourceRows, h, ht, inFront]
  cases ls with
  | nil =>
    rw [if_neg (by simp [ha])]
    split <;> simp
  | cons m ms =>
    rw [List.getLast?_cons_cons, List.getLast?_cons_cons, List.dropLast_cons_cons, List.dropLast_cons_cons]
    split <;> simp

theorem sourceLines_return_feed (t : Text) : sourceLines ('\r' :: '\n' :: t) = [] :: sourceLines t := rfl

theorem sourceLines_cons_end {c : Char} {t : Text} (hc : c = '\n' ∨ c = '\r') (h : c = '\r' → t.head? ≠ some '\n') :
    sourceLines (c :: t) = [] :: sourceLines t := by
  have hunify : unifyLineEnds (c :: t) = '\n' :: unifyLineEnds t := by
    rw [unifyLineEnds_cons h]
    obtain rfl | rfl := hc <;> rfl
  rw [sourceLines, hunify]
  rfl

theorem sourceLines_cons {c : Char} (hc : ¬ (c = '\n' ∨ c = '\r')) (t : Text) :
    sourceLines (c :: t) = inFront [c] (sourceLines t) := by
  rw [not_or] at hc
  exact sourceLines_inFront (a := [c]) (by simp [Ne.symm hc.1]) (by simp [Ne.symm hc.2])

theorem head?_ne_feed {c : Char} {t : Text} (h : ∀ u, c = '\r' → t = '\n' :: u → False) (hc : c = '\r') :
    t.head? ≠ some '\n' := by
  intro hn
  obtain ⟨u, rfl⟩ := List.head?_eq_some_iff.1 hn
  exact h u hc rfl

theorem length_sourceRows_pos {t : Text} (h : t ≠ []) : 0 < (sourceRows t).length := by
  cases t using unifyLineEnds.fun_cases with
  | case1 => contradiction
  | case2 t =>
    rw [length_sourceRows_of_cons (sourceLines_return_feed t)]
    omega
  | case3 c t hno =>
    by_cases hend : c = '\n' ∨ c = '\r'
    · rw [length_sourceRows_of_cons (sourceLines_cons_end hend (head?_ne_feed hno))]
      omega
    · rw [length_sourceRows_of_inFront (by simp) (sourceLines_cons hend t)]
      omega

theorem length_lines_cons {c : Char} (hc : isLineBreak c = false) (t : Text) :
    (lines (c :: t)).length = max 1 (lines t).length := by
  rw [lines_cons hc]
  cases lines t with
  | nil => rfl
  | cons l ls =>
    change ls.length + 1 = max 1 (ls.length + 1)
    omega

theorem length_lines_pos {t : Text} (h : t ≠ []) : 0 < (lines t).length := by
  fun_cases lines t <;> simp_all

/-- A text is cut into as many lines as it holds for the reader of a module exactly if nothing but a carriage
return or a line feed ends a line within it; otherwise it is cut into more. -/
theorem length_lines_eq_iff (t : Text) : (sourceRows t).length ≤ (lines t).length ∧
    ((lines t).length = (sourceRows t).length ↔
      ∀ c ∈ t.dropLast, isLineBreak c = true → c = '\n' ∨ c = '\r') := by
  induction t using unifyLineEnds.induct with
  | case1 => exact ⟨Nat.le_refl 0, iff_of_true rfl nofun⟩
  | case2 t ih =>
    rw [length_sourceRows_of_cons (sourceLines_return_feed t), lines_return_feed, List.length_cons]
    refine ⟨by omega, ?_⟩
    rw [Nat.add_right_cancel_iff, ih.2]
    cases t <;> simp
  | case3 c t hno ih =>
    have hnext := head?_ne_feed hno
    by_cases hend : c = '\n' ∨ c = '\r'
    · have hbreak : isLineBreak c = true := by obtain rfl | rfl := hend <;> decide
      rw [length_sourceRows_of_cons (sourceLines_cons_end hend hnext), lines_cons_break hbreak hnext,
        List.length_cons]
      refine ⟨by omega, ?_⟩
      rw [Nat.add_right_cancel_iff, ih.2]
      cases t <;> simp [hend]
    · rw [length_sourceRows_of_inFront (by simp) (sourceLines_cons hend t)]
      cases hbreak : isLineBreak c with
      | true =>
        rw [lines_cons_break hbreak hnext, List.length_cons]
        cases t with
        | nil => exact ⟨by decide, iff_of_true (by decide) nofun⟩
        | cons d t =>
          have hpos := length_lines_pos (List.cons_ne_nil d t)
          refine ⟨by omega, iff_of_false (by omega) fun hall => ?_⟩
          exact hend (hall c List.mem_cons_self hbreak)
      | false =>
        rw [length_lines_cons hbreak]
        refine ⟨by omega, ?_⟩
        cases t with
        | nil => exact iff_of_true (by decide) nofun
        | cons d t =>
          rw [Nat.max_eq_right (length_lines_pos (List.cons_ne_nil d t)),
            Nat.max_eq_right (length_sourceRows_pos (List.cons_ne_nil d t)), ih.2]
          simp [hbreak]

end TemplateEngine.Text
