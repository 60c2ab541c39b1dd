import TemplateEngine.Proofs.Script.Boundary
import TemplateEngine.Proofs.Script.StatementStart

set_option autoImplicit false

/-!
# Lines inside brackets

Inside brackets a statement goes on over line ends. What stands in front of its first line only moves the
tokens of that line, and what closes behind its last line is scanned by itself, unless a comment or a
backslash is in front of it.
-/
namespace TemplateEngine.Script

def Token.slid (column : Nat) (t : Token) : Token := if t.row = 0 then t.moved 0 column else t

@[simp] theorem Token.kind_slid (column : Nat) (t : Token) : (t.slid column).kind = t.kind := by
  unfold Token.slid
  split <;> rfl

@[simp] theorem Token.text_slid (column : Nat) (t : Token) : (t.slid column).text = t.text := by
  unfold Token.slid
  split <;> rfl

def OpenString.slid (column : Nat) (s : OpenString) : OpenString :=
  if s.row = 0 then s.moved 0 column else s

def LineEnd.slid (column : Nat) : LineEnd → LineEnd
  | .openString s => .openString (s.slid column)
  | e => e

def LineState.slid (column : Nat) (st : LineState) : LineState :=
  { st with string := st.string.map (OpenString.slid column) }

def Event.slid (column : Nat) : Event → Event
  | .token t => .token (t.slid column)
  | e => e

namespace Lexeme

theorem spoils_slid (c : Nat) (t u : Token) : spoils (t.slid c) (u.slid c) = spoils t u := by
  have hrow : ∀ v : Token, (v.slid c).row = v.row := by
    intro v
    unfold Token.slid
    split <;> simp [Token.moved]
  by_cases hsame : u.row = t.row
  · have hcolumn : ((u.slid c).column = (t.slid c).column + 1) ↔ u.column = t.column + 1 := by
      unfold Token.slid
      rw [hsame]
      split
      · simp only [Token.moved]
        omega
      · rfl
    simp only [spoils, Token.kind_slid, Token.text_slid, hrow, hcolumn]
  · simp [spoils, hrow, hsame]

theorem ofTokens?_slid (c : Nat) (ts : List Token) :
    ofTokens? (ts.map (Token.slid c)) = ofTokens? ts := by
  induction ts with
  | nil => rfl
  | cons t ts ih =>
    have hs : (ts.map (Token.slid c)).head?.any (spoils (t.slid c)) = ts.head?.any (spoils t) := by
      cases ts with
      | nil => rfl
      | cons u us => simp [spoils_slid]
    have ht : ofToken? (t.slid c) = ofToken? t := by simp [ofToken?]
    rw [List.map_cons, ofTokens?, ofTokens?, hs, ht, ih]

end Lexeme

namespace LineScan

variable (rule : NameRule)

theorem depthAfter_slid (c : Nat) (d : Int) (ts : List Token) :
    depthAfter d (ts.map (Token.slid c)) = depthAfter d ts := by
  simp [depthAfter, List.foldl_map]

/-- Tokens of later rows stay where they are. -/
theorem tokens_slid (c row column : Nat) (t : Text) :
    (rest rule (row + 1) column t).1.map (Token.slid c) = (rest rule (row + 1) column t).1 := by
  refine (List.map_congr_left fun u hu => ?_).trans (List.map_id _)
  have hrow := (row_of_mem_tokens hu).1
  exact if_neg (by omega)

theorem lineEnd_slid (c row column : Nat) (t : Text) :
    (rest rule (row + 1) column t).2.slid c = (rest rule (row + 1) column t).2 := by
  cases he : (rest rule (row + 1) column t).2 with
  | openString s =>
    have hrow := (row_of_tokens_openString he).1
    exact congrArg LineEnd.openString (if_neg (by omega : ¬ s.row = 0))
  | _ => rfl

theorem finish_slid (c : Nat) (st : LineState) (ts : List Token) (e : LineEnd) :
    finish (st.slid c) (ts.map (Token.slid c), e.slid c) =
      ((finish st (ts, e)).1.map (Event.slid c), (finish st (ts, e)).2.slid c) := by
  have hts : (ts.map (Token.slid c)).map Event.token = (ts.map Event.token).map (Event.slid c) := by
    simp [Event.slid, Function.comp_def]
  unfold finish
  cases e with
  | plain =>
    simp only [LineEnd.slid, depthAfter_slid, LineState.slid, Option.map_none, hts]
    split <;> simp [Event.slid]
  | backslash => simp [LineEnd.slid, depthAfter_slid, LineState.slid, hts]
  | openString s =>
    have htriple : (s.slid c).triple = s.triple := by
      unfold OpenString.slid
      split <;> rfl
    simp [LineEnd.slid, depthAfter_slid, LineState.slid, hts, htriple]

theorem line_slid (c row : Nat) (st : LineState) (l : Text) :
    line rule (row + 1) (st.slid c) l =
      ((line rule (row + 1) st l).1.map (Event.slid c), (line rule (row + 1) st l).2.slid c) := by
  obtain ⟨string, carried, depth, joined⟩ := st
  cases string with
  | some s =>
    obtain ⟨hquote, htriple, htext⟩ :
        (s.slid c).quote = s.quote ∧ (s.slid c).triple = s.triple ∧ (s.slid c).text = s.text := by
      unfold OpenString.slid
      split <;> exact ⟨rfl, rfl, rfl⟩
    have hclosing : closing? (s.slid c) l = closing? s l := by simp [closing?, hquote, htriple]
    have htoken : ∀ x, (⟨.string, x, (s.slid c).row, (s.slid c).column⟩ : Token) =
        Token.slid c ⟨.string, x, s.row, s.column⟩ := by
      intro x
      unfold OpenString.slid Token.slid
      split <;> rfl
    have hunknown : ∀ x, (⟨.unknown, x, (s.slid c).row, (s.slid c).column⟩ : Token) =
        Token.slid c ⟨.unknown, x, s.row, s.column⟩ := by
      intro x
      unfold OpenString.slid Token.slid
      split <;> rfl
    simp only [line, LineState.slid, Option.map_some, continueString, hclosing, htext]
    cases closing? s l with
    | some x =>
      have h := finish_slid c ⟨some s, false, depth, joined⟩
        (⟨.string, s.text ++ '\n' :: x.1, s.row, s.column⟩ :: (rest rule (row + 1) x.1.length x.2).1)
        (rest rule (row + 1) x.1.length x.2).2
      rw [List.map_cons, tokens_slid, lineEnd_slid, ← htoken] at h
      exact h
    | none =>
      by_cases h : (carried && !endsInBackslash l) = true
      · simp [h, Event.slid, hunknown]
      · simp only [h, Bool.false_eq_true, if_false, List.map_nil, Option.map_some]
        unfold OpenString.slid
        split <;> rfl
  | none =>
    have hmoved : (⟨none, carried, depth, joined⟩ : LineState).slid c = ⟨none, carried, depth, joined⟩ := rfl
    have hline : line rule (row + 1) ⟨none, carried, depth, joined⟩ l =
        if depth = 0 && !joined then startStatement rule (row + 1) ⟨none, carried, depth, joined⟩ l
        else finish ⟨none, carried, depth, joined⟩ (rest rule (row + 1) 0 l) := rfl
    have hfinish : ∀ k t, finish ⟨none, carried, depth, joined⟩ (rest rule (row + 1) k t) =
        ((finish ⟨none, carried, depth, joined⟩ (rest rule (row + 1) k t)).1.map (Event.slid c),
          (finish ⟨none, carried, depth, joined⟩ (rest rule (row + 1) k t)).2.slid c) := by
      intro k t
      have h := finish_slid c ⟨none, carried, depth, joined⟩ (rest rule (row + 1) k t).1
        (rest rule (row + 1) k t).2
      rwa [tokens_slid, lineEnd_slid] at h
    rw [hmoved, hline]
    split
    · unfold startStatement
      dsimp only
      split
      · rfl
      · rfl
      · rfl
      · have h := hfinish (l.takeWhile isGap).length (l.dropWhile isGap)
        obtain ⟨hevents, hstate⟩ := Prod.ext_iff.1 h
        exact Prod.ext (congrArg (List.cons _) hevents) hstate
    · exact hfinish 0 l

theorem lines_slid (c row : Nat) (st : LineState) (ls : List Text) :
    lines rule (row + 1) (st.slid c) ls =
      ((lines rule (row + 1) st ls).1.map (Event.slid c), (lines rule (row + 1) st ls).2.slid c) := by
  induction ls generalizing row st with
  | nil => rfl
  | cons l ls ih => simp only [lines, line_slid, ih, List.map_append]

end LineScan

namespace Outline

theorem bracketsFit_slid (c : Nat) (n : Int) (ts : List Token) :
    bracketsFit n (ts.map (Token.slid c)) = bracketsFit n ts := by
  induction ts generalizing n with
  | nil => rfl
  | cons t ts ih =>
    have := LineScan.depthAfter_slid c n [t]
    rw [List.map_cons, List.map_nil] at this
    simp only [List.map_cons, bracketsFit, this, ih]

end Outline

def Event.known? : Event → Option Token
  | .token t => if t.kind = .unknown then none else some t
  | _ => none

structure LineState.Inside (st : LineState) : Prop where
  goesOn : st.string = none → st.joined = true ∨ 0 < st.depth
  carried : st.string = none → st.carried = false

theorem Token.close_append_text {q : Char} {t a b : Text} (h : close q t = .closed a b) (s : Text) :
    close q (t ++ s) = .closed a (b ++ s) := by
  fun_induction close q t generalizing a with
  | case1 => contradiction
  | case2 => contradiction
  | case3 => contradiction
  | case4 c t hno ih =>
    obtain ⟨x, hx, rfl⟩ := Ending.eq_of_prepend h
    rw [List.cons_append, List.cons_append, close, ih hx]
    · rfl
    · intro hc hnil
      exact hno hc (List.append_eq_nil_iff.1 hnil).1
  | case5 t h1 h2 h3 =>
    obtain ⟨rfl, rfl⟩ := Ending.closed.inj h
    have hslash : q ≠ '\\' := by
      intro hq
      cases t with
      | nil => exact h1 hq rfl
      | cons d t => exact h3 d t hq rfl
    rw [List.cons_append, close, if_pos rfl]
    all_goals simp [hslash]
  | case6 c t h1 h2 h3 hne ih =>
    obtain ⟨x, hx, rfl⟩ := Ending.eq_of_prepend h
    have hslash : c ≠ '\\' := by
      intro hc
      cases t with
      | nil => exact h1 hc rfl
      | cons d t => exact h3 d t hc rfl
    rw [List.cons_append, close, if_neg hne, ih hx]
    · rfl
    all_goals simp [hslash]

namespace LineScan

variable {rule : NameRule} {row column : Nat} {st : LineState} {l s : Text} {us : List Token}

theorem closing?_append {o : OpenString} {x r : Text} (h : closing? o l = some (x, r)) (s : Text) :
    closing? o (l ++ s) = some (x, r ++ s) := by
  unfold closing? at h ⊢
  by_cases htriple : o.triple = true
  · rw [if_pos htriple] at h ⊢
    exact Token.closeTriple?_append_text h s
  · rw [if_neg htriple] at h ⊢
    split at h
    · next hclose =>
      obtain ⟨rfl, rfl⟩ := Prod.mk.inj (Option.some.inj h)
      rw [Token.close_append_text hclose s]
    · contradiction

theorem mapM_known? {ts : List Token} (h : (ts.map Event.token).mapM Event.known? = some us) :
    us = ts := by
  induction ts generalizing us with
  | nil => exact (Option.some.inj h).symm
  | cons t ts ih =>
    simp only [List.map_cons, List.mapM_cons, Event.known?, Option.bind_eq_bind,
      Option.bind_eq_some_iff, Option.ite_none_left_eq_some] at h
    obtain ⟨u, ⟨-, hu⟩, vs, hvs, h⟩ := h
    obtain rfl := Option.some.inj hu
    obtain rfl := Option.some.inj h
    rw [ih hvs]

theorem mapM_known?_lineEnd (es : List Event) : (es ++ [Event.lineEnd]).mapM Event.known? = none := by
  induction es with
  | nil => rfl
  | cons e es ih =>
    rw [List.cons_append, List.mapM_cons, ih]
    cases e.known? <;> rfl

theorem finish_inside {r : List Token × LineEnd} (hcarried : st.carried = false)
    (h : (finish st r).1.mapM Event.known? = some us) :
    r.1 = us ∧ (finish st r).1 = us.map Event.token ∧ (finish st r).2.Inside ∧
      (finish st r).2.depth = depthAfter st.depth us := by
  obtain ⟨ts, e⟩ := r
  unfold finish at h ⊢
  cases e with
  | plain =>
    dsimp only at h ⊢
    by_cases hdepth : 0 < depthAfter st.depth ts
    · rw [if_pos hdepth] at h ⊢
      obtain rfl := mapM_known? h
      exact ⟨rfl, rfl, ⟨fun _ => .inr hdepth, fun _ => hcarried⟩, rfl⟩
    · rw [if_neg hdepth, mapM_known?_lineEnd] at h
      contradiction
  | backslash =>
    obtain rfl := mapM_known? h
    exact ⟨rfl, rfl, ⟨fun _ => .inl rfl, fun _ => hcarried⟩, rfl⟩
  | openString o =>
    obtain rfl := mapM_known? h
    exact ⟨rfl, rfl, ⟨nofun, nofun⟩, rfl⟩

theorem line_of_inside (h : st.Inside) (hstring : st.string = none) :
    line rule row st l = finish st (rest rule row 0 l) := by
  have hno : (decide (st.depth = 0) && !st.joined) = false := by
    obtain hjoined | hdepth := h.goesOn hstring
    · simp [hjoined]
    · simp [Int.ne_of_gt hdepth]
  simp only [line, hstring, hno]
  rfl

theorem line_inside (hst : st.Inside) (h : (line rule row st l).1.mapM Event.known? = some us) :
    (line rule row st l).1 = us.map Event.token ∧ (line rule row st l).2.Inside ∧
      (line rule row st l).2.depth = depthAfter st.depth us := by
  cases hstring : st.string with
  | none =>
    rw [line_of_inside hst hstring] at h ⊢
    exact (finish_inside (hst.carried hstring) h).2
  | some o =>
    simp only [line, hstring, continueString] at h ⊢
    split at h
    · exact (finish_inside rfl h).2
    · split at h
      · contradiction
      · next hcarried =>
        obtain rfl := Option.some.inj h
        rw [if_neg hcarried]
        exact ⟨rfl, ⟨by rintro ⟨⟩, by rintro ⟨⟩⟩, rfl⟩

/-- The tokens of the last line, which is nothing but tokens behind the string that has been left open. -/
def lastTokens? (rule : NameRule) (row : Nat) (st : LineState) (l : Text) : Option (List Token) :=
  match st.string with
  | none => (allTokens? rule l).map (List.map (Token.moved row 0))
  | some o => do
    let (x, r) ← closing? o l
    let ts ← tokens? rule (r.length + 1) x.length r
    some (⟨.string, o.text ++ '\n' :: x, o.row, o.column⟩ :: ts.map (Token.moved row 0))

/-- The tokens of lines that stand inside brackets, the last one being nothing but tokens. -/
def enclosed? (rule : NameRule) : (row : Nat) → LineState → List Text → Option (List Token)
  | _, _, [] => none
  | row, st, [l] => lastTokens? rule row st l
  | row, st, l :: m :: ls => do
    let ts ← (line rule row st l).1.mapM Event.known?
    let us ← enclosed? rule (row + 1) (line rule row st l).2 (m :: ls)
    some (ts ++ us)

def closerTokens (column : Nat) : Text → List Token
  | [] => []
  | c :: s => ⟨.operator, [c], 0, column⟩ :: closerTokens (column + 1) s

theorem rest_closers (rule : NameRule) (column : Nat) {s : Text} (hs : Closers s) :
    rest rule 0 column s = (closerTokens column s, .plain) := by
  induction s generalizing column with
  | nil => rfl
  | cons c s ih =>
    have hstart : startsToken (c :: s) = true := by
      obtain rfl | rfl : c = ')' ∨ c = ':' := hs c List.mem_cons_self <;> rfl
    exact rest_cons rule (g := []) (by simp) hstart (lead_closer rule 0 column hs)
      (ih (column + 1) fun d hd => hs d (List.mem_cons_of_mem c hd))

theorem rest_closers_row (rule : NameRule) (row column : Nat) (hs : Closers s) :
    rest rule row column s = ((closerTokens column s).map (Token.moved row 0), .plain) := by
  have h := rest_moved_row rule row 0 column s
  rwa [Nat.add_zero, rest_closers rule column hs] at h

theorem finish_plain_eq {st' : LineState} (hcarried : st.carried = st'.carried)
    (hdepth : st.depth = st'.depth) (ts : List Token) : finish st (ts, .plain) = finish st' (ts, .plain) := by
  simp [finish, hcarried, hdepth]

theorem line_behind (hrule : rule.Ends) (hst : st.Inside) (hs : Closers s)
    (h : lastTokens? rule row st l = some us) : ∃ column, line rule row st (l ++ s) =
      finish { depth := st.depth } (us ++ (closerTokens column s).map (Token.moved row 0), .plain) := by
  unfold lastTokens? at h
  cases hstring : st.string with
  | none =>
    rw [hstring] at h
    obtain ⟨ts, hts, rfl⟩ := Option.map_eq_some_iff.1 h
    have hrest := rest_append_closers hrule row 0 hs hts
    rw [rest_closers_row rule row _ hs] at hrest
    refine ⟨0 + 0 + l.length, ?_⟩
    rw [line_of_inside hst hstring, hrest]
    exact @finish_plain_eq _ { depth := st.depth } (hst.carried hstring) rfl _
  | some o =>
    simp only [hstring, Option.bind_eq_bind, Option.bind_eq_some_iff] at h
    obtain ⟨⟨x, r⟩, hclosing, ts, hts, h⟩ := h
    obtain rfl := Option.some.inj h
    have hrest := rest_append_closers hrule row 0 hs hts
    rw [rest_closers_row rule row _ hs, Nat.zero_add] at hrest
    refine ⟨x.length + r.length, ?_⟩
    simp only [line, hstring, continueString, closing?_append hclosing s, hrest]
    exact finish_plain_eq rfl rfl _

/-- Lines inside brackets yield their tokens in front of those of what closes. -/
theorem lines_behind (hrule : rule.Ends) (hs : Closers s) {ls : List Text} (hst : st.Inside)
    (h : enclosed? rule row st ls = some us) : ∃ row' column, lines rule row st (Text.behind s ls) =
      finish { depth := st.depth } (us ++ (closerTokens column s).map (Token.moved row' 0), .plain) := by
  fun_induction enclosed? rule row st ls generalizing us with
  | case1 => contradiction
  | case2 row st l =>
    obtain ⟨column, hline⟩ := line_behind hrule hst hs h
    refine ⟨row, column, ?_⟩
    simp [Text.behind, lines, hline]
  | case3 row st l m ls ih =>
    simp only [Option.bind_eq_bind, Option.bind_eq_some_iff] at h
    obtain ⟨ts, hts, vs, hvs, h⟩ := h
    obtain rfl := Option.some.inj h
    obtain ⟨hevents, hinside, hdepth⟩ := line_inside hst hts
    obtain ⟨row', column, hlines⟩ := ih hinside hvs
    refine ⟨row', column, ?_⟩
    simp only [Text.behind, lines, hlines, hevents, hdepth]
    simp only [finish, List.append_assoc, depthAfter_append, List.map_append]
    split <;> simp

/-- A text whose tokens stand in front of those of whatever follows it, so many brackets being open
behind them. -/
structure Fronts (w : Text) (front : List Token) (depth : Int) : Prop where
  starts : ∃ c r, w = c :: r ∧ isGap c = false ∧ c ≠ '#' ∧ c ≠ '\r'
  rest_append : ∀ t us e, rest Lexeme.nameRule 0 w.length t = (us, e) →
    rest Lexeme.nameRule 0 0 (w ++ t) = (front ++ us, e)
  depth : depthAfter 0 front = depth

theorem finish_append (front : List Token) (r : List Token × LineEnd) :
    finish {} (front ++ r.1, r.2) =
      (front.map Event.token ++ (finish { depth := depthAfter 0 front } r).1,
        (finish { depth := depthAfter 0 front } r).2) := by
  obtain ⟨ts, e⟩ := r
  cases e with
  | plain =>
    simp only [finish, depthAfter_append, List.map_append]
    split <;> simp
  | backslash => simp [finish, depthAfter_append]
  | openString o => simp [finish, depthAfter_append]

theorem rest_of_fronts {w : Text} {front : List Token} {depth : Int} (hw : Fronts w front depth)
    (column : Nat) (l : Text) :
    rest Lexeme.nameRule 0 column (w ++ l) =
      (front.map (Token.moved 0 column) ++
          (rest Lexeme.nameRule 0 0 l).1.map (Token.slid (column + w.length)),
        (rest Lexeme.nameRule 0 0 l).2.slid (column + w.length)) := by
  have hl := rest_eq_moved Lexeme.nameRule 0 w.length l
  rw [rest_eq_moved, hw.rest_append l _ _ hl]
  refine Prod.ext ?_ ?_
  · dsimp only
    rw [List.map_append, List.map_map]
    refine congrArg (_ ++ ·) (List.map_congr_left fun u hu => ?_)
    rw [Token.slid, if_pos (row_of_mem_tokens hu).1, Function.comp_apply, Token.moved_moved]
  · dsimp only
    cases he : (rest Lexeme.nameRule 0 0 l).2 with
    | openString o =>
      refine congrArg LineEnd.openString ?_
      rw [OpenString.slid, if_pos (row_of_tokens_openString he).1]
      simp [OpenString.moved, Nat.add_assoc]
    | _ => rfl

theorem line_of_fronts {w blanks : Text} {front : List Token} {depth : Int}
    (hw : Fronts w front depth) (hdepth : 0 < depth) (hb : ∀ c ∈ blanks, isGap c = true) (l : Text) :
    line Lexeme.nameRule 0 {} (blanks ++ (w ++ l)) =
      (.margin blanks :: ((front.map (Token.moved 0 blanks.length)).map Event.token ++
        (line Lexeme.nameRule 0 { depth } l).1.map (Event.slid (blanks.length + w.length))),
        (line Lexeme.nameRule 0 { depth } l).2.slid (blanks.length + w.length)) := by
  have hrest := rest_of_fronts hw blanks.length l
  obtain ⟨c, r, rfl, hc, hhash, hcr⟩ := hw.starts
  have hfinish := finish_append (front.map (Token.moved 0 blanks.length))
    ((rest Lexeme.nameRule 0 0 l).1.map (Token.slid (blanks.length + (c :: r).length)),
      (rest Lexeme.nameRule 0 0 l).2.slid (blanks.length + (c :: r).length))
  have hslid := finish_slid (blanks.length + (c :: r).length) { depth }
    (rest Lexeme.nameRule 0 0 l).1 (rest Lexeme.nameRule 0 0 l).2
  have hstate : LineState.slid (blanks.length + (c :: r).length) { depth } = { depth } := rfl
  rw [depthAfter_moved, hw.depth] at hfinish
  rw [hstate] at hslid
  have hinside : LineState.Inside { depth } := ⟨fun _ => .inr hdepth, fun _ => rfl⟩
  have hline : line Lexeme.nameRule 0 {} (blanks ++ (c :: r ++ l)) =
      startStatement Lexeme.nameRule 0 {} (blanks ++ (c :: r ++ l)) := rfl
  rw [line_of_inside hinside rfl, hline, List.cons_append,
    startStatement_of_start Lexeme.nameRule hb hc hhash hcr, ← List.cons_append, hrest, hfinish, hslid]

theorem lines_of_fronts {w blanks : Text} {front : List Token} {depth : Int}
    (hw : Fronts w front depth) (hdepth : 0 < depth) (hb : ∀ c ∈ blanks, isGap c = true) (row : Nat)
    (l : Text) (ls : List Text) :
    lines Lexeme.nameRule row {} ((blanks ++ (w ++ l)) :: ls) =
      (.margin blanks :: ((front.map (Token.moved 0 blanks.length)).map Event.token ++
          (lines Lexeme.nameRule 0 { depth } (l :: ls)).1.map
            (Event.slid (blanks.length + w.length))).map (Event.moved row),
        ((lines Lexeme.nameRule 0 { depth } (l :: ls)).2.slid (blanks.length + w.length)).moved row) := by
  have hmoved := lines_moved Lexeme.nameRule row 0 {} ((blanks ++ (w ++ l)) :: ls)
  rw [LineState.moved_start, Nat.add_zero] at hmoved
  rw [hmoved]
  suffices h : lines Lexeme.nameRule 0 {} ((blanks ++ (w ++ l)) :: ls) =
      (.margin blanks :: ((front.map (Token.moved 0 blanks.length)).map Event.token ++
        (lines Lexeme.nameRule 0 { depth } (l :: ls)).1.map (Event.slid (blanks.length + w.length))),
        (lines Lexeme.nameRule 0 { depth } (l :: ls)).2.slid (blanks.length + w.length)) by
    rw [h]
    rfl
  simp only [lines, line_of_fronts hw hdepth hb, lines_slid, List.cons_append, List.map_append, List.append_assoc]

end LineScan

namespace Outline

open LineScan

theorem readAs_of_tokens {ls : List Text} {n : Nat} {l : List Lexeme}
    (h : ∀ row, ∃ ts, lines Lexeme.nameRule row {} ls =
      (.margin (indentOf n) :: (ts.map Event.token ++ [.lineEnd]), {}) ∧ ts ≠ [] ∧
        bracketsFit 0 ts = true ∧ Lexeme.ofTokens? ts = some l) : ReadAs ls [(n, l)] := by
  intro row b
  obtain ⟨ts, hlines, hne, hfit, hspelled⟩ := h row
  refine ⟨_, [(indentOf n, ts)], indentOf n, hlines, fun rest => ?_, ?_⟩
  · have hreverse : ts.reverse ≠ [] := by simpa using hne
    simp [cutLines, cutLines_tokens, hreverse]
  · simp [content, Row.item, Item.content, hfit, hspelled]

end Outline
end TemplateEngine.Script
