import Mathlib.Data.List.DropRight
import TemplateEngine.Proofs.Script.Phrase

set_option autoImplicit false

/-!
# Expressions by themselves

An expression that is the one line of a text is scanned there outside brackets. Inside brackets its lines
yield the same tokens, unless the text ends in a comment, which would hide what closes.
-/
namespace TemplateEngine.Script

/-- Whether a text ends in a comment: what is written behind it is not read. -/
def Outline.EndsInComment (t : Text) : Prop := Outline.lines? (t ++ [')']) = Outline.lines? t

/-- A text is an expression by itself: a line of a program that is one expression, without a comma or a
star around it. The blanks in front of it do not matter. -/
structure Expr.Alone (t : Text) (ts : List Token) (e : Expr) : Prop where
  line : ∃ blanks, Outline.lines? t = some [(blanks, ts)]
  parsed : ∃ ls, Lexeme.ofTokens? ts = some ls ∧ Grammar.expression (Grammar.fuel ls) ls = some (e, [])

def Event.token? : Event → Option Token
  | .token t => some t
  | _ => none

def LineState.deeper (n : Int) (st : LineState) : LineState := { st with depth := st.depth + n }

/-- No string that goes on is forgotten, and no more brackets have been closed than opened. -/
structure LineState.Steady (st : LineState) : Prop where
  carried : st.string = none → st.carried = false
  goesOn : st.string = none → st.joined = true ∨ 0 ≤ st.depth

structure LineState.Settled (st : LineState) : Prop where
  string : st.string = none
  depth : st.depth = 0
  joined : st.joined = false

theorem LineState.Steady.inside {st : LineState} {n : Int} (h : st.Steady) (hn : 0 < n) :
    (st.deeper n).Inside where
  goesOn hs := (h.goesOn hs).imp_right fun hd => by
    simp only [deeper]
    omega
  carried := h.carried

namespace LineScan

def tokensOf (es : List Event) : List Token := es.filterMap Event.token?

@[simp] theorem tokensOf_append (es fs : List Event) : tokensOf (es ++ fs) = tokensOf es ++ tokensOf fs :=
  List.filterMap_append

@[simp] theorem tokensOf_map_token (ts : List Token) : tokensOf (ts.map Event.token) = ts := by
  simp [tokensOf, List.filterMap_map, Function.comp_def, Event.token?]

def Known (ts : List Token) : Prop := ∀ t ∈ ts, t.kind ≠ .unknown

theorem mapM_known?_of_known {ts : List Token} (h : Known ts) :
    (ts.map Event.token).mapM Event.known? = some ts := by
  have hall : ∀ t ∈ ts, (Event.token t).known? = some t := fun t ht => if_neg (h t ht)
  induction ts with
  | nil => rfl
  | cons t ts ih =>
    obtain ⟨ht, hts⟩ := List.forall_mem_cons.1 h
    simp [List.mapM_cons, hall t List.mem_cons_self, ih hts fun u hu => hall u (List.mem_cons_of_mem t hu)]

variable {rule : NameRule} {row column : Nat} {st : LineState} {l t : Text} {ts : List Token}
  {n : Int}

/-- A greater number bounds the tokens as well. -/
theorem tokens?_mono {n m column : Nat} {t : Text} {ts : List Token} (hn : n ≤ m)
    (h : tokens? rule n column t = some ts) : tokens? rule m column t = some ts := by
  induction n generalizing m column t ts with
  | zero => contradiction
  | succ n ih =>
    obtain ⟨m, rfl⟩ : ∃ k, m = k + 1 := ⟨m - 1, by omega⟩
    rw [tokens?] at h ⊢
    split at h
    · next hu => rwa [if_pos hu]
    · next hu =>
      rw [if_neg hu]
      split at h
      · next hstart =>
        rw [if_pos hstart]
        split at h
        · next hlead =>
          obtain ⟨us, hus, rfl⟩ := Option.map_eq_some_iff.1 h
          rw [ih (by omega) hus]
          rfl
        · contradiction
      · contradiction

/-- A backslash starts no token. -/
theorem lead_backslash (row column : Nat) (t : Text) :
    lead Lexeme.nameRule row column ('\\' :: t) = .none := by
  have hops : ∀ o ∈ Token.operators, o.head? ≠ some '\\' := by decide
  have hpart : Lexeme.nameRule.part '\\' = false := by decide
  simp [lead, Token.opening?_eq_none_of_head t (by decide : Token.isQuote '\\' = false) (by decide),
    Token.number?_eq_none t (by decide : '\\'.isDigit = false) (by decide),
    Token.operator?_eq_none t hops, word, hpart]

/-- A line that goes on with neither its end nor a comment goes on with a token. -/
theorem lead_of_rest {c : Char} {u : Text} {e : LineEnd} (hr : '\r' ∉ t) (hu : t.dropWhile isGap = c :: u)
    (hc : c ≠ '#') (he : c :: u = ['\\'] → e ≠ .backslash)
    (h : rest Lexeme.nameRule row column t = (ts, e)) (hknown : Known ts) : startsToken (c :: u) = true ∧
      ((∃ k x r us, lead Lexeme.nameRule row (column + (t.takeWhile isGap).length) (c :: u) = .token k x r ∧
        rest Lexeme.nameRule row (column + (t.takeWhile isGap).length + x.length) r = (us, e) ∧
        ts = ⟨k, x, row, column + (t.takeWhile isGap).length⟩ :: us) ∨
      ∃ s, lead Lexeme.nameRule row (column + (t.takeWhile isGap).length) (c :: u) = .openString s ∧
        e = .openString s) := by
  have hmem : ∀ d ∈ c :: u, d ≠ '\r' := by
    rintro d hd rfl
    rw [← hu] at hd
    exact hr ((List.dropWhile_suffix _).subset hd)
  have hgap := isGap_of_dropWhile hu
  have hlen := length_dropWhile_gap t
  rw [rest, tokens, hu] at h
  split at h
  · contradiction
  · next heq => exact absurd (List.cons.inj heq).1 (hmem c List.mem_cons_self)
  · next heq => exact absurd (Prod.mk.inj h).2.symm (he heq)
  · next heq => exact absurd rfl (hmem '\r' (heq ▸ by simp))
  · next heq => exact absurd (List.cons.inj heq).1 hc
  · have hslash : c ≠ '\\' := by
      rintro rfl
      rw [lead_backslash] at h
      obtain ⟨rfl, -⟩ := Prod.mk.inj h
      exact hknown _ List.mem_cons_self rfl
    refine ⟨by simp [startsToken, hgap, hc, hslash, hmem c List.mem_cons_self], ?_⟩
    split at h
    · next x r hl =>
      obtain ⟨hx, hne⟩ := lead_append _ hl
      have hlen := congrArg List.length hx
      have := List.length_pos_iff.2 hne
      rw [List.length_append, ← hu] at hlen
      rw [tokens_eq_rest _ row _ _ r (by omega)] at h
      obtain ⟨rfl, rfl⟩ := Prod.mk.inj h
      exact .inl ⟨_, _, _, _, hl, rfl, rfl⟩
    · next hl =>
      obtain ⟨rfl, rfl⟩ := Prod.mk.inj h
      exact .inr ⟨_, hl, rfl⟩
    · obtain ⟨rfl, -⟩ := Prod.mk.inj h
      exact absurd rfl (hknown _ List.mem_cons_self)

/-- A comment is dropped. -/
theorem rest_comment {c : Text} (hr : '\r' ∉ t) (hu : t.dropWhile isGap = '#' :: c) :
    rest rule row column t = ([], .plain) := by
  have hall : c.takeWhile (· ≠ '\r') = c := List.takeWhile_eq_self_iff.2 fun d hd => by
    have hmem : d ∈ t := (List.dropWhile_suffix _).subset (hu ▸ List.mem_cons_of_mem _ hd)
    simp only [ne_eq, decide_eq_true_eq]
    rintro rfl
    exact hr hmem
  simp only [rest, tokens, hu, hall, List.drop_length]
  cases t <;> rfl

theorem lead_zero {k : TokenKind} {x r : Text} (h : lead rule row column t = .token k x r) :
    lead rule 0 column t = .token k x r := by
  have hmoved := lead_moved rule row 0 0 column t
  rw [Nat.add_zero, Nat.zero_add, h] at hmoved
  cases hl : lead rule 0 column t <;> rw [hl] at hmoved
  · exact hmoved.symm
  · contradiction
  · contradiction

/-- A text of tokens is nothing but tokens, or hides what closes behind it. -/
theorem tokens?_or_hides (hr : '\r' ∉ t) (h : rest Lexeme.nameRule row column t = (ts, .plain))
    (hknown : Known ts) :
    (∃ us, tokens? Lexeme.nameRule (t.length + 1) column t = some us ∧ ts = us.map (Token.moved row 0)) ∨
      rest Lexeme.nameRule row column (t ++ [')']) = (ts, .plain) := by
  induction hn : t.length using Nat.strong_induction_on generalizing t column ts with
  | _ n ih =>
  have hlen := length_dropWhile_gap t
  have hsplit := List.takeWhile_append_dropWhile (p := isGap) (l := t)
  cases hu : t.dropWhile isGap with
  | nil =>
    simp only [rest, tokens, hu] at h
    obtain ⟨rfl, -⟩ := Prod.mk.inj h
    exact .inl ⟨[], by simp [tokens?, hu], rfl⟩
  | cons c u =>
    by_cases hhash : c = '#'
    · subst hhash
      rw [rest_comment hr hu] at h
      right
      rw [← h]
      exact rest_comment (by simp [hr]) (gap_append _ hu).2
    · obtain ⟨hstart, ⟨k, x, r, us, hlead, hrest, rfl⟩ | ⟨s, -, hs⟩⟩ :=
        lead_of_rest hr hu hhash (by simp) h hknown
      · obtain ⟨hx, hne⟩ := lead_append _ hlead
        have hlength := congrArg List.length hx
        have hpos := List.length_pos_iff.2 hne
        rw [List.length_append, ← hu] at hlength
        have hr' : '\r' ∉ r := fun hmem => hr ((List.dropWhile_suffix isGap).subset
          (hu ▸ hx ▸ List.mem_append_right x hmem))
        obtain ⟨-, hknown⟩ := List.forall_mem_cons.1 hknown
        obtain ⟨vs, hvs, rfl⟩ | hhides := ih r.length (by omega) hr' hrest hknown rfl
        · refine .inl ⟨⟨k, x, 0, column + (t.takeWhile isGap).length⟩ :: vs, ?_, by simp [Token.moved]⟩
          subst hn
          rw [tokens?, hu, if_neg (by simp), if_pos hstart, lead_zero hlead]
          dsimp only
          rw [tokens?_mono (by omega) hvs]
          rfl
        · right
          have hlead' := lead_append_closers Lexeme.nameRule_ends closers_paren hlead
          rw [List.cons_append] at hlead'
          have hcons := rest_cons _ isGap_of_mem_takeWhile
            (by simpa [startsToken] using hstart) hlead' hhides
          rwa [← List.cons_append, ← hu, ← List.append_assoc, hsplit] at hcons
      · contradiction

/-- Blanks in front of a line only move it. -/
theorem rest_gap_append {b : Text} (hb : ∀ c ∈ b, isGap c = true) (ht : t.dropWhile isGap = t)
    (hknown : Known (rest rule row column (b ++ t)).1 ∨ Known (rest rule row (column + b.length) t).1) :
    rest rule row column (b ++ t) = rest rule row (column + b.length) t := by
  have htake : t.takeWhile isGap = [] := by
    have := List.takeWhile_append_dropWhile (p := isGap) (l := t)
    rw [ht] at this
    exact List.append_left_eq_self.1 this
  have hlen : t.length ≤ (b ++ t).length := by simp
  revert hknown
  simp only [rest, tokens, List.takeWhile_append_of_pos hb, List.dropWhile_append_of_pos hb, ht, htake,
    List.append_nil, List.length_nil, Nat.add_zero]
  split
  · exact fun _ => rfl
  · exact fun _ => rfl
  · exact fun _ => rfl
  · exact fun _ => rfl
  · next c =>
    intro _
    rw [tokens_eq_rest, tokens_eq_rest]
    all_goals
      simp only [List.length_drop, List.length_append, List.length_cons]
      omega
  · split
    · next x r hl =>
      intro _
      obtain ⟨hx, hne⟩ := lead_append rule hl
      have hlen' := congrArg List.length hx
      have := List.length_pos_iff.2 hne
      rw [List.length_append] at hlen'
      rw [tokens_eq_rest rule row _ _ r (by omega), tokens_eq_rest rule row _ _ r (by omega)]
    · exact fun _ => rfl
    · rintro (hknown | hknown) <;> exact absurd rfl (hknown _ List.mem_cons_self)

theorem depthAfter_deeper (d n : Int) (ts : List Token) : depthAfter (d + n) ts = depthAfter d ts + n := by
  rw [depthAfter_eq_add, depthAfter_eq_add d]
  omega

theorem tokensOf_margin (b : Text) (es : List Event) : tokensOf (.margin b :: es) = tokensOf es := rfl

theorem tokensOf_finish (st : LineState) (r : List Token × LineEnd) :
    tokensOf (finish st r).1 = r.1 ∧ (finish st r).2.depth = depthAfter st.depth r.1 := by
  obtain ⟨ts, e⟩ := r
  cases e with
  | plain =>
    simp only [finish]
    split <;> simp [tokensOf, Event.token?, List.filterMap_map, Function.comp_def]
  | backslash => simp [finish]
  | openString o => simp [finish]

theorem depth_line (st : LineState) (l : Text) :
    (line rule row st l).2.depth = depthAfter st.depth (tokensOf (line rule row st l).1) := by
  have hfinish : ∀ (st : LineState) r, (finish st r).2.depth = depthAfter st.depth (tokensOf (finish st r).1) :=
    fun st r => by rw [(tokensOf_finish st r).1, (tokensOf_finish st r).2]
  unfold line
  split
  · unfold continueString
    split
    · exact hfinish _ _
    · split <;> rfl
  · split
    · unfold startStatement
      dsimp only
      split
      · rfl
      · rfl
      · rfl
      · exact hfinish _ _
    · exact hfinish _ _

theorem depth_lines (st : LineState) (ls : List Text) :
    (lines rule row st ls).2.depth = depthAfter st.depth (tokensOf (lines rule row st ls).1) := by
  induction ls generalizing row st with
  | nil => rfl
  | cons l ls ih => simp only [lines, ih, depth_line, tokensOf_append, depthAfter_append]

theorem finish_deeper (hn : 0 < n) {r : List Token × LineEnd} (hnext : (finish st r).2.Steady) :
    finish (st.deeper n) r = (r.1.map Event.token, (finish st r).2.deeper n) := by
  obtain ⟨ts, e⟩ := r
  cases e with
  | plain =>
    have hdepth : 0 ≤ depthAfter st.depth ts := (hnext.goesOn rfl).resolve_left nofun
    have hpos : 0 < depthAfter st.depth ts + n := by omega
    simp [finish, LineState.deeper, depthAfter_deeper, hpos]
  | backslash => simp [finish, LineState.deeper, depthAfter_deeper]
  | openString o => simp [finish, LineState.deeper, depthAfter_deeper]

/-- A line starts no statement if it is blank or a comment. -/
theorem startStatement_cases (rule : NameRule) (row : Nat) (st : LineState) (hr : '\r' ∉ l) :
    (startStatement rule row st l = ([], st) ∧
      (l.dropWhile isGap = [] ∨ ∃ c, l.dropWhile isGap = '#' :: c)) ∨
    (startStatement rule row st l =
        (.margin (l.takeWhile isGap) ::
          (finish st (rest rule row (l.takeWhile isGap).length (l.dropWhile isGap))).1,
        (finish st (rest rule row (l.takeWhile isGap).length (l.dropWhile isGap))).2) ∧
      ∃ c u, l.dropWhile isGap = c :: u ∧ c ≠ '#') := by
  cases hu : l.dropWhile isGap with
  | nil => exact .inl ⟨by simp only [startStatement, hu], .inl rfl⟩
  | cons c u =>
    have hcr : c ≠ '\r' := by
      rintro rfl
      exact hr ((List.dropWhile_suffix isGap).subset (hu ▸ List.mem_cons_self))
    by_cases hhash : c = '#'
    · subst hhash
      exact .inl ⟨by simp only [startStatement, hu], .inr ⟨u, rfl⟩⟩
    · have hstart := startStatement_of_start (u := u) rule (isGap_of_mem_takeWhile (t := l))
        (isGap_of_dropWhile hu) hhash hcr row st
      rw [← hu, List.takeWhile_append_dropWhile] at hstart
      exact .inr ⟨hu ▸ hstart, c, u, rfl, hhash⟩

theorem dropWhile_dropWhile_gap (l : Text) : (l.dropWhile isGap).dropWhile isGap = l.dropWhile isGap :=
  List.dropWhile_idempotent isGap l

/-- Inside brackets a line yields its tokens only. -/
theorem line_deeper (hn : 0 < n) (hst : st.Steady) (hr : '\r' ∉ l)
    (hknown : Known (tokensOf (line rule row st l).1)) (hnext : (line rule row st l).2.Steady) :
    line rule row (st.deeper n) l =
      ((tokensOf (line rule row st l).1).map Event.token, (line rule row st l).2.deeper n) := by
  cases hstring : st.string with
  | none =>
    rw [line_of_inside (hst.inside hn) hstring]
    simp only [line, hstring] at hknown hnext ⊢
    by_cases hstart : (decide (st.depth = 0) && !st.joined) = true
    · rw [if_pos hstart] at hknown hnext ⊢
      simp only [Bool.and_eq_true, decide_eq_true_eq, Bool.not_eq_true'] at hstart
      obtain ⟨hsame, hblank⟩ | ⟨heq, -⟩ := startStatement_cases rule row st hr
      · have hrest : rest rule row 0 l = ([], .plain) := by
          obtain hnil | ⟨c, hcomment⟩ := hblank
          · simp [rest, tokens, hnil]
          · exact rest_comment hr hcomment
        have hpos : 0 < depthAfter (st.depth + n) [] := by simpa [depthAfter, hstart.1] using hn
        rw [hsame, hrest]
        simp [finish, LineState.deeper, hpos, hstring, hstart.2, tokensOf]
        rfl
      · rw [heq] at hknown hnext ⊢
        rw [tokensOf_margin, (tokensOf_finish _ _).1] at hknown
        have hgap := @rest_gap_append rule row 0 _ _ (isGap_of_mem_takeWhile (t := l))
          (dropWhile_dropWhile_gap l) (.inr (by rwa [Nat.zero_add]))
        rw [List.takeWhile_append_dropWhile, Nat.zero_add] at hgap
        rw [hgap, finish_deeper hn hnext, tokensOf_margin, (tokensOf_finish _ _).1]
    · rw [if_neg hstart] at hknown hnext ⊢
      rw [finish_deeper hn hnext, (tokensOf_finish _ _).1]
  | some o =>
    simp only [line, hstring, continueString, LineState.deeper] at hknown hnext ⊢
    cases hclosing : closing? o l with
    | some x =>
      simp only [hclosing] at hnext ⊢
      have := finish_deeper hn hnext
      rw [(tokensOf_finish _ _).1]
      exact this
    | none =>
      simp only [hclosing] at hknown ⊢
      by_cases hcarried : (st.carried && !endsInBackslash l) = true
      · rw [if_pos hcarried] at hknown
        exact absurd rfl (hknown _ List.mem_cons_self)
      · rw [if_neg hcarried, if_neg hcarried]
        rfl

/-- A line is scanned as it should be, or more brackets are closed than opened where it ends a statement. -/
theorem finish_steady (r : List Token × LineEnd) (hcarried : st.carried = false) :
    (finish st r).2.Steady ∨
      ((finish st r).2.depth < 0 ∧ ∃ es, (finish st r).1 = es ++ [.lineEnd]) := by
  obtain ⟨ts, e⟩ := r
  cases e with
  | plain =>
    by_cases hdepth : 0 ≤ depthAfter st.depth ts
    · exact .inl ⟨fun _ => hcarried, fun _ => .inr hdepth⟩
    · have hpos : ¬ 0 < depthAfter st.depth ts := by omega
      exact .inr ⟨by simpa [finish] using hdepth, ts.map Event.token, by simp [finish, hpos]⟩
  | backslash => exact .inl ⟨fun _ => hcarried, fun _ => .inl rfl⟩
  | openString o => exact .inl ⟨by rintro ⟨⟩, by rintro ⟨⟩⟩

theorem line_steady (hst : st.Steady) (hr : '\r' ∉ l)
    (hknown : Known (tokensOf (line rule row st l).1)) :
    (line rule row st l).2.Steady ∨
      ((line rule row st l).2.depth < 0 ∧ ∃ es, (line rule row st l).1 = es ++ [.lineEnd]) := by
  cases hstring : st.string with
  | none =>
    simp only [line, hstring] at hknown ⊢
    by_cases hstart : (decide (st.depth = 0) && !st.joined) = true
    · rw [if_pos hstart]
      obtain ⟨hsame, -⟩ | ⟨heq, -⟩ := startStatement_cases rule row st hr
      · rw [hsame]
        exact .inl hst
      · rw [heq]
        refine (finish_steady _ (hst.carried hstring)).imp_right ?_
        rintro ⟨hdepth, es, hes⟩
        exact ⟨hdepth, .margin _ :: es, by rw [hes, List.cons_append]⟩
    · rw [if_neg hstart]
      exact finish_steady _ (hst.carried hstring)
  | some o =>
    simp only [line, hstring, continueString] at hknown ⊢
    cases hclosing : closing? o l with
    | some x => exact finish_steady _ rfl
    | none =>
      simp only [hclosing] at hknown ⊢
      by_cases hcarried : (st.carried && !endsInBackslash l) = true
      · rw [if_pos hcarried] at hknown
        exact absurd rfl (hknown _ List.mem_cons_self)
      · rw [if_neg hcarried]
        exact .inl ⟨by rintro ⟨⟩, by rintro ⟨⟩⟩

theorem plain_of_finish {r : List Token × LineEnd} (hstring : (finish st r).2.string = none)
    (hjoined : (finish st r).2.joined = false) : r.2 = .plain := by
  obtain ⟨ts, e⟩ := r
  cases e with
  | plain => rfl
  | backslash => contradiction
  | openString o => contradiction

theorem allTokens?_of_drop {us : List Token}
    (h : tokens? rule ((l.dropWhile isGap).length + 1) (l.takeWhile isGap).length (l.dropWhile isGap) =
      some us) : allTokens? rule l = some us := by
  have htake : (l.dropWhile isGap).takeWhile isGap = [] := by
    have := List.takeWhile_append_dropWhile (p := isGap) (l := l.dropWhile isGap)
    rw [dropWhile_dropWhile_gap] at this
    exact List.append_left_eq_self.1 this
  have hlen := length_dropWhile_gap l
  have h := tokens?_mono (m := l.length + 1) (by omega) h
  rw [tokens?] at h
  simp only [dropWhile_dropWhile_gap, htake, List.length_nil, Nat.add_zero] at h
  rw [allTokens?, tokens?]
  simpa using h

theorem append_of_closing? {o : OpenString} {x r : Text} (h : closing? o l = some (x, r)) :
    x ++ r = l := by
  unfold closing? at h
  split at h
  · exact Token.closeTriple?_append h
  · split at h
    · next hclose =>
      obtain ⟨rfl, rfl⟩ := Prod.mk.inj (Option.some.inj h)
      exact Token.close_append hclose
    · contradiction

theorem rest_or_hides (hr : '\r' ∉ t) (hknown : Known (rest Lexeme.nameRule row column t).1)
    (hstring : (finish st (rest Lexeme.nameRule row column t)).2.string = none)
    (hjoined : (finish st (rest Lexeme.nameRule row column t)).2.joined = false) :
    (tokens? Lexeme.nameRule (t.length + 1) column t).map (List.map (Token.moved row 0)) =
        some (rest Lexeme.nameRule row column t).1 ∨
      rest Lexeme.nameRule row column (t ++ [')']) = rest Lexeme.nameRule row column t := by
  have hplain := plain_of_finish hstring hjoined
  rcases hrest : rest Lexeme.nameRule row column t with ⟨ts, e⟩
  rw [hrest] at hknown hplain
  obtain rfl := hplain
  obtain ⟨us, hus, rfl⟩ | hhides := tokens?_or_hides hr hrest hknown
  · exact .inl (by rw [hus, Option.map_some])
  · exact .inr hhides

/-- A blank line stays one or its comment hides what closes. -/
theorem startStatement_or_hides (hr : '\r' ∉ l)
    (hknown : Known (tokensOf (startStatement Lexeme.nameRule row st l).1))
    (hstring : (startStatement Lexeme.nameRule row st l).2.string = none)
    (hjoined : (startStatement Lexeme.nameRule row st l).2.joined = false) :
    (allTokens? Lexeme.nameRule l).map (List.map (Token.moved row 0)) =
        some (tokensOf (startStatement Lexeme.nameRule row st l).1) ∨
      startStatement Lexeme.nameRule row st (l ++ [')']) = startStatement Lexeme.nameRule row st l := by
  have hclosing := startStatement_cases Lexeme.nameRule row st (l := l ++ [')']) (by simp [hr])
  obtain ⟨hsame, hnil | ⟨c, hcomment⟩⟩ | ⟨heq, c, u, hu, hhash⟩ :=
    startStatement_cases Lexeme.nameRule row st hr
  · rw [hsame]
    exact .inl (by simp [allTokens?, tokens?, hnil, tokensOf])
  · rw [hsame]
    obtain ⟨hclosed, -⟩ | ⟨-, d, u, hu, hd⟩ := hclosing
    · exact .inr hclosed
    · rw [(gap_append _ hcomment).2] at hu
      exact absurd (List.cons.inj hu).1.symm hd
  · rw [heq] at hknown hstring hjoined ⊢
    rw [tokensOf_margin, (tokensOf_finish _ _).1] at hknown ⊢
    have hr' : '\r' ∉ l.dropWhile isGap := fun hmem => hr ((List.dropWhile_suffix isGap).subset hmem)
    obtain hall | hhides := rest_or_hides hr' hknown hstring hjoined
    · obtain ⟨us, hus, hmoved⟩ := Option.map_eq_some_iff.1 hall
      exact .inl (by rw [allTokens?_of_drop hus, Option.map_some, hmoved])
    · obtain ⟨-, hnil | ⟨d, hd⟩⟩ | ⟨hclosed, -⟩ := hclosing
      · rw [(gap_append _ hu).2] at hnil
        contradiction
      · rw [(gap_append _ hu).2] at hd
        exact absurd (List.cons.inj hd).1 hhash
      · right
        rw [hclosed, (gap_append _ hu).1, (gap_append _ hu).2, ← List.cons_append, ← hu, hhides]

/-- The last line is nothing but tokens, or hides what closes behind it. -/
theorem lastTokens?_or_hides (hr : '\r' ∉ l)
    (hknown : Known (tokensOf (line Lexeme.nameRule row st l).1))
    (hstring : (line Lexeme.nameRule row st l).2.string = none)
    (hjoined : (line Lexeme.nameRule row st l).2.joined = false) :
    lastTokens? Lexeme.nameRule row (st.deeper n) l =
        some (tokensOf (line Lexeme.nameRule row st l).1) ∨
      line Lexeme.nameRule row st (l ++ [')']) = line Lexeme.nameRule row st l := by
  cases hst : st.string with
  | none =>
    simp only [lastTokens?, line, hst, LineState.deeper] at hknown hstring hjoined ⊢
    by_cases hstart : (decide (st.depth = 0) && !st.joined) = true
    · rw [if_pos hstart] at hknown hstring hjoined
      rw [if_pos hstart, if_pos hstart]
      exact startStatement_or_hides hr hknown hstring hjoined
    · rw [if_neg hstart] at hknown hstring hjoined
      rw [if_neg hstart, if_neg hstart]
      rw [(tokensOf_finish _ _).1] at hknown ⊢
      exact (rest_or_hides hr hknown hstring hjoined).imp_right fun hhides => by rw [hhides]
  | some o =>
    simp only [lastTokens?, line, hst, continueString, LineState.deeper] at hknown hstring hjoined ⊢
    cases hclosing : closing? o l with
    | some x =>
      obtain ⟨x, r⟩ := x
      simp only [hclosing] at hknown hstring hjoined ⊢
      rw [(tokensOf_finish _ _).1] at hknown ⊢
      have hr' : '\r' ∉ r := fun hmem => hr (append_of_closing? hclosing ▸ List.mem_append_right x hmem)
      have hplain := plain_of_finish hstring hjoined
      rcases hrest : rest Lexeme.nameRule row x.length r with ⟨ts, e⟩
      rw [hrest] at hknown hplain
      obtain rfl := hplain
      obtain ⟨us, hus, rfl⟩ | hhides :=
        tokens?_or_hides hr' hrest (List.forall_mem_cons.1 hknown).2
      · left
        simp [hus]
      · right
        simp only [closing?_append hclosing, hhides]
    | none =>
      simp only [hclosing] at hknown hstring
      by_cases hcarried : (st.carried && !endsInBackslash l) = true
      · rw [if_pos hcarried] at hknown
        exact absurd rfl (hknown _ List.mem_cons_self)
      · rw [if_neg hcarried] at hstring
        contradiction

end LineScan

namespace Outline

open LineScan

theorem cutLines_eq_nil {blanks : Text} {done : List Token} {es : List Event}
    (h : cutLines blanks done es = []) : done = [] ∧ tokensOf es = [] := by
  induction es generalizing blanks done with
  | nil => exact ⟨by simpa [cutLines] using h, rfl⟩
  | cons e es ih =>
    cases e with
    | margin b => exact ih h
    | token t => exact absurd (ih h).1 (List.cons_ne_nil t done)
    | lineEnd =>
      by_cases hdone : done = []
      · simp only [cutLines, hdone, if_true] at h
        exact ⟨hdone, (ih h).2⟩
      · simp [cutLines, hdone] at h

theorem tokensOf_of_cutLines {blanks b : Text} {done ts : List Token} {es : List Event}
    (h : cutLines blanks done es = [(b, ts)]) : ts = done.reverse ++ tokensOf es := by
  induction es generalizing blanks done with
  | nil =>
    by_cases hdone : done = []
    · simp [cutLines, hdone] at h
    · simp only [cutLines, hdone, if_false, List.cons.injEq, Prod.mk.injEq] at h
      simp [tokensOf, h.1.2]
  | cons e es ih =>
    cases e with
    | margin c => exact ih h
    | token t => simpa [tokensOf, Event.token?] using @ih _ (t :: done) h
    | lineEnd =>
      by_cases hdone : done = []
      · simp only [cutLines, hdone, if_true] at h
        rw [hdone]
        exact ih h
      · simp only [cutLines, hdone, if_false, List.cons.injEq, Prod.mk.injEq] at h
        have hrest : tokensOf (.lineEnd :: es) = [] := (cutLines_eq_nil h.2).2
        rw [hrest, h.1.2, List.append_nil]

/-- Where a statement ends, either nothing has come before or nothing comes after. -/
def OneLine (before : List Token) (es : List Event) : Prop :=
  ∀ fs gs, es = fs ++ .lineEnd :: gs → (before = [] ∧ tokensOf fs = []) ∨ tokensOf gs = []

theorem oneLine_of_cutLines {blanks b : Text} {ts : List Token} {es : List Event}
    (h : cutLines blanks [] es = [(b, ts)]) : OneLine [] es := by
  rintro fs gs rfl
  rw [cutLines_append] at h
  cases hfirst : cutLines blanks [] (fs ++ [.lineEnd]) with
  | nil =>
    have hnil := (cutLines_eq_nil hfirst).2
    rw [tokensOf_append] at hnil
    exact .inl ⟨rfl, (List.append_eq_nil_iff.1 hnil).1⟩
  | cons l ls =>
    rw [hfirst, List.cons_append] at h
    have hnil := (List.append_eq_nil_iff.1 (List.cons.inj h).2).2
    exact .inr (cutLines_eq_nil hnil).2

theorem OneLine.of_append {before : List Token} {es fs : List Event} (h : OneLine before (es ++ fs)) :
    OneLine (before ++ tokensOf es) fs := by
  rintro gs hs rfl
  obtain ⟨hbefore, hes⟩ | hnil := h (es ++ gs) hs (by simp)
  · rw [tokensOf_append, List.append_eq_nil_iff] at hes
    exact .inl ⟨by simp [hbefore, hes.1], hes.2⟩
  · exact .inr hnil

/-- The lines of a single statement yield its tokens inside brackets. -/
theorem enclosed?_of_oneLine {n : Int} (hn : 0 < n) {ls : List Text} (hne : ls ≠ [])
    (hr : ∀ l ∈ ls, '\r' ∉ l) {row : Nat} {st : LineState} {before : List Token} (hst : st.Steady)
    (hdepth : depthAfter 0 before = st.depth) (hend : (lines Lexeme.nameRule row st ls).2.Settled)
    (hone : OneLine before (lines Lexeme.nameRule row st ls).1)
    (hknown : Known (tokensOf (lines Lexeme.nameRule row st ls).1))
    (hcomment : lines Lexeme.nameRule row st (Text.behind [')'] ls) ≠ lines Lexeme.nameRule row st ls) :
    enclosed? Lexeme.nameRule row (st.deeper n) ls =
      some (tokensOf (lines Lexeme.nameRule row st ls).1) := by
  induction ls generalizing row st before with
  | nil => contradiction
  | cons l ls ih =>
    obtain ⟨hl, hr⟩ := List.forall_mem_cons.1 hr
    have hknown' : Known (tokensOf (line Lexeme.nameRule row st l).1) ∧
        Known (tokensOf (lines Lexeme.nameRule (row + 1) (line Lexeme.nameRule row st l).2 ls).1) := by
      simpa only [lines, tokensOf_append, Known, List.forall_mem_append] using hknown
    cases ls with
    | nil =>
      simp only [lines, List.append_nil, Text.behind] at hend hcomment ⊢
      obtain hlast | hhides := lastTokens?_or_hides (n := n) hl hknown'.1 hend.string hend.joined
      · exact hlast
      · exact absurd (by rw [hhides]) hcomment
    | cons m ms =>
      have hdepth' := @depth_line Lexeme.nameRule row st l
      have hnext : (line Lexeme.nameRule row st l).2.Steady := by
        obtain hsteady | ⟨hneg, es, hes⟩ := @line_steady Lexeme.nameRule row st l hst hl hknown'.1
        · exact hsteady
        · exfalso
          have hsplit : (lines Lexeme.nameRule row st (l :: m :: ms)).1 = es ++ .lineEnd ::
              (lines Lexeme.nameRule (row + 1) (line Lexeme.nameRule row st l).2 (m :: ms)).1 := by
            simp [lines, hes]
          obtain ⟨rfl, hnil⟩ | hnil := hone _ _ hsplit
          · rw [hes, tokensOf_append, hnil, ← hdepth] at hdepth'
            exact absurd hdepth' (Int.ne_of_lt hneg)
          · have hlast := @depth_lines Lexeme.nameRule (row + 1)
              (line Lexeme.nameRule row st l).2 (m :: ms)
            rw [hnil] at hlast
            have hzero := hend.depth
            simp only [lines] at hzero hlast
            rw [hlast] at hzero
            exact absurd hzero (Int.ne_of_lt hneg)
      have hrest := @ih (by simp) hr _ _ (before ++ tokensOf (line Lexeme.nameRule row st l).1) hnext
        (by rw [depthAfter_append, hdepth, hdepth']) hend (OneLine.of_append hone) hknown'.2
        fun heq => hcomment (by simp only [Text.behind, lines] at heq ⊢; simp only [heq])
      rw [enclosed?, line_deeper hn hst hl hknown'.1 hnext, mapM_known?_of_known hknown'.1]
      simp only [Option.bind_eq_bind, Option.bind_some, hrest]
      simp only [lines, tokensOf_append]

theorem lines_sourceLines {t : Text} {os : List Line} (h : lines? t = some os) :
    (lines Lexeme.nameRule 0 {} (Text.sourceLines t)).2.Settled ∧
      cutLines [] [] (lines Lexeme.nameRule 0 {} (Text.sourceLines t)).1 = os := by
  have hevents : ∀ ls, (events? Lexeme.nameRule ls).map (cutLines [] []) = some os →
      (lines Lexeme.nameRule 0 {} ls).2.Settled ∧ cutLines [] [] (lines Lexeme.nameRule 0 {} ls).1 = os := by
    intro ls hls
    obtain ⟨es, hes, hcut⟩ := Option.map_eq_some_iff.1 hls
    simp only [events?, Option.ite_none_right_eq_some, Bool.and_eq_true, decide_eq_true_eq,
      Bool.not_eq_true', Option.some.injEq] at hes
    obtain ⟨⟨⟨hstring, hdepth⟩, hjoined⟩, rfl⟩ := hes
    exact ⟨⟨hstring, hdepth, hjoined⟩, hcut⟩
  have hlines : lines? t = (events? Lexeme.nameRule
      (if (Text.sourceLines t).getLast? = some [] then (Text.sourceLines t).dropLast
        else Text.sourceLines t)).map (cutLines [] []) := rfl
  rw [hlines] at h
  by_cases hlast : (Text.sourceLines t).getLast? = some []
  · rw [if_pos hlast] at h
    obtain ⟨hsettled, hcut⟩ := hevents _ h
    have hend : ∀ row, line Lexeme.nameRule row
        (lines Lexeme.nameRule 0 {} (Text.sourceLines t).dropLast).2 [] =
          ([], (lines Lexeme.nameRule 0 {} (Text.sourceLines t).dropLast).2) := by
      intro row
      simp [line, hsettled.string, hsettled.depth, hsettled.joined, startStatement]
    obtain ⟨init, hinit⟩ := List.getLast?_eq_some_iff.1 hlast
    rw [hinit, List.dropLast_concat] at hsettled hcut hend
    rw [hinit, lines_append]
    simp only [lines, hend, List.append_nil]
    exact ⟨hsettled, hcut⟩
  · rw [if_neg hlast] at h
    exact hevents _ h

theorem getLast?_behind {s : Text} (hs : s ≠ []) (ls : List Text) :
    (Text.behind s ls).getLast? ≠ some [] := by
  fun_induction Text.behind s ls with
  | case1 => simpa using hs
  | case2 l => simp [hs]
  | case3 l m ls ih => cases ls <;> simpa [Text.behind] using ih

/-- What closes behind a text that does not end in a comment is read. -/
theorem lines_closed_ne {t : Text} {os : List Line} (h : lines? t = some os) (hcomment : ¬ EndsInComment t) :
    lines Lexeme.nameRule 0 {} (Text.behind [')'] (Text.sourceLines t)) ≠
      lines Lexeme.nameRule 0 {} (Text.sourceLines t) := by
  intro heq
  obtain ⟨hsettled, hcut⟩ := lines_sourceLines h
  have hclosed : lines? (t ++ [')']) =
      (events? Lexeme.nameRule (Text.behind [')'] (Text.sourceLines t))).map (cutLines [] []) := by
    have hlines := Text.sourceLines_behind (b := [')']) (t := t) (by decide) (by decide)
    have hlast := getLast?_behind (s := [')']) (by simp) (Text.sourceLines t)
    rw [← hlines] at hlast ⊢
    change (events? Lexeme.nameRule (if (Text.sourceLines (t ++ [')'])).getLast? = some [] then
      (Text.sourceLines (t ++ [')'])).dropLast else Text.sourceLines (t ++ [')']))).map (cutLines [] []) = _
    rw [if_neg hlast]
  refine hcomment ?_
  rw [EndsInComment, hclosed, events?, heq, h]
  simp [hsettled.string, hsettled.depth, hsettled.joined, hcut]

theorem known_of_ofTokens? {ts : List Token} {ls : List Lexeme} (h : Lexeme.ofTokens? ts = some ls) :
    Known ts := by
  induction ts generalizing ls with
  | nil => exact nofun
  | cons t ts ih =>
    simp only [Lexeme.ofTokens?, Option.bind_eq_bind, Option.bind_eq_some_iff] at h
    obtain ⟨-, -, l, hl, ks, hks, -⟩ := h
    refine List.forall_mem_cons.2 ⟨fun hk => ?_, ih hks⟩
    simp [Lexeme.ofToken?, hk] at hl

/-- An expression by itself yields its tokens inside brackets, unless it ends in a comment. -/
theorem enclosed?_of_alone {n : Int} (hn : 0 < n) {t : Text} {ts : List Token} {e : Expr}
    (h : Expr.Alone t ts e) (hcomment : ¬ EndsInComment t) :
    enclosed? Lexeme.nameRule 0 { depth := n } (Text.sourceLines t) = some ts ∧ depthAfter 0 ts = 0 := by
  obtain ⟨blanks, hlines⟩ := h.line
  obtain ⟨ls, hls, -⟩ := h.parsed
  obtain ⟨hsettled, hcut⟩ := lines_sourceLines hlines
  have hts : tokensOf (lines Lexeme.nameRule 0 {} (Text.sourceLines t)).1 = ts :=
    (tokensOf_of_cutLines hcut).symm
  have hr : ∀ l ∈ Text.sourceLines t, '\r' ∉ l := fun l hl hmem =>
    Text.not_mem_unifyLineEnds t (Text.of_mem_physicalLines hl _ hmem).2
  have hne : Text.sourceLines t ≠ [] := Text.physicalLines_ne_nil _
  have hstart : LineState.Steady {} := ⟨fun _ => rfl, fun _ => .inr (Int.le_refl 0)⟩
  have hdepth := @depth_lines Lexeme.nameRule 0 {} (Text.sourceLines t)
  have henclosed := @enclosed?_of_oneLine _ hn _ hne hr _ _ [] hstart rfl hsettled
    (oneLine_of_cutLines hcut) (hts ▸ known_of_ofTokens? hls) (lines_closed_ne hlines hcomment)
  rw [hts] at hdepth henclosed
  have hdeeper : LineState.deeper n {} = { depth := n } := by simp [LineState.deeper]
  exact ⟨hdeeper ▸ henclosed, hdepth.symm.trans hsettled.depth⟩

end Outline

/-- Every expression by itself that does not end in a comment is a phrase. -/
theorem exists_phrase {t : Text} {ts : List Token} {e : Expr} (h : Expr.Alone t ts e)
    (hcomment : ¬ Outline.EndsInComment t) (hnull : '\x00' ∉ t) :
    ∃ p : Phrase, p.text = t ∧ p.tokens = ts ∧ p.expr = e := by
  obtain ⟨hscanned, hclosed⟩ := Outline.enclosed?_of_alone (by decide : (0 : Int) < 2) h hcomment
  obtain ⟨ls, hls, hparsed⟩ := h.parsed
  exact ⟨⟨t, ts, ls, e, hscanned, hclosed, hls, hparsed, hnull⟩, rfl, rfl, rfl⟩

end TemplateEngine.Script
