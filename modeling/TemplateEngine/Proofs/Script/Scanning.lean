import TemplateEngine.Script.Outline

set_option autoImplicit false

/-!
# Scanning line after line

Where a line stands is only noted in its tokens, so that lines can be scanned one by one and put
together afterwards. A line that opens no bracket and no string for the next one yields its own
events, whatever stands around it.
-/
namespace TemplateEngine.Script

def Token.moved (row column : Nat) (t : Token) : Token :=
  { t with row := row + t.row, column := column + t.column }

@[simp] theorem Token.kind_moved (row column : Nat) (t : Token) :
    (t.moved row column).kind = t.kind := rfl

@[simp] theorem Token.text_moved (row column : Nat) (t : Token) :
    (t.moved row column).text = t.text := rfl

theorem Token.moved_moved (r c r' c' : Nat) (t : Token) :
    (t.moved r c).moved r' c' = t.moved (r' + r) (c' + c) := by
  simp [Token.moved, Nat.add_assoc]

def OpenString.moved (row column : Nat) (s : OpenString) : OpenString :=
  { s with row := row + s.row, column := column + s.column }

def Lead.moved (row column : Nat) : Lead → Lead
  | .openString s => .openString (s.moved row column)
  | l => l

def LineEnd.moved (row column : Nat) : LineEnd → LineEnd
  | .openString s => .openString (s.moved row column)
  | e => e

def LineState.moved (row : Nat) (st : LineState) : LineState :=
  { st with string := st.string.map (OpenString.moved row 0) }

def Event.moved (row : Nat) : Event → Event
  | .token t => .token (t.moved row 0)
  | e => e

@[simp] theorem LineState.moved_start (row : Nat) : ({} : LineState).moved row = {} := rfl

namespace LineScan

variable (rule : NameRule)

theorem word_moved (row column : Nat) (t : Text) : (word rule t).moved row column = word rule t := by
  unfold word
  split <;> rfl

theorem lead_moved (r c row column : Nat) (t : Text) :
    lead rule (r + row) (c + column) t = (lead rule row column t).moved r c := by
  unfold lead
  cases Token.opening? t with
  | some x =>
    obtain ⟨p, q, u⟩ := x
    dsimp only
    unfold string
    split
    · split <;> rfl
    · split
      · rfl
      · rfl
      · exact (word_moved rule r c t).symm
  | none =>
    dsimp only
    split
    · rfl
    · split
      · rfl
      · exact (word_moved rule r c t).symm

theorem tokens_moved (r c row n column : Nat) (t : Text) :
    tokens rule (r + row) n (c + column) t =
      ((tokens rule row n column t).1.map (Token.moved r c),
        (tokens rule row n column t).2.moved r c) := by
  induction n generalizing column t with
  | zero => rfl
  | succ n ih =>
    simp only [tokens]
    have hgap : c + column + (t.takeWhile isGap).length =
        c + (column + (t.takeWhile isGap).length) := Nat.add_assoc ..
    rw [hgap]
    generalize column + (t.takeWhile isGap).length = start
    split
    · rfl
    · rfl
    · rfl
    · rfl
    · rw [Nat.add_assoc c start, Nat.add_assoc c]
      exact ih ..
    · rw [lead_moved]
      cases lead rule row start (t.dropWhile isGap) with
      | token k x rest =>
        simp only [Lead.moved, Nat.add_assoc, ih]
        rfl
      | openString s => rfl
      | none =>
        simp only [Lead.moved, Nat.add_assoc, ih]
        rfl

theorem rest_moved (r c row column : Nat) (t : Text) :
    rest rule (r + row) (c + column) t =
      ((rest rule row column t).1.map (Token.moved r c), (rest rule row column t).2.moved r c) :=
  tokens_moved rule r c row _ column t

theorem rest_eq_moved (row column : Nat) (t : Text) :
    rest rule row column t =
      ((rest rule 0 0 t).1.map (Token.moved row column), (rest rule 0 0 t).2.moved row column) :=
  rest_moved rule row column 0 0 t

theorem depthAfter_append (d : Int) (ts us : List Token) :
    depthAfter d (ts ++ us) = depthAfter (depthAfter d ts) us := by
  simp [depthAfter]

theorem depthAfter_moved (r c : Nat) (d : Int) (ts : List Token) :
    depthAfter d (ts.map (Token.moved r c)) = depthAfter d ts := by
  rw [depthAfter, List.foldl_map]
  rfl

theorem finish_moved (r : Nat) (st : LineState) (ts : List Token) (e : LineEnd) :
    finish (st.moved r) (ts.map (Token.moved r 0), e.moved r 0) =
      ((finish st (ts, e)).1.map (Event.moved r), (finish st (ts, e)).2.moved r) := by
  have hts : (ts.map (Token.moved r 0)).map Event.token = (ts.map Event.token).map (Event.moved r) := by
    simp [Event.moved, Function.comp_def]
  unfold finish
  cases e with
  | plain =>
    simp only [LineEnd.moved, depthAfter_moved, LineState.moved, Option.map_none, hts]
    split <;> simp [Event.moved]
  | backslash => simp [LineEnd.moved, depthAfter_moved, LineState.moved, hts]
  | openString s => simp [LineEnd.moved, depthAfter_moved, LineState.moved, hts, OpenString.moved]

theorem rest_moved_row (r row column : Nat) (t : Text) :
    rest rule (r + row) column t =
      ((rest rule row column t).1.map (Token.moved r 0), (rest rule row column t).2.moved r 0) := by
  simpa using rest_moved rule r 0 row column t

theorem startStatement_moved (r row : Nat) (st : LineState) (l : Text) :
    startStatement rule (r + row) (st.moved r) l =
      ((startStatement rule row st l).1.map (Event.moved r),
        (startStatement rule row st l).2.moved r) := by
  unfold startStatement
  dsimp only
  split
  · rfl
  · rfl
  · rfl
  · rw [rest_moved_row, finish_moved]
    simp [Event.moved]

theorem line_moved (r row : Nat) (st : LineState) (l : Text) :
    line rule (r + row) (st.moved r) l =
      ((line rule row st l).1.map (Event.moved r), (line rule row st l).2.moved r) := by
  obtain ⟨string, carried, depth, joined⟩ := st
  cases string with
  | some s =>
    have hclosing : closing? (s.moved r 0) l = closing? s l := rfl
    simp only [line, LineState.moved, Option.map_some, continueString, hclosing]
    cases closing? s l with
    | some x =>
      simp only [rest_moved_row]
      exact finish_moved r ⟨some s, false, depth, joined⟩
        (⟨.string, s.text ++ '\n' :: x.1, s.row, s.column⟩ :: (rest rule row x.1.length x.2).1) _
    | none =>
      by_cases h : (carried && !endsInBackslash l) = true
      · simp [h, Event.moved, Token.moved, OpenString.moved]
      · simp [h, OpenString.moved]
  | none =>
    have hline (k : Nat) : line rule k ⟨none, carried, depth, joined⟩ l =
        if depth = 0 && !joined then startStatement rule k ⟨none, carried, depth, joined⟩ l
        else finish ⟨none, carried, depth, joined⟩ (rest rule k 0 l) := rfl
    have hmoved : (⟨none, carried, depth, joined⟩ : LineState).moved r =
        ⟨none, carried, depth, joined⟩ := rfl
    rw [hmoved, hline, hline]
    by_cases h : (decide (depth = 0) && !joined) = true
    · rw [if_pos h, if_pos h]
      exact startStatement_moved rule r row ⟨none, carried, depth, joined⟩ l
    · rw [if_neg h, if_neg h, rest_moved_row]
      exact finish_moved r ⟨none, carried, depth, joined⟩ (rest rule row 0 l).1 (rest rule row 0 l).2

theorem lines_moved (r row : Nat) (st : LineState) (ls : List Text) :
    lines rule (r + row) (st.moved r) ls =
      ((lines rule row st ls).1.map (Event.moved r), (lines rule row st ls).2.moved r) := by
  induction ls generalizing row st with
  | nil => rfl
  | cons l ls ih =>
    simp only [lines, line_moved, Nat.add_assoc, ih, List.map_append]

theorem lines_append (row : Nat) (st : LineState) (ls ms : List Text) :
    lines rule row st (ls ++ ms) =
      ((lines rule row st ls).1 ++ (lines rule (row + ls.length) (lines rule row st ls).2 ms).1,
        (lines rule (row + ls.length) (lines rule row st ls).2 ms).2) := by
  induction ls generalizing row st with
  | nil => simp [lines]
  | cons l ls ih =>
    simp only [List.cons_append, lines, ih, List.length_cons, List.append_assoc]
    rw [Nat.add_assoc row 1, Nat.add_comm 1]

theorem startStatement_of_start {blanks u : Text} {c : Char} (hb : ∀ d ∈ blanks, isGap d = true)
    (hc : isGap c = false) (hhash : c ≠ '#') (hcr : c ≠ '\r') (row : Nat) (st : LineState) :
    startStatement rule row st (blanks ++ c :: u) =
      (.margin blanks :: (finish st (rest rule row blanks.length (c :: u))).1,
        (finish st (rest rule row blanks.length (c :: u))).2) := by
  have hdrop : (blanks ++ c :: u).dropWhile isGap = c :: u := by
    rw [List.dropWhile_append_of_pos hb, List.dropWhile_cons_of_neg (by simp [hc])]
  have htake : (blanks ++ c :: u).takeWhile isGap = blanks := by
    rw [List.takeWhile_append_of_pos hb, List.takeWhile_cons_of_neg (by simp [hc]),
      List.append_nil]
  simp only [startStatement, hdrop, htake]
  split
  · contradiction
  · next he => exact absurd (List.cons.inj he).1 hhash
  · next he => exact absurd (List.cons.inj he).1 hcr
  · rfl

/-- A line that is one statement line by itself and has these tokens. -/
structure Reads (code : Text) (ts : List Token) : Prop where
  starts : ∃ c r, code = c :: r ∧ isGap c = false ∧ c ≠ '#' ∧ c ≠ '\r'
  rest_eq : rest Lexeme.nameRule 0 0 code = (ts, .plain)
  depth : depthAfter 0 ts = 0
  ne_nil : ts ≠ []

def statement (blanks : Text) (row : Nat) (ts : List Token) : List Event :=
  .margin blanks :: (ts.map (Token.moved row blanks.length)).map Event.token ++ [.lineEnd]

theorem line_of_reads {code : Text} {ts : List Token} (h : Reads code ts) {blanks : Text}
    (hb : ∀ c ∈ blanks, isGap c = true) (row : Nat) :
    line Lexeme.nameRule row {} (blanks ++ code) = (statement blanks row ts, {}) := by
  obtain ⟨c, r, rfl, hc, hhash, hcr⟩ := h.starts
  have hline : line Lexeme.nameRule row {} (blanks ++ c :: r) =
      startStatement Lexeme.nameRule row {} (blanks ++ c :: r) := rfl
  have hrest := rest_eq_moved Lexeme.nameRule row blanks.length (c :: r)
  rw [h.rest_eq] at hrest
  rw [hline, startStatement_of_start Lexeme.nameRule hb hc hhash hcr, hrest]
  simp [finish, depthAfter_moved, h.depth, LineEnd.moved, statement]

theorem line_of_comment (row : Nat) {l : Text} (h : l = [] ∨ l.head? = some '#') :
    line Lexeme.nameRule row {} l = ([], {}) := by
  obtain rfl | h := h
  · rfl
  · obtain ⟨r, rfl⟩ : ∃ r, l = '#' :: r := by
      cases l with
      | nil => contradiction
      | cons c r => exact ⟨r, by rw [Option.some.inj h]⟩
    rfl

end LineScan
end TemplateEngine.Script
