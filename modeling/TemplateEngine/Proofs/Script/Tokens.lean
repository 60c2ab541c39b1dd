import TemplateEngine.Proofs.Script.Scanning

set_option autoImplicit false

/-!
# Tokens one after another

A token takes the start of a text and leaves what is behind it. So a line can be scanned from token to
token, and the number that bounds the tokens is never used up.
-/
namespace TemplateEngine.Script

namespace Token

/-- What is taken is not empty and stands in front of what is left. -/
def Splits (t : Text) (x : Taken) : Prop := x.1 ++ x.2 = t ∧ x.1 ≠ []

theorem moreDigits_append (p : Char → Bool) (t : Text) :
    (moreDigits p t).1 ++ (moreDigits p t).2 = t := by
  fun_induction moreDigits p t <;> simp_all

theorem splits_digits? {p : Char → Bool} {t : Text} {x : Taken} (h : digits? p t = some x) :
    Splits t x := by
  cases t with
  | nil => contradiction
  | cons c t =>
    by_cases hc : p c = true
    · simp only [digits?, hc, if_true, Option.some.injEq] at h
      subst h
      exact ⟨by simp [moreDigits_append], by simp⟩
    · simp [digits?, hc] at h

theorem splits_either? {p q : Char} {t : Text} {x : Taken} (h : either? p q t = some x) :
    Splits t x := by
  cases t with
  | nil => contradiction
  | cons c t =>
    simp only [either?, Option.ite_none_right_eq_some, Option.some.injEq] at h
    obtain ⟨-, rfl⟩ := h
    exact ⟨rfl, by simp⟩

theorem splits_map_cons {t : Text} {e : Char} {f : Text → Option Taken} {x : Taken}
    (hf : ∀ y, f t = some y → Splits t y) (h : (f t).map (fun y => (e :: y.1, y.2)) = some x) :
    Splits (e :: t) x := by
  obtain ⟨y, hy, rfl⟩ := Option.map_eq_some_iff.1 h
  exact ⟨by simp [(hf y hy).1], by simp⟩

theorem splits_exponent? {t : Text} {x : Taken} (h : exponent? t = some x) : Splits t x := by
  unfold exponent? at h
  split at h
  · next e t =>
    split at h
    · split at h
      · next s r =>
        split at h
        · obtain ⟨y, hy, rfl⟩ := Option.map_eq_some_iff.1 h
          have := splits_digits? hy
          exact ⟨by simp [this.1], by simp⟩
        · exact splits_map_cons (fun y hy => splits_digits? hy) h
      · contradiction
    · contradiction
  · contradiction

theorem Splits.thenMaybe {t : Text} {x : Taken} {next : Text → Option Taken} (h : Splits t x)
    (hn : ∀ u y, next u = some y → Splits u y) : Splits t (thenMaybe next x) := by
  unfold Token.thenMaybe
  split
  · next a b hy => exact ⟨by rw [List.append_assoc, (hn _ _ hy).1, h.1], by simp [h.2]⟩
  · exact h

theorem splits_andThen {t : Text} {first next : Text → Option Taken} {x : Taken}
    (hf : ∀ u y, first u = some y → Splits u y) (hn : ∀ u y, next u = some y → Splits u y)
    (h : (first t).bind (andThen next) = some x) : Splits t x := by
  obtain ⟨y, hy, h⟩ := Option.bind_eq_some_iff.1 h
  obtain ⟨z, hz, rfl⟩ := Option.map_eq_some_iff.1 h
  have hy := hf t y hy
  exact ⟨by simp [(hn _ z hz).1, hy.1], by simp [hy.2]⟩

theorem splits_pointFloat? {t : Text} {x : Taken} (h : pointFloat? t = some x) : Splits t x := by
  unfold pointFloat? at h
  split at h
  · next y hy =>
    obtain rfl := Option.some.inj h
    exact (splits_andThen (fun _ _ => splits_digits?) (fun _ _ => splits_either?) hy).thenMaybe
      fun _ _ => splits_digits?
  · exact splits_andThen (fun _ _ => splits_either?) (fun _ _ => splits_digits?) h

theorem splits_float? {t : Text} {x : Taken} (h : float? t = some x) : Splits t x := by
  unfold float? at h
  split at h
  · next y hy =>
    obtain rfl := Option.some.inj h
    exact (splits_pointFloat? hy).thenMaybe fun _ _ => splits_exponent?
  · exact splits_andThen (fun _ _ => splits_digits?) (fun _ _ => splits_exponent?) h

theorem splits_imaginary? {t : Text} {x : Taken} (h : imaginary? t = some x) : Splits t x := by
  unfold imaginary? at h
  split at h
  · next y hy =>
    obtain rfl := Option.some.inj h
    exact splits_andThen (fun _ _ => splits_digits?) (fun _ _ => splits_either?) hy
  · exact splits_andThen (fun _ _ => splits_float?) (fun _ _ => splits_either?) h

theorem splits_based? {letter capital : Char} {p : Char → Bool} {t : Text} {x : Taken}
    (h : based? letter capital p t = some x) : Splits t x := by
  unfold based? at h
  split at h
  · next z y t =>
    split at h
    · have ht := moreDigits_append p t
      split at h
      · contradiction
      · next a b hab =>
        rw [hab] at ht
        obtain rfl := Option.some.inj h
        exact ⟨by simpa using ht, by simp⟩
    · contradiction
  · contradiction

theorem splits_decimal? {t : Text} {x : Taken} (h : decimal? t = some x) : Splits t x := by
  unfold decimal? at h
  split at h
  · contradiction
  · next t =>
    obtain rfl := Option.some.inj h
    exact ⟨by simp [moreDigits_append], by simp⟩
  · exact splits_digits? h

theorem splits_number? {t : Text} {x : Taken} (h : number? t = some x) : Splits t x := by
  simp only [number?, Option.orElse_eq_orElse, Option.orElse_eq_or, Option.or_eq_some_iff] at h
  obtain h | ⟨-, h | ⟨-, h | ⟨-, h | ⟨-, h | ⟨-, h⟩⟩⟩⟩⟩ := h
  · exact splits_imaginary? h
  · exact splits_float? h
  · exact splits_based? h
  · exact splits_based? h
  · exact splits_based? h
  · exact splits_decimal? h

theorem splits_operator? {t : Text} {x : Taken} (h : operator? t = some x) : Splits t x := by
  obtain ⟨o, ho, rfl⟩ := Option.map_eq_some_iff.1 h
  have hmem := List.mem_of_find?_eq_some ho
  have hp := List.find?_some ho
  have hne : ∀ o ∈ operators, o ≠ [] := by decide
  obtain ⟨u, rfl⟩ := List.isPrefixOf_iff_prefix.1 hp
  exact ⟨by simp, hne o hmem⟩

theorem opening?_append {t p u : Text} {q : Char} (h : opening? t = some (p, q, u)) :
    p ++ q :: u = t := by
  unfold opening? at h
  split at h
  · split at h
    · simp_all
    · split at h
      · split at h
        · split at h
          · obtain ⟨rfl, rfl, rfl⟩ := by simpa using h
            rfl
          · contradiction
        · split at h
          · split at h
            · obtain ⟨rfl, rfl, rfl⟩ := by simpa using h
              rfl
            · contradiction
          · contradiction
      · contradiction
  · contradiction

theorem Ending.eq_of_prepend {p a b : Text} {e : Ending} (h : e.prepend p = .closed a b) :
    ∃ c, e = .closed c b ∧ a = p ++ c := by
  cases e with
  | closed c d =>
    obtain ⟨rfl, rfl⟩ := Ending.closed.inj h
    exact ⟨c, rfl, rfl⟩
  | backslash => contradiction
  | «open» => contradiction

theorem close_append {q : Char} {t a b : Text} (h : close q t = .closed a b) : a ++ b = t := by
  fun_induction close q t generalizing a with
  | case1 => contradiction
  | case2 => contradiction
  | case3 => contradiction
  | case4 c t _ ih =>
    obtain ⟨d, hd, rfl⟩ := Ending.eq_of_prepend h
    simp [ih hd]
  | case5 c t =>
    obtain ⟨rfl, rfl⟩ := Ending.closed.inj h
    rfl
  | case6 c t _ _ _ _ ih =>
    obtain ⟨d, hd, rfl⟩ := Ending.eq_of_prepend h
    simp [ih hd]

theorem closeTriple?_append {q : Char} {t : Text} {x : Taken} (h : closeTriple? q t = some x) :
    x.1 ++ x.2 = t := by
  fun_induction closeTriple? q t generalizing x with
  | case1 => contradiction
  | case2 c t ih =>
    obtain ⟨y, hy, rfl⟩ := Option.map_eq_some_iff.1 h
    simp [ih hy]
  | case3 c d e u _ _ =>
    obtain rfl := Option.some.inj h
    rfl
  | case4 c _ d e u _ ih =>
    obtain ⟨y, hy, rfl⟩ := Option.map_eq_some_iff.1 h
    simp [ih hy]
  | case5 c t _ _ ih =>
    obtain ⟨y, hy, rfl⟩ := Option.map_eq_some_iff.1 h
    simp [ih hy]

end Token

namespace LineScan

variable (rule : NameRule)

theorem word_append {t x r : Text} {k : TokenKind} (h : word rule t = .token k x r) :
    x ++ r = t ∧ x ≠ [] := by
  unfold word at h
  split at h
  · contradiction
  · next c w hw =>
    obtain ⟨-, rfl, rfl⟩ := Lead.token.inj h
    rw [← hw]
    exact ⟨List.takeWhile_append_dropWhile, by simp [hw]⟩

theorem string_append {row column : Nat} {t p u x r : Text} {q : Char} {k : TokenKind}
    (ht : p ++ q :: u = t) (h : string rule row column t p q u = .token k x r) :
    x ++ r = t ∧ x ≠ [] := by
  unfold string at h
  split at h
  · next hq =>
    obtain ⟨v, rfl⟩ := List.isPrefixOf_iff_prefix.1 hq
    split at h
    · next hy =>
      obtain ⟨-, rfl, rfl⟩ := Lead.token.inj h
      have := Token.closeTriple?_append hy
      rw [← ht]
      refine ⟨?_, by simp⟩
      simp only [List.append_assoc, this]
      simp
    · contradiction
  · split at h
    · next hy =>
      obtain ⟨-, rfl, rfl⟩ := Lead.token.inj h
      rw [← ht]
      exact ⟨by simp [Token.close_append hy], by simp⟩
    · contradiction
    · exact word_append rule h

theorem lead_append {row column : Nat} {t x r : Text} {k : TokenKind}
    (h : lead rule row column t = .token k x r) : x ++ r = t ∧ x ≠ [] := by
  unfold lead at h
  split at h
  · next ho => exact string_append rule (Token.opening?_append ho) h
  · split at h
    · next hn =>
      obtain ⟨-, rfl, rfl⟩ := Lead.token.inj h
      exact Token.splits_number? hn
    · split at h
      · next ho =>
        obtain ⟨-, rfl, rfl⟩ := Lead.token.inj h
        exact Token.splits_operator? ho
      · exact word_append rule h

theorem length_dropWhile_gap (t : Text) :
    (t.takeWhile isGap).length + (t.dropWhile isGap).length = t.length := by
  rw [← List.length_append, List.takeWhile_append_dropWhile]

/-- Any number greater than the text's length bounds the tokens as well as any other. -/
theorem tokens_eq_rest (row n column : Nat) (t : Text) (h : t.length < n) :
    tokens rule row n column t = rest rule row column t := by
  suffices hs : ∀ n m column (t : Text), t.length < n → t.length < m →
      tokens rule row n column t = tokens rule row m column t from
    hs n _ column t h (Nat.lt_succ_self _)
  intro n
  induction n with
  | zero => intro m column t hn; omega
  | succ n ih =>
    intro m column t hn hm
    obtain ⟨m, rfl⟩ : ∃ k, m = k + 1 := ⟨m - 1, by omega⟩
    have hgap := length_dropWhile_gap t
    simp only [tokens]
    split
    · rfl
    · rfl
    · rfl
    · rfl
    · next c hu =>
      rw [hu, List.length_cons] at hgap
      refine ih m _ _ ?_ ?_ <;> rw [List.length_drop] <;> omega
    · split
      · next x r hl =>
        obtain ⟨hx, hne⟩ := lead_append rule hl
        have hlen := congrArg List.length hx
        have := List.length_pos_iff.2 hne
        rw [List.length_append] at hlen
        rw [ih m _ r (by omega) (by omega)]
      · rfl
      · have hpos : 0 < t.length := by
          cases t with
          | nil => simp_all
          | cons c t => simp
        rw [ih m _ (t.drop 1) (by rw [List.length_drop]; omega) (by rw [List.length_drop]; omega)]

def startsToken : Text → Bool
  | [] => false
  | c :: _ => !isGap c && c ≠ '#' && c ≠ '\\' && c ≠ '\r'

theorem rest_cons {row column : Nat} {g t x r : Text} {k : TokenKind} {ts : List Token} {e : LineEnd}
    (hg : ∀ c ∈ g, isGap c = true) (ht : startsToken t = true)
    (h : lead rule row (column + g.length) t = .token k x r)
    (hr : rest rule row (column + g.length + x.length) r = (ts, e)) :
    rest rule row column (g ++ t) = (⟨k, x, row, column + g.length⟩ :: ts, e) := by
  obtain ⟨hx, hne⟩ := lead_append rule h
  have hlen : r.length < (g ++ t).length := by
    have := List.length_pos_iff.2 hne
    simp only [← hx, List.length_append]
    omega
  rw [← tokens_eq_rest rule row (g ++ t).length _ r hlen] at hr
  cases t with
  | nil => contradiction
  | cons c t =>
    simp only [startsToken, Bool.and_eq_true, Bool.not_eq_true', decide_eq_true_eq] at ht
    obtain ⟨⟨⟨hc, h1⟩, h2⟩, h3⟩ := ht
    simp only [rest, tokens, List.takeWhile_append_of_pos hg, List.dropWhile_append_of_pos hg,
      List.takeWhile_cons_of_neg (by simp [hc] : ¬ isGap c = true),
      List.dropWhile_cons_of_neg (by simp [hc] : ¬ isGap c = true), List.append_nil]
    split
    · contradiction
    · next he => exact absurd (List.cons.inj he).1 h3
    · next he => exact absurd (List.cons.inj he).1 h2
    · next he => exact absurd (List.cons.inj he).1 h2
    · next he => exact absurd (List.cons.inj he).1 h1
    · rw [h]
      dsimp only
      rw [hr]

end LineScan

namespace Token

/-- A text starts with no string if none of its first characters is a quote. -/
theorem opening?_eq_none {t : Text} (h : ∀ c ∈ t.take 3, isQuote c = false) : opening? t = none := by
  rcases t with _ | ⟨a, _ | ⟨b, _ | ⟨c, t⟩⟩⟩ <;> simp_all [opening?]

theorem opening?_eq_none_of_head {c : Char} (t : Text) (hq : isQuote c = false)
    (hp : c.toLower ∉ ['b', 'r', 'u', 'f']) : opening? (c :: t) = none := by
  have hprefix : ∀ p, isStringPrefix (c :: p) = false := by
    intro p
    simp only [List.mem_cons, List.not_mem_nil, or_false, not_or] at hp
    simp [isStringPrefix, hp.1, hp.2.1, hp.2.2.1, hp.2.2.2]
  rcases t with _ | ⟨a, _ | ⟨b, t⟩⟩ <;> simp [opening?, hq, hprefix]

theorem number?_eq_none {c : Char} (t : Text) (hd : c.isDigit = false) (hp : c ≠ '.') :
    number? (c :: t) = none := by
  have hz : c ≠ '0' := by rintro rfl; contradiction
  have hdigits : digits? Char.isDigit (c :: t) = none := by simp [digits?, hd]
  have hpoint : pointFloat? (c :: t) = none := by simp [pointFloat?, hdigits, either?, hp]
  have hfloat : float? (c :: t) = none := by simp [float?, hpoint, hdigits]
  have hbased : ∀ l k p, based? l k p (c :: t) = none := by
    intro l k p
    cases t <;> simp [based?, hz]
  have hdecimal : decimal? (c :: t) = none := by
    rw [decimal?]
    · exact hdigits
    · simp
    · simp [hz]
  simp [number?, imaginary?, hdigits, hfloat, hbased, hdecimal]

theorem operator?_eq_none {c : Char} (t : Text) (h : ∀ o ∈ operators, o.head? ≠ some c) :
    operator? (c :: t) = none := by
  simp only [operator?, Option.map_eq_none_iff, List.find?_eq_none]
  intro o ho hp
  have hne : ∀ o ∈ operators, o ≠ [] := by decide
  obtain ⟨u, hu⟩ := List.isPrefixOf_iff_prefix.1 hp
  cases o with
  | nil => exact hne [] ho rfl
  | cons d o =>
    rw [List.cons_append] at hu
    exact h _ ho (by rw [← (List.cons.inj hu).1]; rfl)

end Token

namespace LineScan

variable (rule : NameRule)

theorem lead_operator (row column : Nat) {c : Char} {t o r : Text} (hq : Token.isQuote c = false)
    (hp : c.toLower ∉ ['b', 'r', 'u', 'f']) (hd : c.isDigit = false) (hdot : c ≠ '.')
    (ho : Token.operator? (c :: t) = some (o, r)) :
    lead rule row column (c :: t) = .token .operator o r := by
  simp only [lead, Token.opening?_eq_none_of_head t hq hp, Token.number?_eq_none t hd hdot, ho]

end LineScan

namespace Lexeme

theorem start_of_nameRule {c : Char} (h : nameRule.start c = true) :
    nameRule.part c = true ∧ c.isDigit = false ∧ c ≠ '.' ∧
      ∀ o ∈ Token.operators, o.head? ≠ some c := by
  have hops : ∀ o ∈ Token.operators, o.head?.all (fun d => !nameRule.start d) = true := by decide
  refine ⟨?_, ?_, ?_, fun o ho hc => ?_⟩
  · simp only [nameRule, Bool.or_eq_true] at h ⊢
    obtain (h | h) | h := h
    · simp [Char.isAlphanum, h]
    · simp [h]
    · simp [h]
  · simp only [nameRule, Bool.or_eq_true, decide_eq_true_eq] at h
    rw [Bool.eq_false_iff]
    intro hd
    have halpha : c.isAlpha = (decide (c.val ≥ 'A'.val ∧ c.val ≤ 'Z'.val) ||
        (decide (c.val ≥ 'a'.val) && decide (c.val ≤ 'z'.val))) := rfl
    simp only [Char.isDigit, halpha, Bool.and_eq_true, Bool.or_eq_true, decide_eq_true_eq,
      UInt32.le_iff_toNat_le, Char.toNat] at h hd
    have hA : 'A'.val.toNat = 65 := rfl
    have ha : 'a'.val.toNat = 97 := rfl
    have h9 : '9'.val.toNat = 57 := rfl
    obtain (h | rfl) | h := h
    · omega
    · revert hd
      decide
    · omega
  · rintro rfl
    revert h
    decide
  · have := hops o ho
    rw [hc] at this
    simp [h] at this

theorem lead_name (row column : Nat) {c : Char} {w r : Text} (hc : nameRule.start c = true)
    (hw : ∀ d ∈ w, nameRule.part d = true) (hr : r.head?.all (fun d => !nameRule.part d) = true)
    (hq : ∀ d ∈ (c :: (w ++ r)).take 3, Token.isQuote d = false) :
    LineScan.lead nameRule row column (c :: (w ++ r)) = .token .name (c :: w) r := by
  obtain ⟨hpart, hd, hdot, ho⟩ := start_of_nameRule hc
  have htake : (c :: (w ++ r)).takeWhile nameRule.part = c :: w := by
    rw [List.takeWhile_cons_of_pos hpart, List.takeWhile_append_of_pos hw]
    cases r <;> simp_all
  have hdrop : (c :: (w ++ r)).dropWhile nameRule.part = r := by
    rw [List.dropWhile_cons_of_pos hpart, List.dropWhile_append_of_pos hw]
    cases r <;> simp_all
  simp only [LineScan.lead, Token.opening?_eq_none hq, Token.number?_eq_none _ hd hdot,
    Token.operator?_eq_none _ ho, LineScan.word, htake, hdrop, hc, if_true]

theorem startsToken_of_start {c : Char} (h : nameRule.start c = true) (t : Text) :
    LineScan.startsToken (c :: t) = true := by
  have hspecial : [' ', '\t', '\x0c', '#', '\\', '\r'].all (fun d => !nameRule.start d) = true := by
    decide
  have hne : ∀ d ∈ [' ', '\t', '\x0c', '#', '\\', '\r'], c ≠ d := by
    rintro d hd rfl
    have := List.all_eq_true.1 hspecial c hd
    simp [h] at this
  simp only [List.mem_cons, List.not_mem_nil, or_false, forall_eq_or_imp, forall_eq] at hne
  simp [LineScan.startsToken, LineScan.isGap, hne]

end Lexeme
end TemplateEngine.Script
