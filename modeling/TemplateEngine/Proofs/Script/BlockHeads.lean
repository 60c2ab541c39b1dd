import TemplateEngine.Proofs.Script.Boundary
import TemplateEngine.Proofs.Script.StatementStart

set_option autoImplicit false

/-!
# Heads of blocks

Blocks are found by other names than those that programs are read by. In a text of whole tokens that
makes no difference for where strings end and how many brackets are open.
-/
namespace TemplateEngine.Script

namespace Token

/-- Characters that are more than a part of a token that starts no string and no bracket. -/
def specials : Text :=
  ['\'', '"', '(', ')', '[', ']', '\x7b', '\x7d', '#', '\\', '\r']

def isPlain (c : Char) : Bool := !specials.contains c

def isBracket (c : Char) : Bool := ['(', ')', '[', ']', '\x7b', '\x7d'].contains c

def PlainPart (f : Text → Option Taken) : Prop := ∀ t x, f t = some x → x.1.all isPlain = true

theorem plain_of_not_special {p : Char → Bool} (hp : specials.all (fun c => !p c) = true) {c : Char}
    (h : p c = true) : isPlain c = true := by
  rw [isPlain, Bool.not_eq_true', Bool.eq_false_iff]
  intro hc
  have := List.all_eq_true.1 hp c (List.contains_iff_mem.1 hc)
  simp [h] at this

theorem all_plain_moreDigits {p : Char → Bool} (hp : specials.all (fun c => !p c) = true) (t : Text) :
    (moreDigits p t).1.all isPlain = true := by
  have hunderscore : isPlain '_' = true := by decide
  fun_induction moreDigits p t with
  | case1 c t hc a b hab ih =>
    rw [hab] at ih
    simpa [hunderscore, plain_of_not_special hp hc] using ih
  | case2 => rfl
  | case3 c t hno hc a b hab ih =>
    rw [hab] at ih
    simpa [plain_of_not_special hp hc] using ih
  | case4 => rfl
  | case5 => rfl

theorem plainPart_digits? {p : Char → Bool} (hp : specials.all (fun c => !p c) = true) :
    PlainPart (digits? p) := by
  intro t x h
  cases t with
  | nil => contradiction
  | cons c t =>
    simp only [digits?, Option.ite_none_right_eq_some, Option.some.injEq] at h
    obtain ⟨hc, rfl⟩ := h
    simpa [plain_of_not_special hp hc] using all_plain_moreDigits hp t

theorem plainPart_either? {p q : Char} (hp : isPlain p = true) (hq : isPlain q = true) :
    PlainPart (either? p q) := by
  intro t x h
  cases t with
  | nil => contradiction
  | cons c t =>
    simp only [either?, Option.ite_none_right_eq_some, Option.some.injEq, Bool.or_eq_true,
      decide_eq_true_eq] at h
    obtain ⟨rfl | rfl, rfl⟩ := h
    · simp [hp]
    · simp [hq]

theorem PlainPart.andThen {f g : Text → Option Taken} (hf : PlainPart f) (hg : PlainPart g) :
    PlainPart fun t => (f t).bind (andThen g) := by
  intro t x h
  obtain ⟨y, hy, h⟩ := Option.bind_eq_some_iff.1 h
  obtain ⟨z, hz, rfl⟩ := Option.map_eq_some_iff.1 h
  rw [List.all_append, hf t y hy, hg y.2 z hz]
  rfl

theorem PlainPart.thenMaybe {f g : Text → Option Taken} (hf : PlainPart f) (hg : PlainPart g) :
    PlainPart fun t => (f t).map (thenMaybe g) := by
  intro t x h
  obtain ⟨y, hy, rfl⟩ := Option.map_eq_some_iff.1 h
  unfold Token.thenMaybe
  split
  · next a b hab => rw [List.all_append, hf t y hy, hg y.2 (a, b) hab]; rfl
  · exact hf t y hy

theorem PlainPart.or {f g : Text → Option Taken} (hf : PlainPart f) (hg : PlainPart g) :
    PlainPart fun t => (f t).or (g t) := by
  intro t x h
  obtain h | ⟨-, h⟩ := Option.or_eq_some_iff.1 h
  · exact hf t x h
  · exact hg t x h

theorem plainPart_exponent? : PlainPart exponent? := by
  have hdigits : PlainPart (digits? Char.isDigit) := plainPart_digits? (by decide)
  intro t x h
  unfold exponent? at h
  split at h
  · next e t =>
    split at h
    · next he =>
      have he : isPlain e = true := by
        simp only [Bool.or_eq_true, decide_eq_true_eq] at he
        obtain rfl | rfl := he <;> decide
      split at h
      · next s r =>
        split at h
        · next hs =>
          have hs : isPlain s = true := by
            simp only [Bool.or_eq_true, decide_eq_true_eq] at hs
            obtain rfl | rfl := hs <;> decide
          obtain ⟨y, hy, rfl⟩ := Option.map_eq_some_iff.1 h
          simpa [he, hs] using hdigits r y hy
        · obtain ⟨y, hy, rfl⟩ := Option.map_eq_some_iff.1 h
          simpa [he] using hdigits _ y hy
      · contradiction
    · contradiction
  · contradiction

theorem plainPart_based? {letter capital : Char} (hl : isPlain letter = true)
    (hc : isPlain capital = true) {p : Char → Bool} (hp : specials.all (fun c => !p c) = true) :
    PlainPart (based? letter capital p) := by
  intro t x h
  unfold based? at h
  split at h
  · next z y t =>
    split at h
    · next hzy =>
      simp only [Bool.and_eq_true, Bool.or_eq_true, decide_eq_true_eq] at hzy
      have hz : isPlain z = true := by rw [hzy.1]; decide
      have hy : isPlain y = true := by obtain h | h := hzy.2 <;> simp [h, hl, hc]
      have hmore := all_plain_moreDigits hp t
      split at h
      · contradiction
      · next a b _ hab =>
        rw [hab] at hmore
        obtain rfl := Option.some.inj h
        simpa [hz, hy] using hmore
    · contradiction
  · contradiction

theorem plainPart_number? : PlainPart number? := by
  have hdigits : PlainPart (digits? Char.isDigit) := plainPart_digits? (by decide)
  have hpoint : PlainPart (either? '.' '.') := plainPart_either? (by decide) (by decide)
  have hletter : PlainPart (either? 'j' 'J') := plainPart_either? (by decide) (by decide)
  have hpointFloat : PlainPart pointFloat? := by
    have h := ((hdigits.andThen hpoint).thenMaybe hdigits).or (hpoint.andThen hdigits)
    exact fun t x hx => h t x ((pointFloat?_eq t).symm.trans hx)
  have hfloat : PlainPart float? := by
    have h := (hpointFloat.thenMaybe plainPart_exponent?).or (hdigits.andThen plainPart_exponent?)
    exact fun t x hx => h t x ((float?_eq t).symm.trans hx)
  have himaginary : PlainPart imaginary? := by
    have h := (hdigits.andThen hletter).or (hfloat.andThen hletter)
    exact fun t x hx => h t x ((imaginary?_eq t).symm.trans hx)
  have hdecimal : PlainPart decimal? := by
    intro t x h
    unfold decimal? at h
    split at h
    · contradiction
    · next t =>
      obtain rfl := Option.some.inj h
      have hzero : isPlain '0' = true := by decide
      simpa [hzero] using all_plain_moreDigits (p := (· = '0')) (by decide) t
    · exact hdigits _ x h
  have h := himaginary.or (hfloat.or ((@plainPart_based? 'x' 'X'
    (by decide) (by decide) isHexDigit (by decide)).or
      ((@plainPart_based? 'b' 'B' (by decide) (by decide)
        isBinaryDigit (by decide)).or
          ((@plainPart_based? 'o' 'O' (by decide) (by decide)
            isOctalDigit (by decide)).or hdecimal))))
  intro t x hx
  simp only [number?, Option.orElse_eq_orElse, Option.orElse_eq_or] at hx
  exact h t x hx

/-- An operator is a bracket, or has only plain characters and opens and closes nothing. -/
theorem operator?_shape {t : Text} {x : Taken} (h : operator? t = some x) :
    (∃ c, x.1 = [c] ∧ isBracket c = true) ∨ x.1.all isPlain = true ∧ bracketChange x.1 = 0 := by
  have hall : (operators.all fun o =>
      (o.length = 1 && o.all isBracket) || (o.all isPlain && bracketChange o = 0)) = true := by decide
  obtain ⟨o, ho, rfl⟩ := Option.map_eq_some_iff.1 h
  have := List.all_eq_true.1 hall o (List.mem_of_find?_eq_some ho)
  simp only [Bool.or_eq_true, Bool.and_eq_true, decide_eq_true_eq] at this
  obtain ⟨hlen, hb⟩ | ⟨hp, hc⟩ := this
  · obtain ⟨c, rfl⟩ := List.length_eq_one_iff.1 hlen
    exact .inl ⟨c, rfl, by simpa using hb⟩
  · exact .inr ⟨hp, hc⟩

end Token

namespace LineScan

open Token

/-- A text of plain characters, brackets and closed strings, and by how much it changes the number of
open brackets. -/
inductive Bare : Text → Int → Prop where
  | nil : Bare [] 0
  | plain {c : Char} {t : Text} {d : Int} : isPlain c = true → Bare t d → Bare (c :: t) d
  | bracket {c : Char} {t : Text} {d : Int} :
      isBracket c = true → Bare t d → Bare (c :: t) (bracketChange [c] + d)
  | string {q : Char} {t a b : Text} {d : Int} : isQuote q = true → ¬ [q, q].isPrefixOf t = true →
      close q t = .closed a b → Bare b d → Bare (q :: t) d
  | triple {q : Char} {t a b : Text} {d : Int} : isQuote q = true →
      closeTriple? q t = some (a, b) → Bare b d → Bare (q :: q :: q :: t) d

namespace Bare

variable {t u : Text} {d e : Int}

theorem of_plain (h : t.all isPlain = true) : Bare t 0 := by
  induction t with
  | nil => exact .nil
  | cons c t ih =>
    simp only [List.all_cons, Bool.and_eq_true] at h
    exact .plain h.1 (ih h.2)

theorem append_plain (h : t.all isPlain = true) (hu : Bare u d) : Bare (t ++ u) d := by
  induction t with
  | nil => exact hu
  | cons c t ih =>
    simp only [List.all_cons, Bool.and_eq_true] at h
    exact .plain h.1 (ih h.2)

/-- What is special in a character. -/
theorem special_cases {c : Char} : isPlain c = true ∧ isBracket c = false ∧ isQuote c = false ∨
    isPlain c = false ∧ isBracket c = true ∧ isQuote c = false ∨
    isPlain c = false ∧ isBracket c = false ∧ isQuote c = true ∨
    isPlain c = false ∧ isBracket c = false ∧ isQuote c = false := by
  by_cases h : c ∈ specials
  · have hall : specials.all (fun c => !isPlain c && !(isBracket c && isQuote c)) = true := by decide
    have := List.all_eq_true.1 hall c h
    revert this
    cases isPlain c <;> cases isBracket c <;> cases isQuote c <;> simp
  · have hp : isPlain c = true := by simpa [isPlain] using h
    simp only [specials, List.mem_cons, List.not_mem_nil, or_false, not_or] at h
    refine .inl ⟨hp, ?_, ?_⟩
    · simp [isBracket, h]
    · simp [isQuote, h]

theorem of_plain_cons {c : Char} (hc : isPlain c = true) (h : Bare (c :: t) d) : Bare t d := by
  have hcases := special_cases (c := c)
  cases h with
  | plain _ h => exact h
  | bracket hb _ => simp_all
  | string hq _ _ _ => simp_all
  | triple hq _ _ => simp_all

theorem of_bracket_cons {c : Char} (hc : isBracket c = true) (h : Bare (c :: t) d) :
    ∃ e, Bare t e ∧ d = bracketChange [c] + e := by
  have hcases := special_cases (c := c)
  cases h with
  | plain _ h => simp_all
  | bracket _ h => exact ⟨_, h, rfl⟩
  | string hq _ _ _ => simp_all
  | triple hq _ _ => simp_all

theorem of_append_plain (h : t.all isPlain = true) (hu : Bare (t ++ u) d) : Bare u d := by
  induction t with
  | nil => exact hu
  | cons c t ih =>
    simp only [List.all_cons, Bool.and_eq_true] at h
    exact ih h.2 (of_plain_cons h.1 hu)

/-- A quote starts a string that is closed. -/
theorem of_quote_cons {q : Char} (hq : isQuote q = true) (h : Bare (q :: t) d) :
    (¬ [q, q].isPrefixOf t = true ∧ ∃ a b, close q t = .closed a b ∧ Bare b d) ∨
      ∃ u a b, t = q :: q :: u ∧ closeTriple? q u = some (a, b) ∧ Bare b d := by
  have hcases := special_cases (c := q)
  cases h with
  | plain _ h => simp_all
  | bracket _ h => simp_all
  | string _ hp hc hb => exact .inl ⟨hp, _, _, hc, hb⟩
  | triple _ hc hb => exact .inr ⟨_, _, _, rfl, hc, hb⟩

theorem isPlain_of_cons {c : Char} (hb : isBracket c = false) (hq : isQuote c = false)
    (h : Bare (c :: t) d) : isPlain c = true := by
  cases h with
  | plain hc _ => exact hc
  | bracket hc _ => simp_all
  | string hc _ _ _ => simp_all
  | triple hc _ _ => simp_all

theorem startsToken {c : Char} (hg : isGap c = false) (h : Bare (c :: t) d) :
    startsToken (c :: t) = true := by
  have hcases := special_cases (c := c)
  have hspecial : ∀ x ∈ ['#', '\\', '\r'], isPlain x = false ∧ isBracket x = false ∧ isQuote x = false :=
    Text.forall_mem_of_all (by decide)
  have hne : ∀ x ∈ ['#', '\\', '\r'], c ≠ x := by
    rintro x hx rfl
    have := hspecial c hx
    simp [isPlain_of_cons this.2.1 this.2.2 h] at this
  simp only [List.mem_cons, List.not_mem_nil, or_false, forall_eq_or_imp, forall_eq] at hne
  simp [LineScan.startsToken, hg, hne]

end Bare

def change (k : TokenKind) (x : Text) : Int := if k = .operator then bracketChange x else 0

theorem bracketChange_of_plain {x : Text} (h : x.all isPlain = true) : bracketChange x = 0 := by
  unfold bracketChange
  split
  all_goals first
    | rfl
    | exact absurd h (by decide)

theorem change_of_plain {k : TokenKind} {x : Text} (h : x.all isPlain = true) : change k x = 0 := by
  rw [change, bracketChange_of_plain h, ite_self]

theorem all_plain_stringPrefix {p : Text} (h : isStringPrefix p = true) : p.all isPlain = true := by
  have hletters : [[], ['b'], ['r'], ['u'], ['f'], ['b', 'r'], ['r', 'b'], ['f', 'r'], ['r', 'f']].all
      (List.all · fun c => ['b', 'r', 'u', 'f'].contains c) = true := by
    decide
  have hspecial : specials.all (fun c => !(['b', 'r', 'u', 'f'].contains c.toLower)) = true := by
    decide
  have hmem := List.contains_iff_mem.1 h
  refine List.all_eq_true.2 fun c hc => plain_of_not_special hspecial ?_
  exact List.all_eq_true.1 (List.all_eq_true.1 hletters _ hmem) _ (List.mem_map_of_mem hc)

/-- Nothing special stands in front of the first quote of a string. -/
theorem all_plain_of_opening? {t p u : Text} {q : Char} (h : opening? t = some (p, q, u)) :
    p.all isPlain = true := by
  refine all_plain_stringPrefix ?_
  unfold opening? at h
  split at h
  · split at h
    · obtain ⟨rfl, -⟩ := Prod.mk.inj (Option.some.inj h)
      rfl
    · split at h
      · split at h
        · split at h
          · obtain ⟨rfl, -⟩ := Prod.mk.inj (Option.some.inj h)
            assumption
          · contradiction
        · split at h
          · split at h
            · obtain ⟨rfl, -⟩ := Prod.mk.inj (Option.some.inj h)
              simp_all
            · contradiction
          · contradiction
      · contradiction
  · contradiction

def PlainNames (rule : NameRule) : Prop := specials.all (fun c => !rule.part c) = true

theorem plainNames_nameRule : PlainNames Lexeme.nameRule := by unfold PlainNames; decide

theorem plainNames_wordRule : PlainNames wordRule := by unfold PlainNames; decide +kernel

section

variable {rule : NameRule} {row column : Nat} {k : TokenKind} {t x r : Text} {d e : Int}

theorem word_shape (hrule : PlainNames rule) (h : word rule t = .token k x r) :
    t = x ++ r ∧ x.all isPlain = true := by
  have hsplit := (word_append rule h).1.symm
  unfold word at h
  split at h
  · contradiction
  · next c w hw =>
    obtain ⟨-, rfl, -⟩ := Lead.token.inj h
    refine ⟨hsplit, List.all_eq_true.2 fun d hd => plain_of_not_special hrule ?_⟩
    rw [← hw] at hd
    exact List.mem_takeWhile_imp hd

theorem lead_cases (hrule : PlainNames rule) (h : lead rule row column t = .token k x r) :
    (t = x ++ r ∧ x.all isPlain = true ∧ change k x = 0) ∨
    (∃ c, t = c :: r ∧ isBracket c = true ∧ change k x = bracketChange [c]) ∨
    (∃ p q u a, t = p ++ q :: u ∧ p.all isPlain = true ∧ isQuote q = true ∧ change k x = 0 ∧
      ((¬ [q, q].isPrefixOf u = true ∧ close q u = .closed a r) ∨
        ∃ v, u = q :: q :: v ∧ closeTriple? q v = some (a, r))) := by
  have hword : ∀ {k x r}, word rule t = .token k x r →
      t = x ++ r ∧ x.all isPlain = true ∧ change k x = 0 := fun hw =>
    have hshape := word_shape hrule hw
    ⟨hshape.1, hshape.2, change_of_plain hshape.2⟩
  unfold lead at h
  split at h
  · next p q u hopening =>
    have hq := isQuote_of_opening? hopening
    have ht := (opening?_append hopening).symm
    have hp := all_plain_of_opening? hopening
    unfold string at h
    split at h
    · next hqq =>
      obtain ⟨v, rfl⟩ := List.isPrefixOf_iff_prefix.1 hqq
      split at h
      · next hy =>
        obtain ⟨rfl, -, rfl⟩ := Lead.token.inj h
        exact .inr (.inr ⟨p, q, _, _, ht, hp, hq, rfl, .inr ⟨v, rfl, hy⟩⟩)
      · contradiction
    · next hqq =>
      split at h
      · next hy =>
        obtain ⟨rfl, -, rfl⟩ := Lead.token.inj h
        exact .inr (.inr ⟨p, q, _, _, ht, hp, hq, rfl, .inl ⟨hqq, hy⟩⟩)
      · contradiction
      · exact .inl (hword h)
  · split at h
    · next hn =>
      obtain ⟨rfl, rfl, rfl⟩ := Lead.token.inj h
      have hplain := plainPart_number? _ _ hn
      exact .inl ⟨(splits_number? hn).1.symm, hplain, change_of_plain hplain⟩
    · split at h
      · next ho =>
        obtain ⟨rfl, rfl, rfl⟩ := Lead.token.inj h
        have hsplit := (splits_operator? ho).1.symm
        obtain ⟨c, rfl, hc⟩ | ⟨hplain, -⟩ := operator?_shape ho
        · exact .inr (.inl ⟨c, hsplit, hc, rfl⟩)
        · exact .inl ⟨hsplit, hplain, change_of_plain hplain⟩
      · exact .inl (hword h)

theorem bare_of_lead (hrule : PlainNames rule) (h : lead rule row column t = .token k x r)
    (hr : Bare r e) : Bare t (change k x + e) := by
  obtain ⟨rfl, hx, hk⟩ | ⟨c, rfl, hc, hk⟩ | ⟨p, q, u, a, rfl, hp, hq, hk, hstring⟩ :=
    lead_cases hrule h
  · rw [hk, Int.zero_add]
    exact .append_plain hx hr
  · rw [hk]
    exact .bracket hc hr
  · rw [hk, Int.zero_add]
    refine .append_plain hp ?_
    obtain ⟨hqq, hclose⟩ | ⟨v, rfl, hclose⟩ := hstring
    · exact .string hq hqq hclose hr
    · exact .triple hq hclose hr

theorem Bare.of_lead (hrule : PlainNames rule) (h : lead rule row column t = .token k x r)
    (ht : Bare t d) : ∃ e, Bare r e ∧ d = change k x + e := by
  obtain ⟨rfl, hx, hk⟩ | ⟨c, rfl, hc, hk⟩ | ⟨p, q, u, a, rfl, hp, hq, hk, hstring⟩ :=
    lead_cases hrule h
  · exact ⟨d, of_append_plain hx ht, by rw [hk, Int.zero_add]⟩
  · rw [hk]
    exact of_bracket_cons hc ht
  · refine ⟨d, ?_, by rw [hk, Int.zero_add]⟩
    obtain ⟨hqq, b, c, hb, hc⟩ | ⟨w, b, c, rfl, hb, hc⟩ :=
      of_quote_cons hq (of_append_plain hp ht)
    · obtain ⟨-, hclose⟩ | ⟨v, rfl, -⟩ := hstring
      · obtain ⟨-, rfl⟩ := Token.Ending.closed.inj (hb.symm.trans hclose)
        exact hc
      · exact absurd (by simp) hqq
    · obtain ⟨hqq, -⟩ | ⟨v, hv, hclose⟩ := hstring
      · exact absurd (by simp) hqq
      · obtain ⟨rfl⟩ : w = v := by simpa using hv
        obtain ⟨-, rfl⟩ := Prod.mk.inj (Option.some.inj (hb.symm.trans hclose))
        exact hc

theorem depthAfter_cons (depth : Int) (t : Token) (ts : List Token) :
    depthAfter depth (t :: ts) = depthAfter (depth + change t.kind t.text) ts := by
  simp only [depthAfter, List.foldl_cons, change]
  split <;> simp

theorem isPlain_of_gap {c : Char} (h : isGap c = true) : isPlain c = true := by
  simp only [isGap, Bool.or_eq_true, decide_eq_true_eq] at h
  obtain (rfl | rfl) | rfl := h <;> decide

/-- A text of whole tokens is bare. -/
theorem bare_of_tokens? (hrule : PlainNames rule) {n : Nat} {ts : List Token}
    (h : tokens? rule n column t = some ts) : ∃ d, Bare t d ∧ ∀ m, depthAfter m ts = m + d := by
  induction n generalizing column t ts with
  | zero => contradiction
  | succ n ih =>
    have hgap : ∀ {u d}, t.dropWhile isGap = u → Bare u d → Bare t d := by
      rintro u d rfl hu
      rw [← List.takeWhile_append_dropWhile (p := isGap) (l := t)]
      exact .append_plain (List.all_eq_true.2 fun c hc => isPlain_of_gap (isGap_of_mem_takeWhile c hc)) hu
    rw [tokens?] at h
    split at h
    · next hnil =>
      obtain rfl := Option.some.inj h
      exact ⟨0, hgap hnil .nil, fun m => (Int.add_zero m).symm⟩
    · split at h
      · split at h
        · next k x r hlead =>
          obtain ⟨us, hus, rfl⟩ := Option.map_eq_some_iff.1 h
          obtain ⟨e, hr, he⟩ := ih hus
          refine ⟨_, hgap rfl (bare_of_lead hrule hlead hr), fun m => ?_⟩
          rw [depthAfter_cons, he, Int.add_assoc]
        · contradiction
      · contradiction

theorem string_of_bare (rule : NameRule) (row column : Nat) (hb : Bare t d) {p u : Text} {q : Char}
    (h : opening? t = some (p, q, u)) :
    ∃ x r, string rule row column t p q u = .token .string x r := by
  have ht := opening?_append h
  have hq := isQuote_of_opening? h
  rw [← ht] at hb
  unfold string
  obtain ⟨hqq, a, b, hclose, -⟩ | ⟨v, a, b, rfl, hclose, -⟩ :=
    Bare.of_quote_cons hq (Bare.of_append_plain (all_plain_of_opening? h) hb)
  · rw [if_neg hqq, hclose]
    exact ⟨_, _, rfl⟩
  · rw [if_pos (by simp)]
    have hdrop : (q :: q :: v).drop 2 = v := rfl
    rw [hdrop, hclose]
    exact ⟨_, _, rfl⟩

theorem word_none_append (hrule : rule.Ends) (h : word rule t = .none) :
    word rule (t ++ [':']) = .none := by
  unfold word at h ⊢
  split at h
  · next htake =>
    have : (t ++ [':']).takeWhile rule.part = [] := by
      cases t with
      | nil => simp [hrule.colon]
      | cons c t =>
        have hc : ¬ rule.part c = true := fun hc => by simp [hc] at htake
        simp [hc]
    rw [this]
  · contradiction

theorem lead_none_append (hrule : rule.Ends) (hne : t ≠ [])
    (hb : Bare t d) (h : lead rule row column t = .none) :
    lead rule row column (t ++ [':']) = .none := by
  have hs := closers_colon
  unfold lead at h ⊢
  rw [opening?_append_inert t hs.inert]
  cases hopening : opening? t with
  | some y =>
    obtain ⟨p, q, u⟩ := y
    rw [hopening] at h
    obtain ⟨x, r, hstring⟩ := string_of_bare rule row column hb hopening
    simp [hstring] at h
  | none =>
    rw [hopening] at h
    rw [Option.map_none, local_number? t _ hs.inert]
    dsimp only at h ⊢
    cases hnumber : number? t with
    | some y => simp [hnumber] at h
    | none =>
      rw [hnumber] at h
      rw [Option.map_none, operator?_append_inert hne hs.inert]
      dsimp only at h ⊢
      cases hoperator : operator? t with
      | some y => simp [hoperator] at h
      | none =>
        rw [hoperator] at h
        exact word_none_append hrule h

/-- A bare text never leaves a string open. -/
theorem lead_ne_openString (hb : Bare t d) (s : OpenString) : lead rule row column t ≠ .openString s := by
  have hword : ∀ u, word rule u ≠ .openString s := by
    intro u
    unfold word
    split <;> simp
  unfold lead
  split
  · next p q u hopening =>
    obtain ⟨x, r, hstring⟩ := string_of_bare rule row column hb hopening
    simp [hstring]
  · split
    · simp
    · split
      · simp
      · exact hword t

theorem isPlain_of_lead_none {c : Char} (hb : Bare (c :: t) d)
    (h : lead rule row column (c :: t) = .none) : isPlain c = true := by
  refine Bare.isPlain_of_cons ?_ ?_ hb
  · rw [Bool.eq_false_iff]
    intro hc
    have hoperator : ∃ o, lead rule row column (c :: t) = .token .operator o t := by
      have hmem := List.contains_iff_mem.1 hc
      simp only [List.mem_cons, List.not_mem_nil, or_false] at hmem
      obtain rfl | rfl | rfl | rfl | rfl | rfl := hmem <;>
        exact ⟨_, lead_operator rule row column rfl (by decide) rfl (by decide) rfl⟩
    obtain ⟨o, ho⟩ := hoperator
    rw [ho] at h
    contradiction
  · rw [Bool.eq_false_iff]
    intro hq
    have hopening : opening? (c :: t) = some ([], c, t) := by simp [opening?, hq]
    obtain ⟨x, r, hstring⟩ := string_of_bare rule row column hb hopening
    simp [lead, hopening, hstring] at h

/-- A character that starts no token is one by itself, with the blank in front of it if there is one. -/
theorem rest_none {c : Char} (hstart : startsToken ((c :: t).dropWhile isGap) = true)
    (h : lead rule row (column + ((c :: t).takeWhile isGap).length) ((c :: t).dropWhile isGap) = .none) :
    rest rule row column (c :: t) =
      (⟨.unknown, [c], row, column⟩ :: (rest rule row (column + 1) t).1,
        (rest rule row (column + 1) t).2) := by
  have hrest : rest rule row column (c :: t) = tokens rule row (t.length + 1 + 1) column (c :: t) := rfl
  rw [hrest, tokens]
  generalize (c :: t).dropWhile isGap = u at hstart h
  cases u with
  | nil => contradiction
  | cons x u =>
    simp only [startsToken, Bool.and_eq_true, Bool.not_eq_true', decide_eq_true_eq] at hstart
    obtain ⟨⟨⟨-, h1⟩, h2⟩, h3⟩ := hstart
    dsimp only
    split
    · contradiction
    · next he => exact absurd (List.cons.inj he).1 h3
    · next he => exact absurd (List.cons.inj he).1 h2
    · next he => exact absurd (List.cons.inj he).1 h2
    · next he => exact absurd (List.cons.inj he).1 h1
    · rw [h]
      rfl

def colonToken (row column : Nat) : Token := ⟨.operator, [':'], row, column⟩

/-- What is scanned of a text and a colon behind it ends in the colon as a token of its own, and opens
so many brackets in front of it. -/
def EndsInColon (rule : NameRule) (row column : Nat) (t : Text) (d : Int) : Prop :=
  ∃ ts c, rest rule row column (t ++ [':']) = (ts ++ [colonToken row c], .plain) ∧
    ∀ m, depthAfter m ts = m + d

theorem endsInColon_gap {g : Text} (hg : ∀ c ∈ g, isGap c = true) :
    EndsInColon rule row column g 0 := by
  have hcolon : rest rule row (column + g.length) [':'] =
      ([colonToken row (column + g.length)], .plain) :=
    rest_cons rule (g := []) (by simp) rfl (lead_closer rule row _ closers_colon) rfl
  exact ⟨[], _, by rw [rest_gap row column hg closers_colon, hcolon]; rfl,
    fun m => (Int.add_zero m).symm⟩

theorem EndsInColon.token {g : Text} (hrule : rule.Ends) (hg : ∀ c ∈ g, isGap c = true)
    (hstart : startsToken t = true) (hlead : lead rule row (column + g.length) t = .token k x r)
    (hr : EndsInColon rule row (column + g.length + x.length) r d) :
    EndsInColon rule row column (g ++ t) (change k x + d) := by
  obtain ⟨ts, i, hrest, hdepth⟩ := hr
  have hstart' : startsToken (t ++ [':']) = true := by
    cases t with
    | nil => contradiction
    | cons c u => exact hstart
  refine ⟨⟨k, x, row, column + g.length⟩ :: ts, i, ?_, fun m => ?_⟩
  · rw [List.append_assoc]
    exact rest_cons rule hg hstart' (lead_append_closers hrule closers_colon hlead) hrest
  · rw [depthAfter_cons, hdepth, Int.add_assoc]

/-- Where no token starts, the first character is taken by itself, a blank too. -/
theorem EndsInColon.unknown {b c : Char} {u v : Text} (hrule : rule.Ends)
    (hdrop : (b :: v).dropWhile isGap = c :: u) (hu : Bare (c :: u) e)
    (hstart : startsToken (c :: u) = true)
    (hlead : lead rule row (column + ((b :: v).takeWhile isGap).length) (c :: u) = .none)
    (hv : EndsInColon rule row (column + 1) v d) : EndsInColon rule row column (b :: v) d := by
  obtain ⟨ts, i, hrest, hdepth⟩ := hv
  obtain ⟨htake', hdrop'⟩ := gap_append [':'] hdrop
  rw [List.cons_append] at htake' hdrop'
  refine ⟨⟨.unknown, [b], row, column⟩ :: ts, i, ?_, fun m => ?_⟩
  · have hcons := @rest_none rule row column (v ++ [':']) b (by rw [hdrop']; exact hstart)
      (by rw [hdrop', htake']; exact lead_none_append hrule (List.cons_ne_nil c u) hu hlead)
    rw [List.cons_append, hcons, hrest]
    rfl
  · rw [depthAfter_cons, hdepth, change, if_neg (by simp), Int.add_zero]

/-- The first character of a bare text that starts no token is neither a bracket nor a quote. -/
theorem isPlain_of_none {b c : Char} {u v : Text} (hdrop : (b :: v).dropWhile isGap = c :: u)
    (hu : Bare (c :: u) d) (hlead : lead rule row column (c :: u) = .none) : isPlain b = true := by
  by_cases hgap : isGap b = true
  · exact isPlain_of_gap hgap
  · rw [List.dropWhile_cons_of_neg hgap] at hdrop
    obtain ⟨rfl, rfl⟩ := List.cons.inj hdrop
    exact isPlain_of_lead_none hu hlead

/-- The last token of a bare text and a colon is the colon, and nothing is left open but brackets. -/
theorem rest_bare (hrule : rule.Ends) (hplain : PlainNames rule) (row column : Nat) {t : Text}
    {d : Int} (hb : Bare t d) : EndsInColon rule row column t d := by
  induction hn : t.length using Nat.strong_induction_on generalizing t d column with
  | _ n ih =>
    subst hn
    have hsplit := List.takeWhile_append_dropWhile (p := isGap) (l := t)
    have hgap : (t.takeWhile isGap).all isPlain = true :=
      List.all_eq_true.2 fun c hc => isPlain_of_gap (isGap_of_mem_takeWhile c hc)
    have hu : Bare (t.dropWhile isGap) d := Bare.of_append_plain hgap (by rwa [hsplit])
    cases hdrop : t.dropWhile isGap with
    | nil =>
      rw [hdrop] at hu
      obtain rfl : d = 0 := by cases hu; rfl
      exact endsInColon_gap (List.dropWhile_eq_nil_iff.1 hdrop)
    | cons c u =>
      rw [hdrop] at hu hsplit
      have hstart : startsToken (c :: u) = true := hu.startsToken (isGap_of_dropWhile hdrop)
      cases hlead : lead rule row (column + (t.takeWhile isGap).length) (c :: u) with
      | token k x r =>
        obtain ⟨e, hr, rfl⟩ := Bare.of_lead hplain hlead hu
        have hlen : r.length < t.length := by
          obtain ⟨hx, hne⟩ := lead_append rule hlead
          have := List.length_pos_iff.2 hne
          rw [← hsplit, ← hx]
          simp only [List.length_append]
          omega
        rw [← hsplit]
        exact .token hrule isGap_of_mem_takeWhile hstart hlead (ih r.length hlen _ hr rfl)
      | openString s => exact absurd hlead (lead_ne_openString hu s)
      | none =>
        cases t with
        | nil => contradiction
        | cons b v =>
          have hv : Bare v d := Bare.of_plain_cons (isPlain_of_none hdrop hu hlead) hb
          exact .unknown hrule hdrop hu hstart hlead (ih v.length (Nat.lt_succ_self _) _ hv rfl)

end

end LineScan

namespace Opener

open LineScan

theorem wordRule_ends : wordRule.Ends := ⟨by decide +kernel, by decide +kernel⟩

theorem foldlM_tokens (st : State) (ts : List Token) (row c : Nat) :
    ∃ st', ((ts ++ [colonToken row c]).map Event.token).foldlM step st = some st' ∧
      st'.colon = true ∧ ∀ t ∈ (ts ++ [colonToken row c]).head?,
        st'.start = if st.fresh then some (t.row, t.column) else st.start := by
  induction ts generalizing st with
  | nil =>
    refine ⟨_, rfl, rfl, fun t ht => ?_⟩
    obtain rfl := Option.some.inj ht
    rfl
  | cons u us ih =>
    obtain ⟨st', hst, hcolon, hstart⟩ := ih
      { st with
        fresh := false
        start := if st.fresh then some (u.row, u.column) else st.start
        colon := u.isOperator ":" }
    refine ⟨st', hst, hcolon, fun t ht => ?_⟩
    obtain rfl := Option.some.inj ht
    have hsome : ((us ++ [colonToken row c]).head?).isSome := by
      cases us <;> rfl
    obtain ⟨v, hv⟩ := Option.isSome_iff_exists.1 hsome
    exact hstart v hv

theorem events?_bare {c : Char} {u : Text} (hb : Bare (c :: u) 0) (hc : isGap c = false) :
    ∃ ts i, rest wordRule 0 0 (c :: u ++ [':']) = (ts ++ [colonToken 0 i], .plain) ∧
      events? wordRule [c :: u ++ [':']] =
        some (.margin [] :: ((ts ++ [colonToken 0 i]).map Event.token ++ [.lineEnd])) := by
  have hstart := hb.startsToken hc
  simp only [LineScan.startsToken, Bool.and_eq_true, Bool.not_eq_true', decide_eq_true_eq] at hstart
  obtain ⟨⟨⟨-, hhash⟩, -⟩, hreturn⟩ := hstart
  obtain ⟨ts, i, hrest, hdepth⟩ := rest_bare wordRule_ends plainNames_wordRule 0 0 hb
  have hcolon : depthAfter (depthAfter 0 ts) [colonToken 0 i] = 0 := by
    rw [hdepth]
    rfl
  have hline : line wordRule 0 {} (c :: u ++ [':']) =
      (.margin [] :: ((ts ++ [colonToken 0 i]).map Event.token ++ [.lineEnd]), {}) := by
    have h := @startStatement_of_start wordRule [] (u ++ [':']) c (by simp) hc hhash hreturn 0 {}
    refine Eq.trans h ?_
    rw [List.length_nil, ← List.cons_append, hrest]
    simp only [finish, depthAfter_append, hcolon, Int.lt_irrefl, if_false]
  refine ⟨ts, i, hrest, ?_⟩
  simp only [events?, lines, hline, List.append_nil]
  rfl

/-- A line opens a block where it stands if it is a bare text that closes its brackets, and a colon. -/
theorem indent?_bare {t : Text} (hb : Bare t 0) (hline : '\n' ∉ t) (hcr : '\r' ∉ t)
    (hhead : ∀ c ∈ t.head?, isGap c = false) (hne : t ≠ []) : indent? [t ++ [':']] = some [] := by
  have hlines : Text.physicalLines (Text.join ['\n'] [t ++ [':']]) = [t ++ [':']] :=
    Text.physicalLines_join (List.cons_ne_nil _ []) fun l hl => by
      obtain rfl := List.mem_singleton.1 hl
      simpa using hline
  obtain ⟨c, u, rfl⟩ := List.exists_cons_of_ne_nil hne
  have hc : isGap c = false := hhead c rfl
  obtain ⟨ts, i, hrest, hevents⟩ := events?_bare hb hc
  have hfirst := (@first_of_tokens wordRule 0 0 ((c :: u ++ [':']).length + 1) []
    (c :: u ++ [':']) (by simp) (by simpa using hcr) rfl).1
  obtain ⟨st, hst, hlast, hfresh⟩ := foldlM_tokens { columns := [0] } ts 0 i
  have hsome : ((ts ++ [colonToken 0 i]).head?).isSome := by
    cases ts <;> rfl
  obtain ⟨v, hv⟩ := Option.isSome_iff_exists.1 hsome
  have hplace := hfirst v (by
    have : (tokens wordRule 0 ((c :: u ++ [':']).length + 1) 0 (c :: u ++ [':'])).1 =
        ts ++ [colonToken 0 i] := congrArg Prod.fst hrest
    rw [this]
    exact hv)
  have hstart? : start? [c :: u ++ [':']] = some (v.row, v.column) := by
    have hfold : (Event.margin [] :: ((ts ++ [colonToken 0 i]).map Event.token ++
        [.lineEnd])).foldlM step {} = some { st with fresh := true } := by
      have hmargin : step {} (.margin []) = some { columns := [0] } := rfl
      rw [List.foldlM_cons, hmargin, Option.bind_eq_bind, Option.bind_some, List.foldlM_append, hst]
      rfl
    simp only [start?, hlines, hevents, Option.bind_eq_bind, Option.bind_some, hfold, hlast, if_true]
    exact hfresh v hv
  have hcolumn : v.column = 0 := by
    cases hcol : v.column with
    | zero => rfl
    | succ k =>
      rw [hcol] at hplace
      have := hplace.2 c (by simp)
      rw [hc] at this
      contradiction
  simp only [indent?, hstart?, hplace.1, hcolumn, Option.bind_eq_bind, Option.bind_some]
  rfl

end Opener
end TemplateEngine.Script
