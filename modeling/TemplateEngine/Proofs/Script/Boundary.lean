import Mathlib.Data.List.TakeWhile
import TemplateEngine.Proofs.Script.Layout
import TemplateEngine.Proofs.Script.Tokens

set_option autoImplicit false

/-!
# Where tokens end

No token goes on into a closing bracket, a colon or a blank, unless it is a string. So a text that is
nothing but whole tokens is scanned in the same way in front of them.
-/
namespace TemplateEngine.Script

def Closers (s : Text) : Prop := ∀ c ∈ s, c = ')' ∨ c = ':'

/-- A character that no token goes on with but a string: one that closes, or a blank. -/
def IsInert (c : Char) : Prop := c = ')' ∨ c = ':' ∨ Text.isBlank c = true

instance (c : Char) : Decidable (IsInert c) := inferInstanceAs (Decidable (_ ∨ _ ∨ _))

theorem IsInert.ne {c d : Char} (hc : IsInert c) (hd : ¬ IsInert d) : c ≠ d := by
  rintro rfl
  exact hd hc

/-- No digit and no letter of ASCII is such a character. -/
theorem IsInert.toNat_cases {c : Char} (h : IsInert c) : c.toNat < 42 ∨ c.toNat = 58 ∨ 127 < c.toNat := by
  obtain rfl | rfl | h := h
  · decide
  · decide
  · simp only [Text.isBlank, Bool.or_eq_true, Bool.and_eq_true, decide_eq_true_eq, beq_iff_eq] at h
    omega

def Inert (s : Text) : Prop := ∀ c ∈ s, IsInert c

variable {s : Text}

theorem Inert.cases (hs : Inert s) : s = [] ∨ ∃ c r, s = c :: r ∧ IsInert c ∧ Inert r := by
  cases s with
  | nil => exact .inl rfl
  | cons c r =>
    exact .inr ⟨c, r, rfl, hs c List.mem_cons_self, fun d hd => hs d (List.mem_cons_of_mem c hd)⟩

theorem Closers.inert (hs : Closers s) : Inert s := fun c hc => (hs c hc).imp_right .inl

theorem Closers.cases (hs : Closers s) :
    s = [] ∨ ∃ c r, s = c :: r ∧ (c = ')' ∨ c = ':') ∧ Closers r := by
  cases s with
  | nil => exact .inl rfl
  | cons c r =>
    exact .inr ⟨c, r, rfl, hs c List.mem_cons_self, fun d hd => hs d (List.mem_cons_of_mem c hd)⟩

namespace Token

/-- A part of a token that does not go on into what closes and blanks. -/
def Local (f : Text → Option Taken) : Prop :=
  ∀ t s, Inert s → f (t ++ s) = (f t).map fun x => (x.1, x.2 ++ s)

/-- A kind of digits: neither what closes nor a blank nor an underscore is one. -/
structure DigitClass (p : Char → Bool) : Prop where
  inert : ∀ c, IsInert c → p c = false
  underscore : p '_' = false

theorem digitClass_of_toNat {p : Char → Bool} (hp : p '_' = false)
    (h : ∀ c, p c = true → 48 ≤ c.toNat ∧ c.toNat ≠ 58 ∧ c.toNat ≤ 127) : DigitClass p where
  inert c hc := by
    have hcases := hc.toNat_cases
    rw [Bool.eq_false_iff]
    intro hpc
    have hdigit := h c hpc
    omega
  underscore := hp

theorem digitClass_isDigit : DigitClass Char.isDigit := by
  refine digitClass_of_toNat (by decide) fun c hc => ?_
  simp only [Char.isDigit, Bool.and_eq_true, decide_eq_true_eq, ge_iff_le, UInt32.le_iff_toNat_le] at hc
  simp at hc
  omega

theorem digitClass_isHexDigit : DigitClass isHexDigit := by
  refine digitClass_of_toNat (by decide) fun c hc => ?_
  simp only [isHexDigit, Char.isDigit, Bool.or_eq_true, Bool.and_eq_true, decide_eq_true_eq, ge_iff_le,
    Char.le_def, UInt32.le_iff_toNat_le] at hc
  simp at hc
  omega

theorem digitClass_isOctalDigit : DigitClass isOctalDigit := by
  refine digitClass_of_toNat (by decide) fun c hc => ?_
  simp only [isOctalDigit, Bool.and_eq_true, decide_eq_true_eq, Char.le_def, UInt32.le_iff_toNat_le] at hc
  simp at hc
  omega

theorem digitClass_isBinaryDigit : DigitClass isBinaryDigit where
  inert c hc := by simp [isBinaryDigit, hc.ne (d := '0') (by decide), hc.ne (d := '1') (by decide)]
  underscore := by decide

theorem moreDigits_append_inert {p : Char → Bool} (hp : DigitClass p) (t : Text)
    (hs : Inert s) :
    moreDigits p (t ++ s) = ((moreDigits p t).1, (moreDigits p t).2 ++ s) := by
  have hinert : moreDigits p s = ([], s) := by
    obtain rfl | ⟨c, r, rfl, hc, -⟩ := hs.cases
    · rfl
    · have hne : c ≠ '_' := hc.ne (by decide)
      rw [moreDigits, hp.inert c hc]
      · rfl
      · simp [hne]
  fun_induction moreDigits p t with
  | case1 c t hc a b hab ih =>
    rw [List.cons_append, List.cons_append, moreDigits, if_pos hc, ih]
    simp [hab]
  | case2 c t hc =>
    rw [List.cons_append, List.cons_append, moreDigits, if_neg hc]
  | case3 c t hno hc a b hab ih =>
    have hne : c ≠ '_' := by
      rintro rfl
      rw [hp.underscore] at hc
      contradiction
    rw [List.cons_append, moreDigits, if_pos hc, ih]
    · simp [hab]
    · simp [hne]
  | case4 c t hno hc =>
    cases t with
    | nil =>
      obtain rfl | ⟨d, r, rfl, hd, -⟩ := hs.cases
      · simp [moreDigits, hc]
      · by_cases hne : c = '_'
        · subst hne
          simp [moreDigits, hp.inert d hd]
        · rw [List.cons_append, List.nil_append, moreDigits, if_neg hc]
          simp [hne]
    | cons d t =>
      have hne : c ≠ '_' := fun hc => hno d t hc rfl
      rw [List.cons_append, moreDigits, if_neg hc]
      simp [hne]
  | case5 => simpa using hinert

theorem local_digits? {p : Char → Bool} (hp : DigitClass p) : Local (digits? p) := by
  intro t s hs
  cases t with
  | nil =>
    obtain rfl | ⟨c, r, rfl, hc, -⟩ := hs.cases
    · rfl
    · simp [digits?, hp.inert c hc]
  | cons c t =>
    by_cases hc : p c = true
    · simp [digits?, hc, moreDigits_append_inert hp t hs]
    · simp [digits?, hc]

theorem local_either? {p q : Char} (hp : ¬ IsInert p) (hq : ¬ IsInert q) : Local (either? p q) := by
  intro t s hs
  cases t with
  | nil =>
    obtain rfl | ⟨c, r, rfl, hc, -⟩ := hs.cases
    · rfl
    · simp [either?, hc.ne hp, hc.ne hq]
  | cons c t =>
    by_cases hc : (c = p || c = q) = true
    · simp [either?, hc]
    · simp [either?, hc]

theorem local_exponent? : Local exponent? := by
  intro t s hs
  have hdigits := local_digits? digitClass_isDigit
  rcases t with _ | ⟨e, _ | ⟨c, t⟩⟩
  · obtain rfl | ⟨c, r, rfl, hc, -⟩ := hs.cases
    · rfl
    · simp [exponent?, hc.ne (d := 'e') (by decide), hc.ne (d := 'E') (by decide)]
  · obtain rfl | ⟨c, r, rfl, hc, -⟩ := hs.cases
    · simp
    · simp [exponent?, digits?, digitClass_isDigit.inert c hc, hc.ne (d := '+') (by decide),
        hc.ne (d := '-') (by decide)]
  · have h1 := hdigits t s hs
    have h2 := hdigits (c :: t) s hs
    rw [List.cons_append] at h2
    simp only [List.cons_append, exponent?, h1, h2]
    split
    · split <;> simp [Option.map_map, Function.comp_def]
    · rfl

theorem Local.andThen {f g : Text → Option Taken} (hf : Local f) (hg : Local g) :
    Local fun t => (f t).bind (andThen g) := by
  intro t s hs
  dsimp only
  rw [hf t s hs]
  cases f t with
  | none => rfl
  | some x => simp [Token.andThen, hg x.2 s hs, Option.map_map, Function.comp_def]

theorem Local.thenMaybe {f g : Text → Option Taken} (hf : Local f) (hg : Local g) :
    Local fun t => (f t).map (thenMaybe g) := by
  intro t s hs
  dsimp only
  rw [hf t s hs]
  cases f t with
  | none => rfl
  | some x =>
    simp only [Option.map_some, Token.thenMaybe, hg x.2 s hs]
    cases g x.2 <;> rfl

theorem Local.or {f g : Text → Option Taken} (hf : Local f) (hg : Local g) :
    Local fun t => (f t).or (g t) := by
  intro t s hs
  dsimp only
  rw [hf t s hs, hg t s hs]
  cases f t <;> rfl

theorem pointFloat?_eq (t : Text) : pointFloat? t =
    (((digits? Char.isDigit t).bind (andThen (either? '.' '.'))).map
      (thenMaybe (digits? Char.isDigit))).or
        ((either? '.' '.' t).bind (andThen (digits? Char.isDigit))) := by
  unfold pointFloat?
  cases (digits? Char.isDigit t).bind (andThen (either? '.' '.')) <;> rfl

theorem float?_eq (t : Text) : float? t = ((pointFloat? t).map (thenMaybe exponent?)).or
    ((digits? Char.isDigit t).bind (andThen exponent?)) := by
  unfold float?
  cases pointFloat? t <;> rfl

theorem imaginary?_eq (t : Text) : imaginary? t =
    ((digits? Char.isDigit t).bind (andThen (either? 'j' 'J'))).or
      ((float? t).bind (andThen (either? 'j' 'J'))) := by
  unfold imaginary?
  cases (digits? Char.isDigit t).bind (andThen (either? 'j' 'J')) <;> rfl

theorem local_pointFloat? : Local pointFloat? := by
  have hdigits := local_digits? digitClass_isDigit
  have hpoint : Local (either? '.' '.') := local_either? (by decide) (by decide)
  intro t s hs
  have h := (((hdigits.andThen hpoint).thenMaybe hdigits).or (hpoint.andThen hdigits)) t s hs
  rwa [pointFloat?_eq, pointFloat?_eq]

theorem local_float? : Local float? := by
  have hdigits := local_digits? digitClass_isDigit
  intro t s hs
  have h := ((local_pointFloat?.thenMaybe local_exponent?).or (hdigits.andThen local_exponent?)) t s hs
  rwa [float?_eq, float?_eq]

theorem local_imaginary? : Local imaginary? := by
  have hdigits := local_digits? digitClass_isDigit
  have hletter : Local (either? 'j' 'J') := local_either? (by decide) (by decide)
  intro t s hs
  have h := ((hdigits.andThen hletter).or (local_float?.andThen hletter)) t s hs
  rwa [imaginary?_eq, imaginary?_eq]

theorem local_based? (letter capital : Char) (hletter : ¬ IsInert letter) (hcapital : ¬ IsInert capital)
    {p : Char → Bool} (hp : DigitClass p) : Local (based? letter capital p) := by
  intro t s hs
  rcases t with _ | ⟨z, _ | ⟨x, t⟩⟩
  · rcases s with _ | ⟨c, _ | ⟨d, s⟩⟩
    · rfl
    · rfl
    · have hz : c ≠ '0' := (hs c List.mem_cons_self).ne (by decide)
      simp [based?, hz]
  · obtain rfl | ⟨c, r, rfl, hc, -⟩ := hs.cases
    · rfl
    · simp [based?, hc.ne hletter, hc.ne hcapital]
  · have h := moreDigits_append_inert hp t hs
    simp only [List.cons_append, based?, h]
    split
    · cases hm : moreDigits p t with
      | mk a b => cases a <;> rfl
    · rfl

theorem local_decimal? : Local decimal? := by
  have hzero : DigitClass (· = '0') := ⟨fun c hc => by simp [hc.ne (d := '0') (by decide)], by decide⟩
  have hp := digitClass_isDigit
  have hdigits := local_digits? hp
  intro t s hs
  cases t with
  | nil =>
    obtain rfl | ⟨c, r, rfl, hc, -⟩ := hs.cases
    · rfl
    · have hne : c ≠ '0' := hc.ne (by decide)
      have hnone : digits? Char.isDigit (c :: r) = none := by simp [digits?, hp.inert c hc]
      rw [List.nil_append, decimal?, decimal?, hnone]
      · rfl
      · simp
      · simp [hne]
  | cons c t =>
    by_cases hc : c = '0'
    · subst hc
      simp [decimal?, moreDigits_append_inert hzero t hs]
    · have h := hdigits (c :: t) s hs
      rw [List.cons_append] at h ⊢
      rw [decimal?, decimal?, h]
      all_goals simp [hc]

theorem local_number? : Local number? := by
  intro t s hs
  have h := (local_imaginary?.or (local_float?.or
    ((local_based? 'x' 'X' (by decide) (by decide) digitClass_isHexDigit).or
      ((local_based? 'b' 'B' (by decide) (by decide) digitClass_isBinaryDigit).or
        ((local_based? 'o' 'O' (by decide) (by decide) digitClass_isOctalDigit).or local_decimal?))))) t s hs
  simpa only [number?, Option.orElse_eq_orElse, Option.orElse_eq_or] using h

/-- No operator goes on with what closes or a blank. -/
theorem isPrefixOf_append_inert {o : Text} (ho : ∀ c ∈ o, ¬ IsInert c) (t : Text) (hs : Inert s) :
    o.isPrefixOf (t ++ s) = o.isPrefixOf t := by
  induction o generalizing t with
  | nil => simp
  | cons a o ih =>
    have ha := ho a List.mem_cons_self
    cases t with
    | nil =>
      obtain rfl | ⟨c, r, rfl, hc, -⟩ := hs.cases
      · rfl
      · simp [List.isPrefixOf, (hc.ne ha).symm]
    | cons c t =>
      simp [List.isPrefixOf, ih (fun d hd => ho d (List.mem_cons_of_mem a hd))]

theorem operator?_append_inert {t : Text} (ht : t ≠ []) (hs : Inert s) :
    operator? (t ++ s) = (operator? t).map fun x => (x.1, x.2 ++ s) := by
  have hinner : (operators.all fun o => o ≠ [] && (o.drop 1).all fun c => ¬ IsInert c) = true := by
    decide
  obtain ⟨c, t, rfl⟩ := List.exists_cons_of_ne_nil ht
  have hprefix : ∀ o ∈ operators, o.isPrefixOf (c :: t ++ s) = o.isPrefixOf (c :: t) := by
    intro o ho
    have h := List.all_eq_true.1 hinner o ho
    cases o with
    | nil => simp at h
    | cons a o =>
      have hrest : ∀ d ∈ o, ¬ IsInert d := by simpa using h
      simp [List.isPrefixOf, isPrefixOf_append_inert hrest t hs]
  have hfind : operators.find? (fun o => o.isPrefixOf (c :: t ++ s)) =
      operators.find? fun o => o.isPrefixOf (c :: t) := by
    generalize operators = os at hprefix
    induction os with
    | nil => rfl
    | cons o os ih =>
      rw [List.find?_cons, List.find?_cons, hprefix o List.mem_cons_self,
        ih fun p hp => hprefix p (List.mem_cons_of_mem o hp)]
  rw [operator?, operator?, hfind]
  cases h : operators.find? fun o => o.isPrefixOf (c :: t) with
  | none => rfl
  | some o =>
    have hp : o.isPrefixOf (c :: t) = true := List.find?_some (p := fun o => List.isPrefixOf o (c :: t)) h
    have hlen : o.length ≤ (c :: t).length := (List.isPrefixOf_iff_prefix.1 hp).length_le
    simp only [Option.map_some, Option.some.injEq, Prod.mk.injEq, true_and]
    exact List.drop_append_of_le_length hlen

theorem isQuote_of_isInert {c : Char} (hc : IsInert c) : isQuote c = false := by
  simp [isQuote, hc.ne (d := '\'') (by decide), hc.ne (d := '"') (by decide)]

theorem opening?_append_inert (t : Text) (hs : Inert s) :
    opening? (t ++ s) = (opening? t).map fun x => (x.1, x.2.1, x.2.2 ++ s) := by
  have hnone : opening? s = none := by
    refine opening?_eq_none fun c hc => isQuote_of_isInert (hs c (List.mem_of_mem_take hc))
  rcases t with _ | ⟨a, _ | ⟨b, _ | ⟨c, t⟩⟩⟩
  · simpa [opening?] using hnone
  · obtain rfl | ⟨c, r, rfl, hc, hr⟩ := hs.cases
    · simp
    · obtain rfl | ⟨d, r, rfl, hd, -⟩ := hr.cases
      · simp [opening?, isQuote_of_isInert hc]
      · simp [opening?, isQuote_of_isInert hc, isQuote_of_isInert hd]
  · obtain rfl | ⟨c, r, rfl, hc, hr⟩ := hs.cases
    · simp
    · cases ha : isQuote a <;> cases hb : isQuote b <;> cases isStringPrefix [a] <;>
        simp_all [opening?, isQuote_of_isInert hc]
  · cases ha : isQuote a <;> cases hb : isQuote b <;> cases hc : isQuote c <;>
      cases h1 : isStringPrefix [a] <;> cases h2 : isStringPrefix [a, b] <;> simp [opening?, *]

theorem isQuote_of_opening? {t p u : Text} {q : Char} (h : opening? t = some (p, q, u)) :
    isQuote q = true := by
  unfold opening? at h
  split at h
  · split at h
    · simp_all
    · split at h
      · split at h
        · split at h
          · simp_all
          · contradiction
        · split at h
          · split at h
            · simp_all
            · contradiction
          · contradiction
      · contradiction
  · contradiction

theorem close_inert {q : Char} (hq : isQuote q = true) (hs : Inert s) : close q s = .open := by
  induction s with
  | nil => rfl
  | cons c r ih =>
    have hc : IsInert c := hs c List.mem_cons_self
    have hr := ih fun d hd => hs d (List.mem_cons_of_mem c hd)
    have hne : c ≠ q := by
      rintro rfl
      rw [isQuote_of_isInert hc] at hq
      contradiction
    have hslash : c ≠ '\\' := hc.ne (by decide)
    rw [close, if_neg hne, hr]
    · rfl
    all_goals simp [hslash]

/-- A string that is closed, or left open without a backslash, stays so. -/
theorem close_append_inert {q : Char} (hq : isQuote q = true) (t : Text) (hs : Inert s)
    (h : close q t ≠ .backslash) : close q (t ++ s) =
      match close q t with
      | .closed a b => .closed a (b ++ s)
      | e => e := by
  have hprepend (p : Text) (e : Ending) :
      ((match e with | .closed a b => .closed a (b ++ s) | e => e : Ending).prepend p) =
        match e.prepend p with
        | .closed a b => .closed a (b ++ s)
        | e => e := by
    cases e <;> rfl
  fun_induction close q t with
  | case1 => exact close_inert hq hs
  | case2 => contradiction
  | case3 => contradiction
  | case4 c t hno ih =>
    have ht : close q t ≠ .backslash := by
      intro ht
      rw [ht] at h
      contradiction
    rw [List.cons_append, List.cons_append, close, ih ht, hprepend]
    intro hc hnil
    exact hno hc (List.append_eq_nil_iff.1 hnil).1
  | case5 t =>
    have hslash : q ≠ '\\' := by
      rintro rfl
      contradiction
    rw [List.cons_append, close, if_pos rfl]
    all_goals simp [hslash]
  | case6 c t h1 h2 h3 hne ih =>
    have ht : close q t ≠ .backslash := by
      intro ht
      rw [ht] at h
      contradiction
    have hslash : c ≠ '\\' := by
      intro hc
      cases t with
      | nil => exact h1 hc rfl
      | cons d t => exact h3 d t hc rfl
    rw [List.cons_append, close, if_neg hne, ih ht, hprepend]
    all_goals simp [hslash]

theorem closeTriple?_of_short {q : Char} {t : Text} (h : t.length < 3) :
    closeTriple? q t = none := by
  rcases t with _ | ⟨c, _ | ⟨d, _ | ⟨e, u⟩⟩⟩
  · rfl
  · simp [closeTriple?]
  · by_cases hc : c = '\\' <;> simp [closeTriple?, hc]
  · simp only [List.length_cons] at h
    omega

theorem closeTriple?_append_text {q : Char} {t a b : Text} (h : closeTriple? q t = some (a, b))
    (s : Text) : closeTriple? q (t ++ s) = some (a, b ++ s) := by
  fun_induction closeTriple? q t generalizing a with
  | case1 => contradiction
  | case2 c t ih =>
    obtain ⟨y, hy, h⟩ := Option.map_eq_some_iff.1 h
    obtain ⟨rfl, rfl⟩ := Prod.mk.inj h
    simp [closeTriple?, ih hy]
  | case3 c d e u hq hno =>
    obtain ⟨rfl, rfl⟩ := Prod.mk.inj (Option.some.inj h)
    have hslash : c ≠ '\\' := fun hc => hno d _ hc rfl
    rw [List.cons_append, List.cons_append, List.cons_append, closeTriple?]
    · simp only [hq, if_true]
    · simp [hslash]
  | case4 c d e u hq hno ih =>
    obtain ⟨y, hy, h⟩ := Option.map_eq_some_iff.1 h
    obtain ⟨rfl, rfl⟩ := Prod.mk.inj h
    have hslash : c ≠ '\\' := fun hc => hno d _ hc rfl
    have hrest := ih hy
    rw [List.cons_append, List.cons_append] at hrest
    rw [List.cons_append, List.cons_append, List.cons_append, closeTriple?]
    · simp only [hq, hrest]
      rfl
    · simp [hslash]
  | case5 c t hno hshape ih =>
    obtain ⟨y, hy, -⟩ := Option.map_eq_some_iff.1 h
    rw [closeTriple?_of_short] at hy
    · contradiction
    · rcases t with _ | ⟨d, _ | ⟨e, u⟩⟩
      · simp
      · simp
      · exact absurd rfl (hshape d e u)

end Token

/-- Names that do not go on with what closes. -/
structure NameRule.Ends (rule : NameRule) : Prop where
  paren : rule.part ')' = false
  colon : rule.part ':' = false

theorem Lexeme.nameRule_ends : Lexeme.nameRule.Ends := ⟨by decide, by decide⟩

namespace LineScan

variable {rule : NameRule} {s : Text}

theorem word_append_inert {t x r : Text} {k : TokenKind} (hs : ∀ c ∈ s.head?, rule.part c = false)
    (h : word rule t = .token k x r) : word rule (t ++ s) = .token k x (r ++ s) := by
  have htake : s.takeWhile rule.part = [] ∧ s.dropWhile rule.part = s := by
    cases s with
    | nil => exact ⟨rfl, rfl⟩
    | cons c u => simp [hs c rfl]
  have hsplit : (t ++ s).takeWhile rule.part = t.takeWhile rule.part ∧
      (t ++ s).dropWhile rule.part = t.dropWhile rule.part ++ s := by
    rw [List.takeWhile_append, List.dropWhile_append]
    split
    · next hlen =>
      have hall : t.takeWhile rule.part = t := (List.takeWhile_prefix _).eq_of_length hlen
      have hdrop : t.dropWhile rule.part = [] := by
        have := List.takeWhile_append_dropWhile (p := rule.part) (l := t)
        rw [hall] at this
        simpa using this
      simp [htake, hall, hdrop]
    · next hlen =>
      refine ⟨rfl, ?_⟩
      rw [if_neg]
      intro hdrop
      have := List.takeWhile_append_dropWhile (p := rule.part) (l := t)
      rw [List.isEmpty_iff.1 hdrop, List.append_nil] at this
      exact hlen (by rw [this])
  unfold word at h ⊢
  rw [hsplit.1, hsplit.2]
  split at h
  · contradiction
  · obtain ⟨rfl, rfl, rfl⟩ := Lead.token.inj h
    rfl

theorem string_append_inert {row column : Nat} {t p u x r : Text} {q : Char} {k : TokenKind}
    (hq : Token.isQuote q = true) (hs : Inert s) (hpart : ∀ c ∈ s.head?, rule.part c = false)
    (h : string rule row column t p q u = .token k x r) :
    string rule row column (t ++ s) p q (u ++ s) = .token k x (r ++ s) := by
  unfold string at h ⊢
  by_cases hqq : [q, q].isPrefixOf u = true
  · obtain ⟨v, rfl⟩ := List.isPrefixOf_iff_prefix.1 hqq
    have hqq' : [q, q].isPrefixOf ([q, q] ++ v ++ s) = true :=
      List.isPrefixOf_iff_prefix.2 ⟨v ++ s, by simp⟩
    rw [if_pos hqq] at h
    rw [if_pos hqq']
    have hdrop : ([q, q] ++ v ++ s).drop 2 = v ++ s := rfl
    have hdrop' : ([q, q] ++ v).drop 2 = v := rfl
    rw [hdrop]
    rw [hdrop'] at h
    cases hv : Token.closeTriple? q v with
    | none =>
      rw [hv] at h
      contradiction
    | some y =>
      rw [hv] at h
      obtain ⟨rfl, rfl, rfl⟩ := Lead.token.inj h
      rw [Token.closeTriple?_append_text hv s]
  · rw [if_neg hqq] at h
    have hclose : Token.close q u ≠ .backslash := by
      intro hc
      rw [hc] at h
      contradiction
    have hquote : ∀ c ∈ [q, q], ¬ IsInert c := by
      have hne : ¬ IsInert q := fun hc => by
        rw [Token.isQuote_of_isInert hc] at hq
        contradiction
      simp [hne]
    rw [Token.isPrefixOf_append_inert hquote u hs, if_neg hqq, Token.close_append_inert hq u hs hclose]
    cases hu : Token.close q u with
    | closed a b =>
      rw [hu] at h
      obtain ⟨rfl, rfl, rfl⟩ := Lead.token.inj h
      rfl
    | backslash => contradiction
    | «open» =>
      rw [hu] at h
      exact word_append_inert hpart h

/-- A token is the same one where something closes behind it, or a blank that is no part of a name. -/
theorem lead_append_inert {row column : Nat} {t x r : Text} {k : TokenKind} (hs : Inert s)
    (hpart : ∀ c ∈ s.head?, rule.part c = false) (h : lead rule row column t = .token k x r) :
    lead rule row column (t ++ s) = .token k x (r ++ s) := by
  have hne : t ≠ [] := by
    rintro rfl
    contradiction
  unfold lead at h ⊢
  rw [Token.opening?_append_inert t hs]
  cases hopening : Token.opening? t with
  | some y =>
    rw [hopening] at h
    exact string_append_inert (Token.isQuote_of_opening? hopening) hs hpart h
  | none =>
    rw [hopening] at h
    rw [Option.map_none, Token.local_number? t s hs]
    dsimp only at h ⊢
    cases hnumber : Token.number? t with
    | some y =>
      rw [hnumber] at h
      obtain ⟨rfl, rfl, rfl⟩ := Lead.token.inj h
      rfl
    | none =>
      rw [hnumber] at h
      rw [Option.map_none, Token.operator?_append_inert hne hs]
      dsimp only at h ⊢
      cases hoperator : Token.operator? t with
      | some y =>
        rw [hoperator] at h
        obtain ⟨rfl, rfl, rfl⟩ := Lead.token.inj h
        rfl
      | none =>
        rw [hoperator] at h
        exact word_append_inert hpart h

theorem lead_append_closers (hrule : rule.Ends) {row column : Nat} {t x r : Text} {k : TokenKind}
    (hs : Closers s) (h : lead rule row column t = .token k x r) :
    lead rule row column (t ++ s) = .token k x (r ++ s) := by
  refine lead_append_inert hs.inert (fun c hc => ?_) h
  obtain rfl | rfl := hs c (List.mem_of_head? hc)
  · exact hrule.paren
  · exact hrule.colon

def tokens? (rule : NameRule) : Nat → (column : Nat) → Text → Option (List Token)
  | 0, _, _ => none
  | n + 1, column, t =>
    let start := column + (t.takeWhile isGap).length
    let u := t.dropWhile isGap
    if u = [] then some []
    else if startsToken u then
      match lead rule 0 start u with
      | .token k x r => (tokens? rule n (start + x.length) r).map (⟨k, x, 0, start⟩ :: ·)
      | _ => none
    else none

/-- The tokens of a text that is nothing but tokens and blanks between them: there is no comment in it,
no line goes on behind it, and every string in it is closed. -/
def allTokens? (rule : NameRule) (t : Text) : Option (List Token) :=
  tokens? rule (t.length + 1) 0 t

theorem isGap_of_mem_takeWhile {t : Text} : ∀ c ∈ t.takeWhile isGap, isGap c = true :=
  fun _ hc => List.mem_takeWhile_imp hc

theorem isGap_of_dropWhile {t : Text} {c : Char} {u : Text} (h : t.dropWhile isGap = c :: u) :
    isGap c = false := by
  have := List.head?_dropWhile_not isGap t
  simpa [h] using this

theorem gap_append {t : Text} {c : Char} {u : Text} (s : Text) (hu : t.dropWhile isGap = c :: u) :
    (t ++ s).takeWhile isGap = t.takeWhile isGap ∧ (t ++ s).dropWhile isGap = c :: (u ++ s) := by
  have hgap := isGap_of_dropWhile hu
  have hsplit := List.takeWhile_append_dropWhile (p := isGap) (l := t)
  have happend : t ++ s = t.takeWhile isGap ++ c :: (u ++ s) := by
    rw [← List.cons_append, ← hu, ← List.append_assoc, hsplit]
  rw [happend, List.takeWhile_append_of_pos isGap_of_mem_takeWhile,
    List.dropWhile_append_of_pos isGap_of_mem_takeWhile, List.takeWhile_cons_of_neg (by simp [hgap]),
    List.dropWhile_cons_of_neg (by simp [hgap]), List.append_nil]
  exact ⟨rfl, rfl⟩

theorem closers_paren : Closers [')'] := fun _ hc => .inl (List.mem_singleton.1 hc)

theorem closers_colon : Closers [':'] := fun _ hc => .inr (List.mem_singleton.1 hc)

theorem lead_closer (rule : NameRule) (row column : Nat) {c : Char} {r : Text}
    (hs : Closers (c :: r)) : lead rule row column (c :: r) = .token .operator [c] r := by
  obtain rfl | rfl : c = ')' ∨ c = ':' := hs c List.mem_cons_self
  · exact lead_operator rule row column rfl (by decide) rfl (by decide) rfl
  · refine lead_operator rule row column rfl (by decide) rfl (by decide) ?_
    have hr : Closers r := fun d hd => hs d (List.mem_cons_of_mem _ hd)
    obtain rfl | ⟨d, u, rfl, rfl | rfl, -⟩ := hr.cases <;> rfl

/-- Blanks in front of what closes only move it. -/
theorem rest_gap (row column : Nat) {g : Text} (hg : ∀ c ∈ g, isGap c = true) (hs : Closers s) :
    rest rule row column (g ++ s) = rest rule row (column + g.length) s := by
  obtain rfl | ⟨c, r, rfl, hc, -⟩ := hs.cases
  · have htake : g.dropWhile isGap = [] := by simpa using hg
    simp [rest, tokens, htake]
  · have hstart : startsToken (c :: r) = true := by obtain rfl | rfl := hc <;> rfl
    rw [rest_cons rule hg hstart (lead_closer rule row _ hs) rfl]
    exact (rest_cons rule (g := []) (by simp) hstart (lead_closer rule row _ hs) rfl).symm

/-- Whole tokens are scanned in front of what closes as they are by themselves, so many columns on. -/
theorem rest_append_closers (hrule : rule.Ends) (row shift : Nat) {n column : Nat} {t : Text}
    {ts : List Token} (hs : Closers s) (h : tokens? rule n column t = some ts) :
    rest rule row (shift + column) (t ++ s) =
      (ts.map (Token.moved row shift) ++ (rest rule row (shift + column + t.length) s).1,
        (rest rule row (shift + column + t.length) s).2) := by
  induction n generalizing column t ts with
  | zero => contradiction
  | succ n ih =>
    have hsplit := List.takeWhile_append_dropWhile (p := isGap) (l := t)
    have hlen := length_dropWhile_gap t
    rw [tokens?] at h
    split at h
    · next hnil =>
      obtain rfl := Option.some.inj h
      have hall : ∀ c ∈ t, isGap c = true := List.dropWhile_eq_nil_iff.1 hnil
      rw [rest_gap row _ hall hs]
      rfl
    · split at h
      · next hstart =>
        split at h
        · next k x r hlead =>
          obtain ⟨us, hus, rfl⟩ := Option.map_eq_some_iff.1 h
          have hx := lead_append rule hlead
          have hlead' : lead rule row (shift + column + (t.takeWhile isGap).length)
              (t.dropWhile isGap ++ s) = .token k x (r ++ s) := by
            have hmoved := lead_moved rule row shift 0 (column + (t.takeWhile isGap).length)
              (t.dropWhile isGap ++ s)
            rw [lead_append_closers hrule hs hlead] at hmoved
            rw [Nat.add_assoc]
            exact hmoved
          have hstart' : startsToken (t.dropWhile isGap ++ s) = true := by
            cases hu : t.dropWhile isGap with
            | nil => contradiction
            | cons c u => simpa [hu, startsToken] using hstart
          have hlength := congrArg List.length hx.1
          rw [List.length_append] at hlength
          have hih := ih hus
          have hcolumn : shift + (column + (t.takeWhile isGap).length + x.length) + r.length =
              shift + column + t.length := by omega
          rw [hcolumn, ← Nat.add_assoc, ← Nat.add_assoc] at hih
          have hcons := rest_cons rule isGap_of_mem_takeWhile hstart' hlead' hih
          rw [← List.append_assoc, hsplit] at hcons
          rw [hcons]
          simp [Token.moved, Nat.add_assoc]
        · contradiction
      · contradiction

end LineScan
end TemplateEngine.Script
