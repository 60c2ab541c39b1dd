import TemplateEngine.Proofs.Script.Alone

set_option autoImplicit false

/-!
# White space at the ends of lines

A line that is read as words of the language is read as the same ones without the white space at its end.
No token ends in white space, and no string that is closed on its line depends on what follows it.
-/
namespace TemplateEngine

namespace Text

theorem not_identifier_of_isBlank {c : Char} (h : isBlank c = true) :
    isIdentifierStart c = false ∧ isIdentifierPart c = false := by
  have hbeyond : ∀ n ∈ [0x85, 0xA0, 0x1680, 0x2000, 0x2001, 0x2002, 0x2003, 0x2004, 0x2005, 0x2006, 0x2007,
      0x2008, 0x2009, 0x200A, 0x2028, 0x2029, 0x202F, 0x205F, 0x3000],
      inStretches n 128 identifierStarts = false ∧ inStretches n 128 identifierParts = false := by
    simp only [identifierStarts, identifierParts, table, List.flatMap_cons]
    repeat rw [String.toList_ofList]
    decide +kernel
  simp only [isBlank, Bool.or_eq_true, Bool.and_eq_true, decide_eq_true_eq, beq_iff_eq] at h
  unfold isIdentifierStart isIdentifierPart
  by_cases hascii : c.toNat < 128
  · have hplain : ∀ n ∈ [9, 10, 11, 12, 13, 28, 29, 30, 31, 32],
        (Char.ofNat n).isAlpha = false ∧ (Char.ofNat n).isAlphanum = false ∧ Char.ofNat n ≠ '_' := by
      decide
    have hc := hplain c.toNat (by simp only [List.mem_cons, List.not_mem_nil]; omega)
    rw [Char.ofNat_toNat] at hc
    simp [hascii, hc]
  · rw [if_neg hascii, if_neg hascii]
    exact hbeyond _ (by simp only [List.mem_cons, List.not_mem_nil]; omega)

end Text

namespace Script

open LineScan

variable {w : Char} {t v p u x r : Text} {k : TokenKind} {row column : Nat} {q : Char}

theorem inert_of_isBlank (hw : Text.isBlank w = true) : Inert [w] := fun _ hc =>
  List.mem_singleton.1 hc ▸ .inr (.inr hw)

namespace Lexeme

/-- No name, word or symbol of the language holds white space. -/
theorem not_mem_of_ofToken? {k : Token} (hk : k.kind = .name ∨ k.kind = .operator)
    (h : (ofToken? k).isSome = true) (hw : Text.isBlank w = true) : w ∉ k.text := by
  have hwords : ∀ x ∈ keywords, ∀ c ∈ x, Text.isBlank c = false := by
    have hall : (keywords.all fun x => x.all fun c => !Text.isBlank c) = true := by decide
    simpa using hall
  have hsymbols : ∀ e ∈ Symbol.table, ∀ c ∈ e.1, Text.isBlank c = false := by
    have hall : (Symbol.table.all fun e => e.1.all fun c => !Text.isBlank c) = true := by decide
    simpa only [List.all_eq_true, Bool.not_eq_true'] using hall
  intro hmem
  have hclash : ¬ Text.isBlank w = false := by simp [hw]
  obtain hk | hk := hk
  · simp only [ofToken?, hk, ofName?] at h
    split at h
    · next hword => exact hclash (hwords _ (List.contains_iff_mem.1 hword) w hmem)
    · split at h
      · next hname =>
        obtain ⟨hstart, hpart⟩ := Text.not_identifier_of_isBlank hw
        cases ht : k.text with
        | nil => simp [ht] at hmem
        | cons c x =>
          simp only [ht, Text.isIdentifier, Bool.and_eq_true, List.all_eq_true] at hname
          obtain rfl | hx := List.mem_cons.1 (ht ▸ hmem)
          · simp [hstart] at hname
          · simp [hname.2 w hx] at hpart
      · exact absurd h Bool.false_ne_true
  · simp only [ofToken?, hk, Option.isSome_map] at h
    obtain ⟨s, hs⟩ := Option.isSome_iff_exists.1 h
    obtain ⟨before, after, htable, -⟩ := List.lookup_eq_some_iff.1 hs
    exact hclash (hsymbols (k.text, s) (by simp [htable]) w hmem)

end Lexeme

namespace Token

theorem not_isInert_of_isQuote (hq : isQuote q = true) : ¬ IsInert q := fun h => by
  rw [isQuote_of_isInert h] at hq
  contradiction

theorem closeTriple?_cons {c : Char} {t : Text} (hc : c ≠ '\\') (hq : ¬ [q, q, q] <+: c :: t) :
    closeTriple? q (c :: t) = (closeTriple? q t).map fun y => (c :: y.1, y.2) := by
  rcases t with _ | ⟨d, _ | ⟨e, u⟩⟩
  · simp [closeTriple?]
  · simp [closeTriple?, hc]
  · have hno : ¬ (decide (c = q) && decide (d = q) && decide (e = q)) = true := by
      simp only [Bool.and_eq_true, decide_eq_true_eq]
      rintro ⟨⟨rfl, rfl⟩, rfl⟩
      exact hq (List.prefix_append _ u)
    rw [closeTriple?]
    · simp only [if_neg hno]
    · simp [hc]

theorem closeTriple?_append_inert (hq : isQuote q = true) {s : Text} (hs : Inert s) (t : Text) :
    closeTriple? q (t ++ s) = (closeTriple? q t).map fun y => (y.1, y.2 ++ s) := by
  have hslash : ¬ IsInert '\\' := by decide
  have hquote := not_isInert_of_isQuote hq
  have hinert : ∀ {s}, Inert s → closeTriple? q s = none := by
    intro s hs
    induction s with
    | nil => rfl
    | cons c s ih =>
      have hc := hs c List.mem_cons_self
      rw [closeTriple?_cons (hc.ne hslash) fun h => hc.ne hquote (List.cons_prefix_cons.1 h).1.symm,
        ih fun d hd => hs d (List.mem_cons_of_mem c hd)]
      rfl
  fun_induction closeTriple? q t with
  | case1 => exact hinert hs
  | case2 c t ih => simp [closeTriple?, ih, Option.map_map, Function.comp_def]
  | case3 c d e u hcde hno =>
    have hc : c ≠ '\\' := fun hc => hno d _ hc rfl
    rw [List.cons_append, List.cons_append, List.cons_append, closeTriple?]
    · simp [hcde]
    · simp [hc]
  | case4 c d e u hcde hno ih =>
    have hc : c ≠ '\\' := fun hc => hno d _ hc rfl
    have hne : ¬ [q, q, q] <+: c :: (d :: e :: u ++ s) := by
      simp only [List.cons_append, List.cons_prefix_cons]
      rintro ⟨rfl, rfl, rfl, -⟩
      simp at hcde
    rw [List.cons_append, closeTriple?_cons hc hne, ih]
    simp [Option.map_map, Function.comp_def]
  | case5 c t hno hshape ih =>
    have hshort : t.length < 2 := by
      rcases t with _ | ⟨d, _ | ⟨e, u⟩⟩
      · simp
      · simp
      · exact absurd rfl (hshape d e u)
    rw [closeTriple?_of_short (Nat.lt_succ_of_lt hshort), Option.map_none] at ih ⊢
    by_cases hc : c = '\\'
    · obtain rfl : t = [] := by
        cases t with
        | nil => rfl
        | cons d t => exact absurd rfl (hno d t hc)
      subst hc
      obtain rfl | ⟨a, r, rfl, -, hr⟩ := hs.cases
      · rfl
      · simp [closeTriple?, hinert hr]
    · rw [List.cons_append, closeTriple?_cons hc, ih]
      · rfl
      · intro h
        rcases t with _ | ⟨d, _ | ⟨e, u⟩⟩
        · obtain rfl | ⟨a, r, rfl, ha, -⟩ := hs.cases
          · simp [List.cons_prefix_cons] at h
          · simp only [List.nil_append, List.cons_prefix_cons] at h
            exact ha.ne hquote h.2.1.symm
        · obtain rfl | ⟨a, r, rfl, ha, -⟩ := hs.cases
          · simp [List.cons_prefix_cons] at h
          · simp only [List.cons_append, List.nil_append, List.cons_prefix_cons] at h
            exact ha.ne hquote h.2.2.1.symm
        · exact hshape d e u rfl

theorem close_append_of_backslash (hq : isQuote q = true) (hw : IsInert w) (hr : w ≠ '\r') {u : Text}
    (h : close q u = .backslash) : close q (u ++ [w]) = .open := by
  have hquote : w ≠ q := by
    rintro rfl
    rw [isQuote_of_isInert hw] at hq
    contradiction
  have hslash : w ≠ '\\' := hw.ne (by decide)
  have hlast : close q [w] = .open := by
    rw [close, if_neg hquote]
    · rfl
    all_goals simp [hslash]
  have hprepend : ∀ {p : Text} {e : Ending}, e.prepend p = .backslash → e = .backslash := by
    intro p e he
    cases e <;> simp_all [Ending.prepend]
  fun_induction close q u with
  | case1 => contradiction
  | case2 =>
    rw [List.singleton_append, close]
    · rfl
    · simpa using hr
  | case3 =>
    rw [List.cons_append, List.cons_append, List.nil_append, close, hlast]
    · rfl
    · simp
  | case4 c t hno ih =>
    rw [List.cons_append, List.cons_append, close, ih (hprepend h)]
    · rfl
    · intro hc ht
      simp at ht
  | case5 t => contradiction
  | case6 c t h1 h2 h3 hne ih =>
    have hc : c ≠ '\\' := by
      intro hc
      cases t with
      | nil => exact h1 hc rfl
      | cons d t => exact h3 d t hc rfl
    rw [List.cons_append, close, if_neg hne, ih (hprepend h)]
    · rfl
    all_goals simp [hc]

theorem opening?_of_isQuote (hq : isQuote q = true) (t : Text) : opening? (q :: t) = some ([], q, t) := by
  rcases t with _ | ⟨a, _ | ⟨b, t⟩⟩ <;> simp [opening?, hq]

end Token

theorem Lexeme.part_of_toLower {c : Char} (h : c.toLower ∈ ['b', 'r', 'u', 'f']) : nameRule.part c = true := by
  by_cases hc : c.isUpper = true
  · have halphanum : c.isAlphanum = (c.isUpper || c.isLower || c.isDigit) := rfl
    simp [nameRule, halphanum, hc]
  · have hsame : c.toLower = c := by
      have hrange : ¬ (c.val ≥ 'A'.val ∧ c.val ≤ 'Z'.val) := fun h => hc (decide_eq_true h)
      exact dif_neg hrange
    have hall : ∀ d ∈ ['b', 'r', 'u', 'f'], nameRule.part d = true := Text.forall_mem_of_all (by decide)
    exact hall c (hsame ▸ h)

theorem Token.part_of_opening? (h : opening? t = some (p, q, u)) :
    ∀ c ∈ p, Lexeme.nameRule.part c = true := by
  have hletter : ∀ {s : Text}, isStringPrefix s = true → ∀ c ∈ s, Lexeme.nameRule.part c = true := by
    intro s hs c hc
    refine Lexeme.part_of_toLower ?_
    have hmem : c.toLower ∈ s.map Char.toLower := List.mem_map_of_mem hc
    simp only [isStringPrefix, List.contains_iff_mem] at hs
    have hall : ∀ s ∈ [[], ['b'], ['r'], ['u'], ['f'], ['b', 'r'], ['r', 'b'], ['f', 'r'], ['r', 'f']],
        s ⊆ ['b', 'r', 'u', 'f'] := by decide
    exact hall _ hs hmem
  unfold opening? at h
  split at h
  · split at h
    · obtain ⟨rfl, -, -⟩ := by simpa using h
      simp
    · split at h
      · split at h
        · split at h
          · next hs =>
            obtain ⟨rfl, -, -⟩ := by simpa using h
            exact hletter hs
          · contradiction
        · split at h
          · split at h
            · next hs =>
              obtain ⟨rfl, -, -⟩ := by simpa using h
              simp only [Bool.and_eq_true] at hs
              exact hletter hs.2
            · contradiction
          · contradiction
      · contradiction
  · contradiction

namespace LineScan

theorem word_concat {rule : NameRule} (h : word rule (v ++ [w]) = .token k x r) (hx : w ∉ x) :
    ∃ r', r = r' ++ [w] ∧ word rule v = .token k x r' := by
  have hall : (v ++ [w]).takeWhile rule.part = x ∧ (v ++ [w]).dropWhile rule.part = r := by
    unfold word at h
    split at h
    · contradiction
    · next hu =>
      obtain ⟨-, rfl, rfl⟩ := Lead.token.inj h
      exact ⟨hu, rfl⟩
  have hcut : (v ++ [w]).takeWhile rule.part = v.takeWhile rule.part ∧
      (v ++ [w]).dropWhile rule.part = v.dropWhile rule.part ++ [w] := by
    by_cases hv : ∀ c ∈ v, rule.part c = true
    · have hw : ¬ rule.part w = true := fun hw => hx (hall.1 ▸ by
        rw [List.takeWhile_append_of_pos hv]
        simp [hw])
      rw [List.takeWhile_append_of_pos hv, List.dropWhile_append_of_pos hv,
        List.takeWhile_eq_self_iff.2 hv, List.dropWhile_eq_nil_iff.2 hv]
      simp [hw]
    · have hdrop : v.dropWhile rule.part ≠ [] := fun hnil => hv (List.dropWhile_eq_nil_iff.1 hnil)
      have htake : ¬ (v.takeWhile rule.part).length = v.length := fun hlen =>
        hv (List.takeWhile_eq_self_iff.1 ((List.takeWhile_prefix _).eq_of_length hlen))
      rw [List.takeWhile_append, if_neg htake, List.dropWhile_append, if_neg (by simpa using hdrop)]
      exact ⟨rfl, rfl⟩
  unfold word at h ⊢
  rw [hcut.1, hcut.2] at h
  split at h
  · contradiction
  · next c u hu =>
    obtain ⟨rfl, rfl, rfl⟩ := Lead.token.inj h
    exact ⟨_, rfl, rfl⟩

theorem word_kind {rule : NameRule} (h : word rule t = .token k x r) : k = .name ∨ k = .operator := by
  unfold word at h
  split at h
  · contradiction
  · obtain ⟨rfl, -, -⟩ := Lead.token.inj h
    split
    · exact .inl rfl
    · exact .inr rfl

/-- A string that ends on its line does so in front of white space behind it. -/
theorem string_concat (hq : Token.isQuote q = true) (hw : IsInert w)
    (hslash : [q, q].isPrefixOf u = false → Token.close q u ≠ .backslash)
    (h : string Lexeme.nameRule row column (t ++ [w]) p q (u ++ [w]) = .token k x r)
    (hx : k = .name ∨ k = .operator → w ∉ x) :
    ∃ r', r = r' ++ [w] ∧ string Lexeme.nameRule row column t p q u = .token k x r' := by
  have hs : Inert [w] := fun _ hc => List.mem_singleton.1 hc ▸ hw
  have hquote : ∀ c ∈ [q, q], ¬ IsInert c := by simp [Token.not_isInert_of_isQuote hq]
  unfold string at h ⊢
  rw [Token.isPrefixOf_append_inert hquote u hs] at h
  by_cases hqq : [q, q].isPrefixOf u = true
  · obtain ⟨v, rfl⟩ := List.isPrefixOf_iff_prefix.1 hqq
    rw [if_pos hqq] at h ⊢
    have hdrop : ([q, q] ++ v ++ [w]).drop 2 = v ++ [w] := rfl
    have hdrop' : ([q, q] ++ v).drop 2 = v := rfl
    rw [hdrop, Token.closeTriple?_append_inert hq hs] at h
    rw [hdrop']
    cases hv : Token.closeTriple? q v with
    | none =>
      rw [hv] at h
      contradiction
    | some y =>
      rw [hv] at h
      obtain ⟨rfl, rfl, rfl⟩ := Lead.token.inj h
      exact ⟨_, rfl, rfl⟩
  · rw [if_neg hqq] at h ⊢
    have hclose := hslash (Bool.eq_false_iff.2 hqq)
    rw [Token.close_append_inert hq u hs hclose] at h
    cases hu : Token.close q u with
    | closed a b =>
      rw [hu] at h
      obtain ⟨rfl, rfl, rfl⟩ := Lead.token.inj h
      exact ⟨_, rfl, rfl⟩
    | backslash => exact absurd hu hclose
    | «open» =>
      simp only [hu] at h
      exact word_concat h (hx (word_kind h))

/-- Letters in front of a quote that starts no string are a word, and nothing is read at the quote. -/
theorem lead_of_backslash (hopening : Token.opening? t = some (p, q, u)) (hw : IsInert w) (hr : w ≠ '\r')
    (hqq : [q, q].isPrefixOf u = false) (hslash : Token.close q u = .backslash)
    (h : lead Lexeme.nameRule row column (t ++ [w]) = .token k x r) (row' column' : Nat) :
    ∃ c v, r = c :: v ∧ isGap c = false ∧ c ≠ '#' ∧ c ≠ '\\' ∧
      lead Lexeme.nameRule row' column' r = .none := by
  have hq := Token.isQuote_of_opening? hopening
  have hs : Inert [w] := fun _ hc => List.mem_singleton.1 hc ▸ hw
  have hquote : ∀ c ∈ [q, q], ¬ IsInert c := by simp [Token.not_isInert_of_isQuote hq]
  obtain ⟨hpart, hgap, hhash, hbackslash⟩ : Lexeme.nameRule.part q = false ∧ isGap q = false ∧
      q ≠ '#' ∧ q ≠ '\\' := by
    simp only [Token.isQuote, Bool.or_eq_true, decide_eq_true_eq] at hq
    obtain rfl | rfl := hq <;> decide
  have hopen := Token.close_append_of_backslash hq hw hr hslash
  have hprefix : ¬ [q, q].isPrefixOf (u ++ [w]) = true := by
    rw [Token.isPrefixOf_append_inert hquote u hs, hqq]
    exact Bool.false_ne_true
  have hstring : ∀ (row column : Nat) (p t : Text), string Lexeme.nameRule row column t p q (u ++ [w]) =
      word Lexeme.nameRule t := fun _ _ _ _ => by
    rw [string, if_neg hprefix, hopen]
  rw [lead, Token.opening?_append_inert t hs, hopening] at h
  have hword : word Lexeme.nameRule (t ++ [w]) = .token k x r := (hstring row column p (t ++ [w])).symm.trans h
  have hp : ∀ c ∈ p, Lexeme.nameRule.part c = true := Token.part_of_opening? hopening
  have hr : r = q :: (u ++ [w]) := by
    unfold word at hword
    split at hword
    · contradiction
    · obtain ⟨-, -, rfl⟩ := Lead.token.inj hword
      rw [← Token.opening?_append hopening, List.append_assoc, List.dropWhile_append_of_pos hp,
        List.cons_append, List.dropWhile_cons_of_neg (by simp [hpart])]
  have hnone : word Lexeme.nameRule (q :: (u ++ [w])) = .none := by simp [word, hpart]
  refine ⟨q, u ++ [w], hr, hgap, hhash, hbackslash, ?_⟩
  rw [hr, lead, Token.opening?_of_isQuote hq]
  exact (hstring row' column' [] _).trans hnone

theorem lead_blank (hw : IsInert w) (h : lead Lexeme.nameRule row column [w] = .token k x r) :
    (k = .name ∨ k = .operator) ∧ w ∈ x := by
  have hs : Inert [w] := fun _ hc => List.mem_singleton.1 hc ▸ hw
  have hmem : w ∈ x := by
    obtain ⟨hx, hne⟩ := lead_append _ h
    cases x with
    | nil => contradiction
    | cons c x =>
      obtain ⟨rfl, -⟩ := List.cons.inj hx
      exact List.mem_cons_self
  refine ⟨?_, hmem⟩
  have hopening := Token.opening?_append_inert [] hs
  have hnumber := Token.local_number? [] [w] hs
  rw [List.nil_append] at hopening hnumber
  rw [lead, hopening, hnumber] at h
  dsimp only [Token.opening?, Option.map_none] at h
  split at h
  · next hnum =>
    have hnil : Token.number? [] = none := rfl
    simp [hnil] at hnum
  · split at h
    · obtain ⟨rfl, -, -⟩ := Lead.token.inj h
      exact .inr rfl
    · exact word_kind h

theorem lead_concat (hw : Text.isBlank w = true) (hr : '\r' ∉ v ++ [w])
    (h : lead Lexeme.nameRule row column (v ++ [w]) = .token k x r) {i j : Nat}
    (hvalid : (Lexeme.ofToken? ⟨k, x, i, j⟩).isSome = true) {row' column' : Nat} {us : List Token}
    {e : LineEnd} (he : ∀ s, e ≠ .openString s) (hrest : rest Lexeme.nameRule row' column' r = (us, e))
    (hknown : Known us) : ∃ r', r = r' ++ [w] ∧ lead Lexeme.nameRule row column v = .token k x r' := by
  have hinert : IsInert w := .inr (.inr hw)
  have hs := inert_of_isBlank hw
  have hx : k = .name ∨ k = .operator → w ∉ x := fun hk => Lexeme.not_mem_of_ofToken? hk hvalid hw
  have hne : v ≠ [] := by
    rintro rfl
    obtain ⟨hk, hmem⟩ := lead_blank hinert h
    exact hx hk hmem
  have hrw : w ≠ '\r' := by
    rintro rfl
    simp at hr
  have hwhole := h
  unfold lead at h ⊢
  rw [Token.opening?_append_inert v hs] at h
  cases hopening : Token.opening? v with
  | some y =>
    obtain ⟨p, q, u⟩ := y
    rw [hopening] at h
    refine string_concat (Token.isQuote_of_opening? hopening) hinert (fun hqq hslash => ?_) h hx
    obtain ⟨c, u, rfl, hgap, hhash, hbackslash, hnone⟩ :=
      lead_of_backslash hopening hinert hrw hqq hslash hwhole row' (column' + 0)
    have hdrop : (c :: u).dropWhile isGap = c :: u := List.dropWhile_cons_of_neg (by simp [hgap])
    have htake : (c :: u).takeWhile isGap = [] := List.takeWhile_cons_of_neg (by simp [hgap])
    have hr' : '\r' ∉ c :: u := fun hmem => hr ((lead_append _ hwhole).1 ▸ List.mem_append_right x hmem)
    obtain ⟨-, ⟨_, _, _, _, hlead, -⟩ | ⟨s, -, hs⟩⟩ := lead_of_rest hr' hdrop hhash
      (fun heq => absurd (List.cons.inj heq).1 hbackslash) hrest hknown
    · rw [htake, List.length_nil, hnone] at hlead
      contradiction
    · exact he s hs
  | none =>
    rw [hopening] at h
    rw [Option.map_none, Token.local_number? v [w] hs] at h
    dsimp only at h ⊢
    cases hnumber : Token.number? v with
    | some y =>
      rw [hnumber] at h
      obtain ⟨rfl, rfl, rfl⟩ := Lead.token.inj h
      exact ⟨_, rfl, rfl⟩
    | none =>
      rw [hnumber] at h
      rw [Option.map_none, Token.operator?_append_inert hne hs] at h
      dsimp only at h ⊢
      cases hoperator : Token.operator? v with
      | some y =>
        rw [hoperator] at h
        obtain ⟨rfl, rfl, rfl⟩ := Lead.token.inj h
        exact ⟨_, rfl, rfl⟩
      | none =>
        rw [hoperator] at h
        exact word_concat h (hx (word_kind h))

def Valid (ts : List Token) : Prop := ∀ k ∈ ts, (Lexeme.ofToken? k).isSome = true

theorem Valid.known {ts : List Token} (h : Valid ts) : Known ts := by
  intro k hk hunknown
  have := h k hk
  simp [Lexeme.ofToken?, hunknown] at this

theorem not_valid_of_blank {ts : List Token} {e : LineEnd} (hw : Text.isBlank w = true) (hr : '\r' ∉ t)
    (hu : t.dropWhile isGap = [w]) (he : ∀ s, e ≠ .openString s)
    (h : rest Lexeme.nameRule row column t = (ts, e)) : ¬ Valid ts := by
  intro hvalid
  have hne : ∀ c ∈ ['#', '\\'], w ≠ c := by
    rintro c hc rfl
    have hall : ∀ c ∈ ['#', '\\'], Text.isBlank c = false := Text.forall_mem_of_all (by decide)
    simp [hall w hc] at hw
  obtain ⟨-, ⟨k, x, r, us, hlead, -, rfl⟩ | ⟨s, -, hs⟩⟩ :=
    lead_of_rest hr hu (hne '#' (by simp)) (fun heq => absurd (List.cons.inj heq).1 (hne '\\' (by simp)))
      h hvalid.known
  · obtain ⟨hk, hmem⟩ := lead_blank (.inr (.inr hw)) hlead
    exact Lexeme.not_mem_of_ofToken? hk (hvalid _ List.mem_cons_self) hw hmem
  · exact he s hs

theorem rest_concat {ts : List Token} {e : LineEnd} (hw : Text.isBlank w = true) (hr : '\r' ∉ t ++ [w])
    (he : ∀ s, e ≠ .openString s) (h : rest Lexeme.nameRule row column (t ++ [w]) = (ts, e))
    (hvalid : Valid ts) : rest Lexeme.nameRule row column t = (ts, e) := by
  induction hn : t.length using Nat.strong_induction_on generalizing t column ts with
  | _ n ih =>
  have hrt : '\r' ∉ t := fun hmem => hr (List.mem_append_left _ hmem)
  cases hv : t.dropWhile isGap with
  | nil =>
    have ht : ∀ c ∈ t, isGap c = true := List.dropWhile_eq_nil_iff.1 hv
    have hempty : rest Lexeme.nameRule row column t = ([], .plain) := by simp [rest, tokens, hv]
    have hdrop : (t ++ [w]).dropWhile isGap = [w].dropWhile isGap := List.dropWhile_append_of_pos ht
    by_cases hgap : isGap w = true
    · have hnil : (t ++ [w]).dropWhile isGap = [] := by simpa [hgap] using hdrop
      rw [hempty, ← h]
      simp [rest, tokens, hnil]
    · have hlast : (t ++ [w]).dropWhile isGap = [w] := by simpa [hgap] using hdrop
      exact absurd hvalid (not_valid_of_blank hw hr hlast he h)
  | cons c v =>
    obtain ⟨htake, hdrop⟩ := gap_append [w] hv
    by_cases hhash : c = '#'
    · subst hhash
      rw [rest_comment hr hdrop] at h
      rw [rest_comment hrt hv, h]
    · have hslash : c :: (v ++ [w]) = ['\\'] → e ≠ .backslash := by
        intro heq
        cases v <;> simp at heq
      obtain ⟨hstart, ⟨k, x, r, us, hlead, hrest, rfl⟩ | ⟨s, -, hs⟩⟩ :=
        lead_of_rest hr hdrop hhash hslash h hvalid.known
      · obtain ⟨hk, hus⟩ := List.forall_mem_cons.1 hvalid
        have hsuffix : ∀ {d}, d ∈ c :: (v ++ [w]) → d ∈ t ++ [w] := fun hd =>
          (List.dropWhile_suffix isGap).subset (hdrop ▸ hd)
        obtain ⟨r, rfl, hlead'⟩ := lead_concat (v := c :: v) hw (fun hmem => hr (hsuffix hmem)) hlead hk he hrest
          (Valid.known hus)
        obtain ⟨hx, hxne⟩ := lead_append _ hlead'
        have hlength := congrArg List.length hx
        have hpos := List.length_pos_iff.2 hxne
        have hlen := length_dropWhile_gap t
        rw [List.length_append, ← hv] at hlength
        have hrr : '\r' ∉ r ++ [w] := fun hmem =>
          hr (hsuffix (by rw [← (lead_append _ hlead).1]; exact List.mem_append_right x hmem))
        have hrest' := ih r.length (by omega) hrr hrest hus rfl
        have hstart' : startsToken (c :: v) = true := by simpa [startsToken] using hstart
        rw [htake] at hlead' hrest'
        have hcons := rest_cons Lexeme.nameRule isGap_of_mem_takeWhile hstart' hlead' hrest'
        rw [← hv, List.takeWhile_append_dropWhile] at hcons
        rw [hcons, htake]
      · exact absurd hs (he s)

theorem not_openString_of_finish {st : LineState} {x : List Token × LineEnd}
    (hstring : (finish st x).2.string = none) (s : OpenString) : x.2 ≠ .openString s := by
  obtain ⟨ts, e⟩ := x
  rintro rfl
  contradiction

theorem startStatement_concat {l : Text} {st : LineState} (hw : Text.isBlank w = true) (hr : '\r' ∉ l ++ [w])
    (hstring : (startStatement Lexeme.nameRule row st (l ++ [w])).2.string = none)
    (hvalid : Valid (tokensOf (startStatement Lexeme.nameRule row st (l ++ [w])).1)) :
    startStatement Lexeme.nameRule row st l = startStatement Lexeme.nameRule row st (l ++ [w]) := by
  have hrl : '\r' ∉ l := fun hmem => hr (List.mem_append_left _ hmem)
  have hsuffix : '\r' ∉ (l ++ [w]).dropWhile isGap := fun hmem => hr ((List.dropWhile_suffix isGap).subset hmem)
  obtain ⟨hsame, hblank⟩ | ⟨heq, c, u, hu, hhash⟩ := startStatement_cases Lexeme.nameRule row st hr
  · rw [hsame]
    obtain ⟨hsame', -⟩ | ⟨-, c, u, hu, hhash⟩ := startStatement_cases Lexeme.nameRule row st hrl
    · exact hsame'
    · rw [(gap_append [w] hu).2] at hblank
      obtain hnil | ⟨v, hv⟩ := hblank
      · contradiction
      · exact absurd (List.cons.inj hv).1 hhash
  · rw [heq] at hstring hvalid ⊢
    rw [tokensOf_margin, (tokensOf_finish _ _).1] at hvalid
    have hopen := not_openString_of_finish hstring
    cases hv : l.dropWhile isGap with
    | nil =>
      have hdrop : (l ++ [w]).dropWhile isGap = [w].dropWhile isGap :=
        List.dropWhile_append_of_pos (List.dropWhile_eq_nil_iff.1 hv)
      by_cases hgap : isGap w = true
      · simp [hdrop, hgap] at hu
      · have hlast : (l ++ [w]).dropWhile isGap = [w] := by simpa [hgap] using hdrop
        rw [hlast] at hsuffix hopen hvalid
        exact absurd hvalid (not_valid_of_blank hw hsuffix (by simp [hgap]) hopen rfl)
    | cons d v =>
      obtain ⟨htake, hdrop⟩ := gap_append [w] hv
      rw [htake, hdrop] at hopen hvalid ⊢
      rw [hdrop] at hsuffix
      obtain ⟨-, hblank⟩ | ⟨heq', -⟩ := startStatement_cases Lexeme.nameRule row st hrl
      · rw [hv] at hblank
        obtain hnil | ⟨x, hx⟩ := hblank
        · contradiction
        · exact absurd ((List.cons.inj (hdrop.symm.trans hu)).1.symm.trans (List.cons.inj hx).1) hhash
      · rw [heq', hv, rest_concat (t := d :: v) hw hsuffix hopen rfl hvalid]
        rfl

theorem line_concat {l : Text} {st : LineState} (hw : Text.isBlank w = true) (hr : '\r' ∉ l ++ [w])
    (hst : st.string = none) (hstring : (line Lexeme.nameRule row st (l ++ [w])).2.string = none)
    (hvalid : Valid (tokensOf (line Lexeme.nameRule row st (l ++ [w])).1)) :
    line Lexeme.nameRule row st l = line Lexeme.nameRule row st (l ++ [w]) := by
  have hrl : '\r' ∉ l := fun hmem => hr (List.mem_append_left _ hmem)
  simp only [line, hst] at hstring hvalid ⊢
  by_cases hstart : (decide (st.depth = 0) && !st.joined) = true
  · rw [if_pos hstart] at hstring hvalid
    rw [if_pos hstart, if_pos hstart]
    exact startStatement_concat hw hr hstring hvalid
  · rw [if_neg hstart] at hstring hvalid
    rw [if_neg hstart, if_neg hstart]
    rw [(tokensOf_finish _ _).1] at hvalid
    rcases hrest : rest Lexeme.nameRule row 0 (l ++ [w]) with ⟨ts, e⟩
    rw [hrest] at hstring hvalid
    rw [rest_concat hw hr (not_openString_of_finish hstring) hrest hvalid]

theorem trimEnd_concat (hw : Text.isBlank w = true) (t : Text) : Text.trimEnd (t ++ [w]) = Text.trimEnd t := by
  simp [Text.trimEnd, Text.trimEndBy, hw]

theorem trimEnd_concat_of_not_blank (hw : ¬ Text.isBlank w = true) (t : Text) :
    Text.trimEnd (t ++ [w]) = t ++ [w] := by
  simp [Text.trimEnd, Text.trimEndBy, hw]

/-- White space at its end does not matter to a line that goes on no string. -/
theorem line_trimEnd {l : Text} {st : LineState} (hr : '\r' ∉ l) (hst : st.string = none)
    (hstring : (line Lexeme.nameRule row st l).2.string = none)
    (hvalid : Valid (tokensOf (line Lexeme.nameRule row st l).1)) :
    line Lexeme.nameRule row st (Text.trimEnd l) = line Lexeme.nameRule row st l := by
  induction l using List.reverseRecOn with
  | nil => rfl
  | append_singleton l w ih =>
    by_cases hw : Text.isBlank w = true
    · have hline := line_concat hw hr hst hstring hvalid
      rw [trimEnd_concat hw, ← hline]
      rw [← hline] at hstring hvalid
      exact ih (fun hmem => hr (List.mem_append_left _ hmem)) hstring hvalid
    · rw [trimEnd_concat_of_not_blank hw]

end LineScan
end Script
end TemplateEngine
