import TemplateEngine.Literal
import TemplateEngine.Proofs.Script.Tokens
import TemplateEngine.Proofs.Text.PhysicalLines
import TemplateEngine.Script.StringLiteral

set_option autoImplicit false

/-!
# Reading a quoted text back

What stands between the quotes of a literal is read back as the text, and its last quote is the
first one that no backslash escapes. A character is either written as it stands or as an escape of
one letter, the null character apart. So a literal in front of a bracket is one token on one line.
-/
namespace TemplateEngine

open Script

namespace Literal

theorem escapeChar_cases (c : Char) :
    (∃ d, escapeChar c = ['\\', d] ∧ d ≠ '\r' ∧ StringLiteral.simpleEscape? d = some c) ∨
      (c = '\x00' ∧ escapeChar c = "\\x00".toList) ∨
      (escapeChar c = [c] ∧ c ≠ '\\' ∧ c ≠ '\'' ∧ c ≠ '\n' ∧ c ≠ '\r' ∧ c ≠ '\x00') := by
  by_cases h1 : c = '\\'
  · exact .inl ⟨'\\', by simp [escapeChar, h1], by decide, by subst h1; decide⟩
  by_cases h2 : c = '\''
  · exact .inl ⟨'\'', by subst h2; decide, by decide, by subst h2; decide⟩
  by_cases h3 : c = '\t'
  · exact .inl ⟨'t', by subst h3; decide, by decide, by subst h3; decide⟩
  by_cases h4 : c = '\r'
  · exact .inl ⟨'r', by subst h4; decide, by decide, by subst h4; decide⟩
  by_cases h5 : c = '\n'
  · exact .inl ⟨'n', by subst h5; decide, by decide, by subst h5; decide⟩
  by_cases h6 : c = '\x00'
  · exact .inr (.inl ⟨h6, by subst h6; decide⟩)
  exact .inr (.inr ⟨by simp [escapeChar, h1, h2, h3, h4, h5, h6], h1, h2, h5, h4, h6⟩)

theorem not_mem_escape (t : Text) : '\n' ∉ escape t ∧ '\r' ∉ escape t ∧ '\x00' ∉ escape t := by
  induction t with
  | nil => simp [escape]
  | cons c t ih =>
    obtain ⟨hn, hr, h0⟩ := ih
    obtain ⟨d, hc, -, hd⟩ | ⟨-, hc⟩ | ⟨hc, -, -, h1, h2, h3⟩ := escapeChar_cases c
    · have hd' : d ≠ '\n' ∧ d ≠ '\r' ∧ d ≠ '\x00' := by
        refine ⟨?_, ?_, ?_⟩ <;> rintro rfl <;> simp [StringLiteral.simpleEscape?] at hd
      simp [hc, hn, hr, h0, Ne.symm hd'.1, Ne.symm hd'.2.1, Ne.symm hd'.2.2]
    · simp [hc, hn, hr, h0]
    · simp [hc, hn, hr, h0, Ne.symm h1, Ne.symm h2, Ne.symm h3]

theorem head?_escape (t : Text) : (escape t).head? ≠ some '\'' := by
  cases t with
  | nil => simp [escape]
  | cons c t =>
    obtain ⟨d, hc, -, -⟩ | ⟨-, hc⟩ | ⟨hc, -, h, -⟩ := escapeChar_cases c
    · simp [hc]
    · simp [hc]
    · simpa [hc] using h

/-- The string ends at the quote behind the escaped text. -/
theorem close_escape (t r : Text) :
    Token.close '\'' (escape t ++ '\'' :: r) = .closed (escape t ++ ['\'']) r := by
  induction t with
  | nil => simp [escape, Token.close]
  | cons c t ih =>
    obtain ⟨d, hc, hd, -⟩ | ⟨-, hc⟩ | ⟨hc, h1, h2, -⟩ := escapeChar_cases c
    · have hne : escape t ++ '\'' :: r ≠ [] := by simp
      rw [escape_cons, hc]
      simp only [List.cons_append, List.nil_append]
      rw [Token.close, ih]
      · rfl
      · simp
    · rw [escape_cons, hc]
      simp [Token.close, ih, Token.Ending.prepend]
    · rw [escape_cons, hc]
      simp [Token.close, ih, Token.Ending.prepend, h1, h2]

theorem body?_escape (t : Text) : StringLiteral.body? false false 0 (escape t) = some t.toStr := by
  induction t with
  | nil => rfl
  | cons c t ih =>
    obtain ⟨d, hc, -, hd⟩ | ⟨h0, hc⟩ | ⟨hc, h1, -, h3, -⟩ := escapeChar_cases c
    · rw [escape_cons, hc]
      simp [StringLiteral.body?, StringLiteral.escape?, hd, ih]
    · have hx : StringLiteral.escape? 'x' ('0' :: '0' :: escape t) = some ([.char c], 2) := by
        subst h0
        simp [StringLiteral.escape?, StringLiteral.simpleEscape?, StringLiteral.hexCount?]
        decide
      rw [escape_cons, hc]
      simp [StringLiteral.body?, hx, ih]
    · rw [escape_cons, hc]
      simp [StringLiteral.body?, ih, h1, h3]

theorem not_prefix_escape (t r : Text) (hr : r.head? ≠ some '\'') :
    ¬ ['\'', '\''] <+: escape t ++ '\'' :: r := by
  have hh := head?_escape t
  rintro ⟨s, hs⟩
  cases h : escape t with
  | nil =>
    rw [h, List.nil_append] at hs
    rw [← (List.cons.inj hs).2] at hr
    exact hr rfl
  | cons d u =>
    rw [h, List.cons_append] at hs
    rw [h, ← (List.cons.inj hs).1] at hh
    exact hh rfl

theorem opening?_quote (t r : Text) :
    Token.opening? (quote t ++ r) = some ([], '\'', escape t ++ '\'' :: r) := by
  simp [quote, Token.opening?, Token.isQuote]

theorem value?_quote (t : Text) : StringLiteral.value? (quote t) = some t.toStr := by
  have ho := opening?_quote t []
  rw [List.append_nil] at ho
  have hp : ['\'', '\''].isPrefixOf (escape t ++ ['\'']) = false := by
    rw [Bool.eq_false_iff]
    exact fun h => not_prefix_escape t [] (by simp) (List.isPrefixOf_iff_prefix.1 h)
  simp only [StringLiteral.value?, ho, Option.bind_eq_bind, Option.bind_some, List.map_nil,
    List.contains_nil, Bool.or_self, Bool.false_eq_true, if_false, hp, Bool.false_and,
    List.dropLast_concat, body?_escape]

/-- The literal is the token at the start of what does not go on with a quote. -/
theorem lead_quote (rule : NameRule) (row column : Nat) (t : Text) {r : Text}
    (hr : r.head? ≠ some '\'') :
    LineScan.lead rule row column (quote t ++ r) = .token .string (quote t) r := by
  have hp : ¬ ['\'', '\''].isPrefixOf (escape t ++ '\'' :: r) = true := fun h =>
    not_prefix_escape t r hr (List.isPrefixOf_iff_prefix.1 h)
  simp only [LineScan.lead, opening?_quote, LineScan.string, if_neg hp, close_escape]
  rfl

theorem not_mem_quote (t : Text) : '\n' ∉ quote t ∧ '\r' ∉ quote t ∧ '\x00' ∉ quote t := by
  simpa [quote] using not_mem_escape t

/-- Whatever the text, its literal in front of a closing bracket is one string token: it ends at the
literal's last quote, lies on one physical line, holds no null character, and has the text as its value.
A text is escaped piece by piece. -/
theorem quote_isToken :
    (∀ t r : Text, ∃ line ls, Text.sourceLines (')' :: r) = line :: ls ∧
      Text.sourceLines (quote t ++ ')' :: r) = (quote t ++ line) :: ls ∧
      ∀ (rule : NameRule) (row column : Nat),
        LineScan.lead rule row column (quote t ++ ')' :: r) =
            .token .string (quote t) (')' :: r) ∧
          LineScan.rest rule row column (quote t ++ line) =
            (⟨.string, quote t, row, column⟩ ::
                (LineScan.rest rule row (column + (quote t).length) line).1,
              (LineScan.rest rule row (column + (quote t).length) line).2)) ∧
    (∀ t : Text, quote t = ['\''] ++ escape t ++ ['\''] ∧
      '\n' ∉ quote t ∧ '\r' ∉ quote t ∧ '\x00' ∉ quote t ∧
      StringLiteral.value? (quote t) = some t) ∧
    ∀ s t : Text, escape (s ++ t) = escape s ++ escape t := by
  refine ⟨fun t r => ?_, fun t => ?_, escape_append⟩
  · obtain ⟨line, ls, hlines⟩ : ∃ line ls, Text.sourceLines (')' :: r) = (')' :: line) :: ls := by
      obtain ⟨l, ls, hr⟩ :=
        List.exists_cons_of_ne_nil (Text.physicalLines_ne_nil (Text.unifyLineEnds r))
      refine ⟨l, ls, ?_⟩
      rw [Text.sourceLines, Text.unifyLineEnds_cons (by simp), Text.physicalLines, hr]
      rfl
    obtain ⟨hn, hr, -⟩ := not_mem_quote t
    have hfirst : Text.sourceLines (quote t ++ ')' :: r) = (quote t ++ ')' :: line) :: ls := by
      rw [Text.sourceLines_inFront hn hr, hlines, Text.inFront]
    refine ⟨_, ls, hlines, hfirst, fun rule row column => ⟨?_, ?_⟩⟩
    · exact lead_quote rule row column t (by simp)
    · exact LineScan.rest_cons rule (g := []) (by simp) rfl
        (lead_quote rule row column t (by simp)) rfl
  · obtain ⟨hn, hr, h0⟩ := not_mem_quote t
    exact ⟨rfl, hn, hr, h0, value?_quote t⟩

end Literal
end TemplateEngine
