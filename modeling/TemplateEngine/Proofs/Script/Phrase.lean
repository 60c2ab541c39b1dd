import TemplateEngine.Proofs.Script.BlockHeads
import TemplateEngine.Proofs.Script.Calls
import TemplateEngine.Proofs.Script.Enclosed

set_option autoImplicit false

/-!
# Expressions as they are written

A phrase is the text of one expression. It is scanned and read in the same way on every line in which
it stands in front of what closes.
-/
namespace TemplateEngine.Script

/-- The text of an expression that may stand between two brackets: it is nothing but tokens, closes its
own brackets, and is read as one expression without a comma or a star around it. -/
structure Phrase where
  text : Text
  tokens : List Token
  lexemes : List Lexeme
  expr : Expr
  scanned : LineScan.enclosed? Lexeme.nameRule 0 { depth := 2 } (Text.sourceLines text) = some tokens
  closed : LineScan.depthAfter 0 tokens = 0
  spelled : Lexeme.ofTokens? tokens = some lexemes
  parsed : Grammar.expression (Grammar.fuel lexemes) lexemes = some (expr, [])
  no_null : '\x00' ∉ text

structure LinePhrase extends Phrase where
  no_break : ∀ c ∈ text, Text.isLineBreak c = false

namespace Lexeme

theorem ofTokens?_append {ts us : List Token} {ls ms : List Lexeme} (hts : ofTokens? ts = some ls)
    (hus : ofTokens? us = some ms) (hu : ∀ u ∈ us.head?, u.text.head? ≠ some 'o') :
    ofTokens? (ts ++ us) = some (ls ++ ms) := by
  induction ts generalizing ls with
  | nil =>
    obtain rfl := Option.some.inj hts
    exact hus
  | cons t ts ih =>
    have hsome : (ofTokens? (t :: ts)).isSome = true := by rw [hts]; rfl
    have hspoils : ts.head?.any (spoils t) = false := by
      cases hs : ts.head?.any (spoils t) with
      | false => rfl
      | true =>
        simp only [ofTokens?, hs] at hsome
        exact absurd hsome Bool.false_ne_true
    have hspoils' : (ts ++ us).head?.any (spoils t) = false := by
      cases ts with
      | cons v vs => exact hspoils
      | nil =>
        cases us with
        | nil => rfl
        | cons u us => simp [spoils, hu u rfl]
    simp only [ofTokens?, hspoils, guard, Option.bind_eq_bind, Option.bind_eq_some_iff] at hts
    obtain ⟨-, -, l, hl, ks, hks, h⟩ := hts
    obtain rfl := Option.some.inj h
    simp only [List.cons_append, ofTokens?, hspoils', hl, ih hks]
    rfl

theorem ofTokens?_append_of_kinds {ts us : List Token} {ls ms : List Lexeme}
    (hkinds : ∀ t ∈ ts, t.kind ≠ .number) (hts : ofTokens? ts = some ls) (hus : ofTokens? us = some ms) :
    ofTokens? (ts ++ us) = some (ls ++ ms) := by
  induction ts generalizing ls with
  | nil =>
    obtain rfl := Option.some.inj hts
    exact hus
  | cons t ts ih =>
    obtain ⟨ht, hrest⟩ := List.forall_mem_cons.1 hkinds
    simp only [ofTokens?, Option.bind_eq_bind, Option.bind_eq_some_iff] at hts
    obtain ⟨-, -, l, hl, ks, hks, h⟩ := hts
    obtain rfl := Option.some.inj h
    exact ofTokens?_cons ht hl (ih hrest hks)

end Lexeme

namespace Outline

open LineScan

theorem bracketsFit_append (n : Int) (ts us : List Token) :
    bracketsFit n (ts ++ us) = (bracketsFit n ts && bracketsFit (depthAfter n ts) us) := by
  induction ts generalizing n with
  | nil => rfl
  | cons t ts ih =>
    have hdepth : depthAfter n (t :: ts) = depthAfter (depthAfter n [t]) ts := rfl
    rw [List.cons_append, bracketsFit, bracketsFit, ih, hdepth, Bool.and_assoc]

end Outline

namespace LineScan

theorem tokens?_moved (rule : NameRule) (n shift column : Nat) (t : Text) :
    tokens? rule n (shift + column) t = (tokens? rule n column t).map (List.map (Token.moved 0 shift)) := by
  induction n generalizing column t with
  | zero => rfl
  | succ n ih =>
    have hlead : ∀ start u, lead rule 0 (shift + start) u = (lead rule 0 start u).moved 0 shift :=
      fun start u => by rw [← lead_moved, Nat.zero_add]
    simp only [tokens?, Nat.add_assoc, hlead]
    generalize column + (t.takeWhile isGap).length = start
    split
    · rfl
    · split
      · cases lead rule 0 start (t.dropWhile isGap) with
        | token k x r =>
          simp only [Lead.moved, ih, Option.map_map]
          rfl
        | openString s => rfl
        | none => rfl
      · rfl

theorem tokens?_blank (rule : NameRule) (n column : Nat) (t : Text) :
    tokens? rule n column (' ' :: t) = tokens? rule n (column + 1) t := by
  cases n with
  | zero => rfl
  | succ n =>
    have htake : (' ' :: t).takeWhile isGap = ' ' :: t.takeWhile isGap := rfl
    have hdrop : (' ' :: t).dropWhile isGap = t.dropWhile isGap := rfl
    simp only [tokens?, htake, hdrop, List.length_cons]
    have hstart : column + ((t.takeWhile isGap).length + 1) = column + 1 + (t.takeWhile isGap).length := by
      omega
    rw [hstart]

theorem depthAfter_eq_add (d : Int) (ts : List Token) : depthAfter d ts = d + depthAfter 0 ts := by
  induction ts generalizing d with
  | nil => exact (Int.add_zero d).symm
  | cons t ts ih =>
    rw [depthAfter_cons, depthAfter_cons, ih, ih (0 + change t.kind t.text)]
    omega

end LineScan

namespace Phrase

open LineScan

variable (e : Phrase)

theorem depthAfter_moved (shift : Nat) (d : Int) :
    depthAfter d (e.tokens.map (Token.moved 0 shift)) = d := by
  rw [LineScan.depthAfter_moved, depthAfter_eq_add, e.closed, Int.add_zero]

theorem ofTokens?_append (shift : Nat) {us : List Token} {ms : List Lexeme}
    (hus : Lexeme.ofTokens? us = some ms) (hu : ∀ u ∈ us.head?, u.text.head? ≠ some 'o') :
    Lexeme.ofTokens? (e.tokens.map (Token.moved 0 shift) ++ us) = some (e.lexemes ++ ms) :=
  Lexeme.ofTokens?_append ((Lexeme.ofTokens?_moved 0 shift e.tokens).trans e.spelled) hus hu

/-- The expression is read in front of what closes, within every greater bound. -/
theorem expression_append {r : List Lexeme} {n : Nat} (hn : Grammar.fuel e.lexemes ≤ n)
    (hr : Grammar.closes r = true) : Grammar.expression n (e.lexemes ++ r) = some (e.expr, r) :=
  (Grammar.stable hn).expression _ _ _ _ hr e.parsed

end Phrase

namespace LinePhrase

open LineScan

variable (e : LinePhrase) {s : Text}

theorem allTokens? : LineScan.allTokens? Lexeme.nameRule e.text = some e.tokens := by
  have hno : ∀ c, Text.isLineBreak c = true → c ∉ e.text := fun c hc hmem => by
    have := e.no_break c hmem
    rw [hc] at this
    contradiction
  have hscanned := e.scanned
  rw [Text.sourceLines_eq_singleton (hno _ rfl) (hno _ rfl)] at hscanned
  obtain ⟨ts, hts, hmoved⟩ := Option.map_eq_some_iff.1 hscanned
  have hsame : Token.moved 0 0 = id := by
    funext t
    simp [Token.moved]
  rw [hsame, List.map_id] at hmoved
  rwa [hmoved] at hts

theorem rest_blank_append (shift : Nat) (hs : Closers s) :
    rest Lexeme.nameRule 0 shift (' ' :: (e.text ++ s)) =
      (e.tokens.map (Token.moved 0 (shift + 1)) ++ closerTokens (shift + 1 + e.text.length) s,
        .plain) := by
  have hblank : tokens? Lexeme.nameRule (e.text.length + 1) 0 (' ' :: e.text) =
      some (e.tokens.map (Token.moved 0 1)) := by
    rw [tokens?_blank, ← Nat.add_comm 1 0, tokens?_moved]
    exact congrArg (Option.map _) e.allTokens?
  have h := rest_append_closers Lexeme.nameRule_ends 0 shift hs hblank
  rw [rest_closers _ _ hs] at h
  have hmoved : ∀ t, Token.moved 0 shift (Token.moved 0 1 t) = Token.moved 0 (shift + 1) t :=
    fun t => Token.moved_moved 0 1 0 shift t
  simpa [Nat.add_assoc, Nat.add_comm 1, Function.comp_def, hmoved] using h

theorem bare : Bare e.text 0 := by
  obtain ⟨d, hbare, hdepth⟩ := bare_of_tokens? plainNames_nameRule e.allTokens?
  have := (hdepth 0).symm.trans e.closed
  rw [Int.zero_add] at this
  rwa [this] at hbare

end LinePhrase

end TemplateEngine.Script
