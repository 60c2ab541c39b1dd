import TemplateEngine.Proofs.Script.Phrases
import TemplateEngine.Script.Grammar.Statement

set_option autoImplicit false

namespace TemplateEngine.Script.Grammar

variable {ts us r : List Lexeme} {n m : Nat} {a e : Expr} {x : Text}

/-- Whether no phrase goes on with these lexemes. -/
def stops : List Lexeme → Bool
  | [] => true
  | .symbol s :: _ => s = .parenClose || s = .colon || s = .assign
  | _ => false

theorem stops_cases (h : stops r = true) :
    r = [] ∨ (∃ t, r = .symbol .parenClose :: t) ∨ (∃ t, r = .symbol .colon :: t) ∨
      ∃ t, r = .symbol .assign :: t := by
  unfold stops at h
  split at h
  · exact .inl rfl
  · simp only [Bool.or_eq_true, decide_eq_true_eq] at h
    obtain (rfl | rfl) | rfl := h
    · exact .inr (.inl ⟨_, rfl⟩)
    · exact .inr (.inr (.inl ⟨_, rfl⟩))
    · exact .inr (.inr (.inr ⟨_, rfl⟩))
  · contradiction

theorem word?_stops (w : Word) (h : stops r = true) : word? w r = none := by
  obtain rfl | ⟨t, rfl⟩ | ⟨t, rfl⟩ | ⟨t, rfl⟩ := stops_cases h <;> rfl

theorem comparison?_stops (h : stops r = true) : comparison? r = none := by
  obtain rfl | ⟨t, rfl⟩ | ⟨t, rfl⟩ | ⟨t, rfl⟩ := stops_cases h <;> rfl

def noOperator : List Lexeme → Bool
  | .symbol (.operator _) :: _ => false
  | _ => true

theorem noOperator_stops (h : stops r = true) : noOperator r = true := by
  obtain rfl | ⟨t, rfl⟩ | ⟨t, rfl⟩ | ⟨t, rfl⟩ := stops_cases h <;> rfl

theorem operatorAt?_eq_none (h : noOperator r = true) (level : Nat) : operatorAt? level r = none := by
  unfold operatorAt?
  split
  · contradiction
  · rfl

theorem symbol?_operator_eq_none (h : noOperator r = true) (op : BinaryOp) :
    symbol? (.operator op) r = none := by
  unfold symbol?
  split
  · split
    · next heq =>
      subst heq
      contradiction
    · rfl
  · rfl

theorem binary_of_primary (hr : noOperator r = true) (h : primary n (.name x :: us) = some (a, r))
    (level : Nat) : binary (n + 2 + level) level (.name x :: us) = some (a, r) := by
  have hrest : ∀ k level, binaryRest (k + 1) level a r = some (a, r) := by
    intro k level
    simp [binaryRest, operatorAt?_eq_none hr]
  induction level with
  | zero =>
    have hsigned : signed (n + 1) (.name x :: us) = some (a, r) := by
      simp [signed, sign?, h, symbol?_operator_eq_none hr]
    simp [binary, hsigned, hrest]
  | succ level ih =>
    have := hrest (n + 1 + level) (level + 1)
    rw [show n + 1 + level + 1 = n + 2 + level by omega] at this
    rwa [← Nat.add_assoc, binary, ih, Option.bind_eq_bind, Option.bind_some]

theorem expression_of_primary (hr : stops r = true) (h : primary n (.name x :: us) = some (a, r)) :
    expression (n + 11) (.name x :: us) = some (a, r) := by
  have hbinary := binary_of_primary (noOperator_stops hr) h topLevel
  have hinversion : inversion (n + 8) (.name x :: us) = some (a, r) := by
    have hcompared : compared (n + 7) r = some ([], r) := by
      simp [compared, comparison?_stops hr]
    simp only [topLevel] at hbinary
    simp [inversion, word?, topLevel, hbinary, hcompared]
  have hconjunction : conjunction (n + 9) (.name x :: us) = some (a, r) := by
    simp [conjunction, hinversion, word?_stops _ hr]
  have hdisjunction : disjunction (n + 10) (.name x :: us) = some (a, r) := by
    simp [disjunction, hconjunction, word?_stops _ hr]
  simp [expression, hdisjunction, word?_stops _ hr]

section

variable {s : Symbol} (h : startsExpression [.symbol s] = false)
include h

theorem atom_symbol (ts : List Lexeme) (n : Nat) : atom n (.symbol s :: ts) = none := by
  cases n with
  | zero => rfl
  | succ n =>
    cases s <;> first | rfl | contradiction

theorem primary_symbol (ts : List Lexeme) (n : Nat) : primary n (.symbol s :: ts) = none := by
  cases n with
  | zero => rfl
  | succ n => simp [primary, atom_symbol h]

theorem sign?_symbol (ts : List Lexeme) : sign? (.symbol s :: ts) = none := by
  unfold sign?
  split <;> simp_all [startsExpression]

theorem signed_symbol (ts : List Lexeme) (n : Nat) : signed n (.symbol s :: ts) = none := by
  cases n with
  | zero => rfl
  | succ n => simp [signed, sign?_symbol h, primary_symbol h]

theorem binary_symbol (ts : List Lexeme) (n level : Nat) : binary n level (.symbol s :: ts) = none := by
  induction level generalizing n with
  | zero =>
    cases n with
    | zero => rfl
    | succ n => simp [binary, signed_symbol h]
  | succ level ih =>
    cases n with
    | zero => rfl
    | succ n => simp [binary, ih]

theorem inversion_symbol (ts : List Lexeme) (n : Nat) : inversion n (.symbol s :: ts) = none := by
  cases n with
  | zero => rfl
  | succ n => simp [inversion, word?, binary_symbol h]

theorem conjunction_symbol (ts : List Lexeme) (n : Nat) : conjunction n (.symbol s :: ts) = none := by
  cases n with
  | zero => rfl
  | succ n => simp [conjunction, inversion_symbol h]

theorem disjunction_symbol (ts : List Lexeme) (n : Nat) : disjunction n (.symbol s :: ts) = none := by
  cases n with
  | zero => rfl
  | succ n => simp [disjunction, conjunction_symbol h]

/-- A symbol that starts no expression starts none. -/
theorem expression_symbol (ts : List Lexeme) (n : Nat) : expression n (.symbol s :: ts) = none := by
  cases n with
  | zero => rfl
  | succ n => simp [expression, disjunction_symbol h]

end

/-- The start of an expression is no symbol that could mean something else in front of one. -/
theorem symbol?_of_expression (h : expression n ts = some (e, r)) {s : Symbol}
    (hs : startsExpression [.symbol s] = false) : symbol? s ts = none := by
  unfold symbol?
  split
  · split
    · next heq =>
      subst heq
      rw [expression_symbol hs] at h
      contradiction
    · rfl
  · rfl

theorem ne_named (h : expression n ts = some (e, [])) (x : Text) (us : List Lexeme) :
    ts ≠ .name x :: .symbol .assign :: us := by
  rintro rfl
  have hprimary : ∃ a, primary (n + 2) (.name x :: .symbol .assign :: us) =
      some (a, .symbol .assign :: us) := ⟨_, rfl⟩
  obtain ⟨a, ha⟩ := hprimary
  have hread := expression_of_primary rfl ha
  have hmore := (stable (show n ≤ n + 2 + 11 by omega)).expression _ _ _ [] rfl h
  rw [List.append_nil, hread] at hmore
  simp at hmore

/-- An expression is an argument without a name. -/
theorem argument_of_expression (hstar : symbol? (.operator .multiply) ts = none)
    (hstars : symbol? (.operator .power) ts = none)
    (hn : ∀ x us, ts ≠ .name x :: .symbol .assign :: us) (h : expression n ts = some (e, r)) :
    argument (n + 1) ts = some (.positional e, r) := by
  rw [argument]
  · simp [h]
  · rintro us rfl
    simp [symbol?] at hstar
  · rintro us rfl
    simp [symbol?] at hstars
  · rintro y us rfl
    exact hn y us rfl

theorem trailers_call (h : expression n ts = some (e, [])) (hm : n + 3 ≤ m) (hr : stops r = true)
    (a : Expr) : trailers m a (.symbol .parenOpen :: (ts ++ .symbol .parenClose :: r)) =
      some (.call a [.positional e], r) := by
  obtain ⟨m, rfl⟩ : ∃ k, m = k + 3 := ⟨m - 3, by omega⟩
  have hread := (stable (show n ≤ m by omega)).expression ts e [] (.symbol .parenClose :: r) rfl h
  have hopen : ∀ s, startsExpression [.symbol s] = false →
      symbol? s (ts ++ .symbol .parenClose :: r) = none := fun s hs => symbol?_of_expression hread hs
  have hargument : argument (m + 1) (ts ++ .symbol .parenClose :: r) =
      some (.positional e, .symbol .parenClose :: r) := by
    refine argument_of_expression (hopen _ rfl) (hopen _ rfl) (fun x us hnamed => ?_) hread
    · obtain ⟨vs, rfl, hvs⟩ := eq_cons_of_append (s := .symbol .parenClose :: r) rfl hnamed rfl
      obtain ⟨ws, rfl, -⟩ := eq_cons_of_append (s := .symbol .parenClose :: r) rfl hvs.symm rfl
      exact ne_named h x ws rfl
  have harguments : arguments (m + 2) true (ts ++ .symbol .parenClose :: r) =
      some ([.positional e], r) := by
    rw [arguments, hopen .parenClose rfl, hargument]
    rfl
  have hstop : trailers (m + 2) (.call a [.positional e]) r = some (.call a [.positional e], r) := by
    obtain rfl | ⟨t, rfl⟩ | ⟨t, rfl⟩ | ⟨t, rfl⟩ := stops_cases hr <;> rfl
  have hfit : argumentsFit [] false false [.positional e] = true := rfl
  simp [trailers, harguments, hfit, hstop, guard]

theorem expression_call (h : expression n ts = some (e, [])) (hm : n + 15 ≤ m) (hr : stops r = true)
    (hx : x ≠ debugName) :
    expression m (.name x :: .symbol .parenOpen :: (ts ++ .symbol .parenClose :: r)) =
      some (.call (.name x) [.positional e], r) := by
  obtain ⟨m, rfl⟩ : ∃ k, m = k + 15 := ⟨m - 15, by omega⟩
  have hatom : ∀ us, atom (m + 3) (.name x :: us) = some (.name x, us) := by
    intro us
    simp [atom, leaf?, hx]
  refine expression_of_primary (n := m + 4) hr ?_
  rw [primary, hatom]
  exact trailers_call h (by omega) hr _

theorem expression_method {y : Text} (h : expression n ts = some (e, [])) (hm : n + 16 ≤ m)
    (hr : stops r = true) (hx : x ≠ debugName) :
    expression m (.name x :: .symbol .dot :: .name y :: .symbol .parenOpen ::
      (ts ++ .symbol .parenClose :: r)) =
      some (.call (.attribute (.name x) y) [.positional e], r) := by
  obtain ⟨m, rfl⟩ : ∃ k, m = k + 16 := ⟨m - 16, by omega⟩
  have hatom : ∀ us, atom (m + 4) (.name x :: us) = some (.name x, us) := by
    intro us
    simp [atom, leaf?, hx]
  refine expression_of_primary (n := m + 5) hr ?_
  rw [primary, hatom]
  exact trailers_call (m := m + 3) h (by omega) hr _

def Plain {α : Type} (p : List Lexeme → Option (Expr × α)) : Prop :=
  ∀ ts x, p ts = some x → x.1.isStarred = false

theorem plain_comprehension (n : Nat) (kind : Collection) (a : Expr) (close : Symbol) :
    Plain (comprehension n kind a close) := by
  intro ts x h
  cases n with
  | zero => contradiction
  | succ n =>
    obtain ⟨-, -, h⟩ := Option.bind_eq_some_iff.1 h
    obtain ⟨y, -, h⟩ := Option.bind_eq_some_iff.1 h
    obtain ⟨us, -, h⟩ := Option.bind_eq_some_iff.1 h
    obtain rfl := Option.some.inj h
    rfl

theorem plain_leaf? : Plain leaf? := by
  intro ts x h
  unfold leaf? at h
  split at h
  all_goals first
    | contradiction
    | (obtain rfl := Option.some.inj h; rfl)
    | (obtain rfl := Option.some.inj h; dsimp only; split <;> rfl)

theorem plain_braced (n : Nat) : Plain (braced n) := by
  intro ts x h
  cases n with
  | zero => contradiction
  | succ n =>
    rw [braced] at h
    split at h
    · obtain rfl := Option.some.inj h
      rfl
    · obtain ⟨⟨e, us⟩, -, h⟩ := Option.bind_eq_some_iff.1 h
      dsimp only at h
      split at h
      · exact plain_comprehension _ _ _ _ _ _ h
      · obtain ⟨⟨es, us⟩, -, h⟩ := Option.bind_eq_some_iff.1 h
        obtain rfl := Option.some.inj h
        rfl

theorem plain_atom (n : Nat) : Plain (atom n) := by
  intro ts x h
  cases n with
  | zero => contradiction
  | succ n =>
    unfold atom at h
    split at h
    · contradiction
    · obtain rfl := Option.some.inj h
      rfl
    · obtain ⟨⟨a, us⟩, -, h⟩ := Option.bind_eq_some_iff.1 h
      dsimp only at h
      split at h
      · split at h
        · contradiction
        · obtain rfl := Option.some.inj h
          rfl
      · exact plain_comprehension _ _ _ _ _ _ h
      · obtain ⟨⟨es, us⟩, -, h⟩ := Option.bind_eq_some_iff.1 h
        obtain rfl := Option.some.inj h
        rfl
    · obtain rfl := Option.some.inj h
      rfl
    · obtain ⟨⟨a, us⟩, -, h⟩ := Option.bind_eq_some_iff.1 h
      dsimp only at h
      split at h
      · exact plain_comprehension _ _ _ _ _ _ h
      · obtain ⟨⟨es, us⟩, -, h⟩ := Option.bind_eq_some_iff.1 h
        obtain rfl := Option.some.inj h
        rfl
    · exact plain_braced _ _ _ h
    · exact plain_leaf? _ _ h

theorem plain_trailers (n : Nat) (ha : a.isStarred = false) : Plain (trailers n a) := by
  induction n generalizing a with
  | zero => exact fun _ _ h => by contradiction
  | succ n ih =>
    intro ts x h
    unfold trailers at h
    split at h
    · contradiction
    · next hn =>
      obtain rfl := Nat.succ.inj hn
      exact ih rfl _ _ h
    · next hn =>
      obtain rfl := Nat.succ.inj hn
      obtain ⟨⟨as, us⟩, -, h⟩ := Option.bind_eq_some_iff.1 h
      obtain ⟨-, -, h⟩ := Option.bind_eq_some_iff.1 h
      exact ih rfl _ _ h
    · next hn =>
      obtain rfl := Nat.succ.inj hn
      obtain ⟨⟨i, us⟩, -, h⟩ := Option.bind_eq_some_iff.1 h
      obtain ⟨us, -, h⟩ := Option.bind_eq_some_iff.1 h
      exact ih rfl _ _ h
    · contradiction
    · obtain rfl := Option.some.inj h
      exact ha

theorem plain_primary (n : Nat) : Plain (primary n) := by
  intro ts x h
  cases n with
  | zero => contradiction
  | succ n =>
    obtain ⟨⟨a, us⟩, ha, h⟩ := Option.bind_eq_some_iff.1 h
    exact plain_trailers n (plain_atom n _ _ ha) _ _ h

theorem plain_signed (n : Nat) : Plain (signed n) := by
  intro ts x h
  cases n with
  | zero => contradiction
  | succ n =>
    rw [signed] at h
    split at h
    · obtain ⟨y, -, h⟩ := Option.bind_eq_some_iff.1 h
      obtain rfl := Option.some.inj h
      rfl
    · obtain ⟨y, hy, h⟩ := Option.bind_eq_some_iff.1 h
      dsimp only at h
      split at h
      · obtain rfl := Option.some.inj h
        exact plain_primary n _ _ hy
      · obtain ⟨z, -, h⟩ := Option.bind_eq_some_iff.1 h
        obtain rfl := Option.some.inj h
        rfl

theorem plain_binaryRest (n level : Nat) (ha : a.isStarred = false) :
    Plain (binaryRest n level a) := by
  induction n generalizing a with
  | zero => exact fun _ _ h => by contradiction
  | succ n ih =>
    intro ts x h
    rw [binaryRest] at h
    split at h
    · obtain rfl := Option.some.inj h
      exact ha
    · dsimp only at h
      split at h
      · obtain ⟨y, -, h⟩ := Option.bind_eq_some_iff.1 h
        exact ih rfl _ _ h
      · obtain ⟨y, -, h⟩ := Option.bind_eq_some_iff.1 h
        exact ih rfl _ _ h

theorem plain_binary (n level : Nat) : Plain (binary n level) := by
  induction level generalizing n with
  | zero =>
    intro ts x h
    cases n with
    | zero => contradiction
    | succ n =>
      obtain ⟨y, hy, h⟩ := Option.bind_eq_some_iff.1 h
      exact plain_binaryRest n 0 (plain_signed n _ _ hy) _ _ h
  | succ level ih =>
    intro ts x h
    cases n with
    | zero => contradiction
    | succ n =>
      obtain ⟨y, hy, h⟩ := Option.bind_eq_some_iff.1 h
      exact plain_binaryRest n _ (ih n _ _ hy) _ _ h

theorem plain_inversion (n : Nat) : Plain (inversion n) := by
  intro ts x h
  cases n with
  | zero => contradiction
  | succ n =>
    rw [inversion] at h
    split at h
    · obtain ⟨y, -, h⟩ := Option.bind_eq_some_iff.1 h
      obtain rfl := Option.some.inj h
      rfl
    · obtain ⟨y, hy, h⟩ := Option.bind_eq_some_iff.1 h
      obtain ⟨z, -, h⟩ := Option.bind_eq_some_iff.1 h
      obtain rfl := Option.some.inj h
      dsimp only
      split
      · exact plain_binary n _ _ _ hy
      · rfl

theorem plain_conjunction (n : Nat) : Plain (conjunction n) := by
  intro ts x h
  cases n with
  | zero => contradiction
  | succ n =>
    obtain ⟨y, hy, h⟩ := Option.bind_eq_some_iff.1 h
    dsimp only at h
    split at h
    · obtain rfl := Option.some.inj h
      exact plain_inversion n _ _ hy
    · obtain ⟨z, -, h⟩ := Option.bind_eq_some_iff.1 h
      obtain rfl := Option.some.inj h
      rfl

theorem plain_disjunction (n : Nat) : Plain (disjunction n) := by
  intro ts x h
  cases n with
  | zero => contradiction
  | succ n =>
    obtain ⟨y, hy, h⟩ := Option.bind_eq_some_iff.1 h
    dsimp only at h
    split at h
    · obtain rfl := Option.some.inj h
      exact plain_conjunction n _ _ hy
    · obtain ⟨z, -, h⟩ := Option.bind_eq_some_iff.1 h
      obtain rfl := Option.some.inj h
      rfl

theorem plain_expression (n : Nat) : Plain (expression n) := by
  intro ts x h
  cases n with
  | zero => contradiction
  | succ n =>
    unfold expression at h
    split at h
    · contradiction
    · obtain ⟨y, -, h⟩ := Option.bind_eq_some_iff.1 h
      obtain ⟨ps, -, h⟩ := Option.bind_eq_some_iff.1 h
      obtain ⟨z, -, h⟩ := Option.bind_eq_some_iff.1 h
      obtain rfl := Option.some.inj h
      rfl
    · obtain ⟨y, hy, h⟩ := Option.bind_eq_some_iff.1 h
      dsimp only at h
      split at h
      · obtain rfl := Option.some.inj h
        exact plain_disjunction _ _ _ hy
      · obtain ⟨z, -, h⟩ := Option.bind_eq_some_iff.1 h
        obtain ⟨us, -, h⟩ := Option.bind_eq_some_iff.1 h
        obtain ⟨w, -, h⟩ := Option.bind_eq_some_iff.1 h
        obtain rfl := Option.some.inj h
        rfl

theorem expressions_of_expression (h : expression n ts = some (e, r)) (hn : n < fuel ts)
    (hr : symbol? .comma r = none) : expressions ts = some (e, r) := by
  have hitem : item (fuel ts) ts = some (e, r) := by
    obtain ⟨m, hm⟩ : ∃ k, fuel ts = k + 1 := ⟨fuel ts - 1, by omega⟩
    have hread := (stable (show n ≤ m by omega)).expression ts e r [] rfl h
    rw [List.append_nil, List.append_nil] at hread
    rw [hm, item, symbol?_of_expression h rfl]
    exact hread
  have hplain := plain_expression n _ _ h
  simp only at hplain
  simp [expressions, hitem, hr, hplain]

end TemplateEngine.Script.Grammar
