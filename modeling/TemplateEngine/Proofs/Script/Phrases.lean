import Mathlib.Data.Option.Basic
import TemplateEngine.Script.Grammar.Expression

set_option autoImplicit false

/-!
# What follows a phrase

A phrase is read in the same way whatever closes behind it, and whatever greater number bounds the
calls. Reading is followed from one level of the grammar to the next.
-/
namespace TemplateEngine.Script.Grammar

def closes : List Lexeme → Bool
  | [] => true
  | .symbol s :: _ => s = .parenClose || s = .colon
  | _ => false

/-- What the first function reads, the second one reads too where something closes behind it. -/
def Keeps {α : Type} (p q : List Lexeme → Option (α × Rest)) : Prop :=
  ∀ ts x r s, closes s = true → p ts = some (x, r) → q (ts ++ s) = some (x, r ++ s)

def KeepsOpen {α : Type} (p q : List Lexeme → Option (α × Rest)) : Prop :=
  ∀ ts x r s, closes s = true → r ≠ [] → p ts = some (x, r) → q (ts ++ s) = some (x, r ++ s)

/-- A look at the first lexemes that what closes behind them does not change. -/
def Looks {α : Type} (l : List Lexeme → Option (α × Rest)) : Prop :=
  ∀ ts s, closes s = true → l (ts ++ s) = (l ts).map fun x => (x.1, x.2 ++ s)

variable {α β : Type} {ts r s : List Lexeme} {n m : Nat}

theorem closes_cases (h : closes s = true) :
    s = [] ∨ (∃ t, s = .symbol .parenClose :: t) ∨ ∃ t, s = .symbol .colon :: t := by
  unfold closes at h
  split at h
  · exact .inl rfl
  · simp only [Bool.or_eq_true, decide_eq_true_eq] at h
    obtain rfl | rfl := h
    · exact .inr (.inl ⟨_, rfl⟩)
    · exact .inr (.inr ⟨_, rfl⟩)
  · contradiction

theorem eq_cons_of_append {t : Lexeme} {us : List Lexeme} (hs : closes s = true)
    (h : ts ++ s = t :: us) (ht : closes [t] = false) : ∃ vs, ts = t :: vs ∧ us = vs ++ s := by
  cases ts with
  | nil =>
    obtain rfl | ⟨v, rfl⟩ | ⟨v, rfl⟩ := closes_cases hs
    · contradiction
    · rw [← (List.cons.inj h).1] at ht
      contradiction
    · rw [← (List.cons.inj h).1] at ht
      contradiction
  | cons v vs =>
    obtain ⟨rfl, rfl⟩ := List.cons.inj h
    exact ⟨vs, rfl, rfl⟩

theorem symbol?_append {c : Symbol} (h : symbol? c ts = some r) :
    symbol? c (ts ++ s) = some (r ++ s) := by
  unfold symbol? at h
  split at h
  · next t ts =>
    simp only [Option.ite_none_right_eq_some, Option.some.injEq] at h
    simp [symbol?, h.1, h.2]
  · contradiction

theorem symbol?_append_none {c : Symbol} (hs : closes s = true) (h : symbol? c ts = none)
    (hc : ts ≠ [] ∨ c ≠ .parenClose ∧ c ≠ .colon) : symbol? c (ts ++ s) = none := by
  cases ts with
  | nil =>
    have hc := hc.resolve_left fun h => h rfl
    obtain rfl | ⟨t, rfl⟩ | ⟨t, rfl⟩ := closes_cases hs
    · rfl
    · simp [symbol?, hc.1.symm]
    · simp [symbol?, hc.2.symm]
  | cons t ts => cases t <;> simp_all [symbol?]

theorem word?_append {w : Word} (h : word? w ts = some r) : word? w (ts ++ s) = some (r ++ s) := by
  unfold word? at h
  split at h
  · next t ts =>
    simp only [Option.ite_none_right_eq_some, Option.some.injEq] at h
    simp [word?, h.1, h.2]
  · contradiction

theorem word?_append_none {w : Word} (hs : closes s = true) (h : word? w ts = none) :
    word? w (ts ++ s) = none := by
  cases ts with
  | nil => obtain rfl | ⟨t, rfl⟩ | ⟨t, rfl⟩ := closes_cases hs <;> rfl
  | cons t ts => cases t <;> simp_all [word?]

theorem Looks.cases {l : List Lexeme → Option (α × Rest)} (h : Looks l) (ts : List Lexeme)
    (hs : closes s = true) :
    l ts = none ∧ l (ts ++ s) = none ∨
      ∃ a u, l ts = some (a, u) ∧ l (ts ++ s) = some (a, u ++ s) := by
  rw [h ts s hs]
  cases l ts with
  | none => exact .inl ⟨rfl, rfl⟩
  | some x => exact .inr ⟨x.1, x.2, rfl, rfl⟩

theorem looks_comparison? : Looks comparison? := by
  intro ts s hs
  rcases ts with _ | ⟨t, _ | ⟨u, ts⟩⟩
  · obtain rfl | ⟨t, rfl⟩ | ⟨t, rfl⟩ := closes_cases hs <;> rfl
  · obtain rfl | ⟨u, rfl⟩ | ⟨u, rfl⟩ := closes_cases hs
    · simp
    · unfold comparison?
      grind
    · unfold comparison?
      grind
  · cases t with
    | symbol c => cases c <;> rfl
    | word w =>
      cases w <;> first
        | rfl
        | cases u with
          | word v => cases v <;> rfl
          | _ => rfl
    | _ => rfl

theorem looks_operatorAt? (level : Nat) : Looks (operatorAt? level) := by
  intro ts s hs
  cases ts with
  | nil => obtain rfl | ⟨t, rfl⟩ | ⟨t, rfl⟩ := closes_cases hs <;> rfl
  | cons t ts =>
    unfold operatorAt?
    grind

theorem looks_sign? : Looks sign? := by
  intro ts s hs
  cases ts with
  | nil => obtain rfl | ⟨t, rfl⟩ | ⟨t, rfl⟩ := closes_cases hs <;> rfl
  | cons t ts =>
    unfold sign?
    grind

theorem joinTexts_append (hs : closes s = true) :
    joinTexts (ts ++ s) = ((joinTexts ts).1, (joinTexts ts).2 ++ s) := by
  induction ts with
  | nil => obtain rfl | ⟨t, rfl⟩ | ⟨t, rfl⟩ := closes_cases hs <;> rfl
  | cons t ts ih => cases t <;> simp [joinTexts, ih]

theorem keeps_leaf? : Keeps leaf? leaf? := by
  intro ts x r s hs h
  cases ts with
  | nil => contradiction
  | cons t ts =>
    rw [List.cons_append]
    cases t with
    | word w => cases w <;> simp_all [leaf?]
    | symbol c => cases c <;> simp_all [leaf?]
    | _ => simp_all [leaf?, joinTexts_append]

theorem startsExpression_append (hs : closes s = true) :
    startsExpression (ts ++ s) = startsExpression ts := by
  cases ts with
  | nil => obtain rfl | ⟨t, rfl⟩ | ⟨t, rfl⟩ := closes_cases hs <;> rfl
  | cons t ts => cases t <;> rfl

theorem startsItem_append (hs : closes s = true) : startsItem (ts ++ s) = startsItem ts := by
  rw [startsItem, startsItem, startsExpression_append hs]
  cases h : symbol? (.operator .multiply) ts with
  | none => rw [symbol?_append_none hs h (.inr (by simp))]
  | some r => rw [symbol?_append h, Option.isSome_some, Option.isSome_some]

namespace Keeps

variable {p q p' q' : List Lexeme → Option (α × Rest)} {f g : α → List Lexeme → Option (β × Rest)}

theorem pure (a : α) : Keeps (fun ts => some (a, ts)) (fun ts => some (a, ts)) := by
  intro ts x r s _ h
  obtain ⟨rfl, rfl⟩ := Prod.mk.inj (Option.some.inj h)
  rfl

theorem none (q : List Lexeme → Option (α × Rest)) : Keeps (fun _ => Option.none) q := by
  intro ts x r s _ h
  contradiction

theorem bind (h : Keeps p q) (hf : ∀ a, Keeps (f a) (g a)) :
    Keeps (fun ts => p ts >>= fun x => f x.1 x.2) (fun ts => q ts >>= fun x => g x.1 x.2) := by
  intro ts x r s hs hx
  obtain ⟨y, hy, hx⟩ := Option.bind_eq_some_iff.1 hx
  exact Option.bind_eq_some_iff.2 ⟨_, h ts y.1 y.2 s hs hy, hf y.1 y.2 x r s hs hx⟩

theorem guarded (c : Prop) [Decidable c] (h : Keeps p q) :
    Keeps (fun ts => guard c >>= fun _ : Unit => p ts)
      (fun ts => guard c >>= fun _ : Unit => q ts) := by
  intro ts x r s hs hx
  obtain ⟨u, hu, hx⟩ := Option.bind_eq_some_iff.1 hx
  exact Option.bind_eq_some_iff.2 ⟨u, hu, h ts x r s hs hx⟩

theorem ite (c : Prop) [Decidable c] (hp : Keeps p p') (hq : Keeps q q') :
    Keeps (fun ts => if c then p ts else q ts) (fun ts => if c then p' ts else q' ts) := by
  by_cases hc : c
  · simpa [hc] using hp
  · simpa [hc] using hq

theorem symbol (c : Symbol) (h : Keeps p q) :
    Keeps (fun ts => symbol? c ts >>= p) (fun ts => symbol? c ts >>= q) := by
  intro ts x r s hs hx
  obtain ⟨u, hu, hx⟩ := Option.bind_eq_some_iff.1 hx
  exact Option.bind_eq_some_iff.2 ⟨_, symbol?_append hu, h u x r s hs hx⟩

theorem word (w : Word) (h : Keeps p q) :
    Keeps (fun ts => word? w ts >>= p) (fun ts => word? w ts >>= q) := by
  intro ts x r s hs hx
  obtain ⟨u, hu, hx⟩ := Option.bind_eq_some_iff.1 hx
  exact Option.bind_eq_some_iff.2 ⟨_, word?_append hu, h u x r s hs hx⟩

theorem ifWord (w : Word) (hp : Keeps p p') (hq : Keeps q q') :
    Keeps (fun ts => match word? w ts with | .none => p ts | some ts => q ts)
      (fun ts => match word? w ts with | .none => p' ts | some ts => q' ts) := by
  intro ts x r s hs hx
  dsimp only at hx ⊢
  cases h : word? w ts with
  | none =>
    rw [h] at hx
    rw [word?_append_none hs h]
    exact hp ts x r s hs hx
  | some u =>
    rw [h] at hx
    rw [word?_append h]
    exact hq u x r s hs hx

/-- Where a symbol that may close something is not there, something else has to be. -/
theorem ifSymbol (c : Symbol) (hc : c ≠ .parenClose ∧ c ≠ .colon ∨ p [] = .none) (hp : Keeps p p')
    (hq : Keeps q q') :
    Keeps (fun ts => match symbol? c ts with | .none => p ts | some ts => q ts)
      (fun ts => match symbol? c ts with | .none => p' ts | some ts => q' ts) := by
  intro ts x r s hs hx
  dsimp only at hx ⊢
  cases h : symbol? c ts with
  | none =>
    rw [h] at hx
    have hne : ts ≠ [] ∨ c ≠ .parenClose ∧ c ≠ .colon := by
      obtain hc | hnil := hc
      · exact .inr hc
      · refine .inl fun hts => ?_
        rw [hts, hnil] at hx
        contradiction
    rw [symbol?_append_none hs h hne]
    exact hp ts x r s hs hx
  | some u =>
    rw [h] at hx
    rw [symbol?_append h]
    exact hq u x r s hs hx

theorem whenWord (w : Word) (hq : Keeps q q') (hp : Keeps p p') :
    Keeps (fun ts => match word? w ts with | some ts => q ts | .none => p ts)
      (fun ts => match word? w ts with | some ts => q' ts | .none => p' ts) := by
  intro ts x r s hs hx
  have h := ifWord w hp hq ts x r s hs
  cases hw : word? w ts <;> cases hw' : word? w (ts ++ s) <;> simp_all

theorem whenSymbol (c : Symbol) (hc : c ≠ .parenClose ∧ c ≠ .colon ∨ p [] = .none)
    (hq : Keeps q q') (hp : Keeps p p') :
    Keeps (fun ts => match symbol? c ts with | some ts => q ts | .none => p ts)
      (fun ts => match symbol? c ts with | some ts => q' ts | .none => p' ts) := by
  intro ts x r s hs hx
  have h := ifSymbol c hc hp hq ts x r s hs
  cases hw : symbol? c ts <;> cases hw' : symbol? c (ts ++ s) <;> simp_all

theorem peekWord (w : Word) (hq : Keeps q q') (hp : Keeps p p') :
    Keeps (fun ts => match word? w ts with | some _ => q ts | .none => p ts)
      (fun ts => match word? w ts with | some _ => q' ts | .none => p' ts) := by
  intro ts x r s hs hx
  dsimp only at hx ⊢
  cases h : word? w ts with
  | none =>
    rw [h] at hx
    rw [word?_append_none hs h]
    exact hp ts x r s hs hx
  | some u =>
    rw [h] at hx
    rw [word?_append h]
    exact hq ts x r s hs hx

theorem known {γ : Type} (o : Option γ) {f g : γ → List Lexeme → Option (α × Rest)}
    (h : ∀ c, Keeps (f c) (g c)) :
    Keeps (fun ts => o >>= fun c => f c ts) (fun ts => o >>= fun c => g c ts) := by
  intro ts x r s hs hx
  obtain ⟨c, hc, hx⟩ := Option.bind_eq_some_iff.1 hx
  exact Option.bind_eq_some_iff.2 ⟨c, hc, h c ts x r s hs hx⟩

theorem toOpen (h : Keeps p q) : KeepsOpen p q := fun ts x r s hs _ hx => h ts x r s hs hx

end Keeps

theorem atom_nil : ∀ n, atom n [] = none
  | 0 | _ + 1 => rfl

theorem primary_nil : ∀ n, primary n [] = none
  | 0 => rfl
  | n + 1 => by simp [primary, atom_nil]

theorem signed_nil : ∀ n, signed n [] = none
  | 0 => rfl
  | n + 1 => by simp [signed, sign?, primary_nil]

theorem binary_nil (n level : Nat) : binary n level [] = none := by
  induction level generalizing n with
  | zero =>
    cases n with
    | zero => rfl
    | succ n => simp [binary, signed_nil]
  | succ level ih =>
    cases n with
    | zero => rfl
    | succ n => simp [binary, ih]

theorem inversion_nil : ∀ n, inversion n [] = none
  | 0 => rfl
  | n + 1 => by simp [inversion, word?, binary_nil]

theorem conjunction_nil : ∀ n, conjunction n [] = none
  | 0 => rfl
  | n + 1 => by simp [conjunction, inversion_nil]

theorem disjunction_nil : ∀ n, disjunction n [] = none
  | 0 => rfl
  | n + 1 => by simp [disjunction, conjunction_nil]

theorem expression_nil : ∀ n, expression n [] = none
  | 0 => rfl
  | n + 1 => by simp [expression, disjunction_nil]

theorem item_nil : ∀ n, item n [] = none
  | 0 => rfl
  | n + 1 => by simp [item, symbol?, expression_nil]

theorem items_nil (c : Symbol) : ∀ n, items n c [] = none
  | 0 | _ + 1 => rfl

theorem argument_nil : ∀ n, argument n [] = none
  | 0 => rfl
  | n + 1 => by simp [argument, expression_nil]

theorem parameterItem_nil : ∀ n, parameterItem n [] = none
  | 0 | _ + 1 => rfl

/-- What an item behind an opening parenthesis becomes: itself, a generator or the first of a tuple. -/
def behindItem (n : Nat) (a : Expr) (ts : List Lexeme) : Option (Expr × Rest) :=
  match symbol? .parenClose ts with
  | some ts => if a.isStarred then none else some (Expr.grouped a, ts)
  | none =>
    match word? .for_ ts with
    | some _ => comprehension n .iterator a .parenClose ts
    | none => items n .parenClose ts >>= fun es => some (Expr.tuple (a :: es.1), es.2)

theorem behindItem_eq (n : Nat) (a : Expr) (ts : List Lexeme) : behindItem n a ts =
    match symbol? .parenClose ts, word? .for_ ts with
    | some ts, _ => if a.isStarred then none else some (Expr.grouped a, ts)
    | none, some _ => comprehension n .iterator a .parenClose ts
    | none, none => items n .parenClose ts >>= fun es => some (Expr.tuple (a :: es.1), es.2) := by
  unfold behindItem
  cases symbol? .parenClose ts <;> cases word? .for_ ts <;> rfl

/-- Every level reads the same within a greater bound and in front of what closes. What stands in a
subscript has to leave something, for a colon behind it would make a slice of it. -/
structure Stable (n m : Nat) : Prop where
  expression : Keeps (expression n) (expression m)
  parameterItems : ∀ c, Keeps (parameterItems n c) (parameterItems m c)
  parameterItem : Keeps (parameterItem n) (parameterItem m)
  disjunction : Keeps (disjunction n) (disjunction m)
  conjunction : Keeps (conjunction n) (conjunction m)
  inversion : Keeps (inversion n) (inversion m)
  compared : Keeps (compared n) (compared m)
  binary : ∀ level, Keeps (binary n level) (binary m level)
  binaryRest : ∀ level a, Keeps (binaryRest n level a) (binaryRest m level a)
  signed : Keeps (signed n) (signed m)
  primary : Keeps (primary n) (primary m)
  trailers : ∀ a, Keeps (trailers n a) (trailers m a)
  atom : Keeps (atom n) (atom m)
  item : Keeps (item n) (item m)
  items : ∀ c, Keeps (items n c) (items m c)
  comprehension : ∀ kind a c, Keeps (comprehension n kind a c) (comprehension m kind a c)
  braced : Keeps (braced n) (braced m)
  entry : Keeps (entry n) (entry m)
  entries : Keeps (entries n) (entries m)
  arguments : ∀ first, Keeps (arguments n first) (arguments m first)
  argument : Keeps (argument n) (argument m)
  index : KeepsOpen (index n) (index m)
  slices : KeepsOpen (slices n) (slices m)
  slice : KeepsOpen (slice n) (slice m)
  bound : Keeps (bound n) (bound m)
  clauses : Keeps (clauses n) (clauses m)
  conditions : Keeps (conditions n) (conditions m)
  targets : Keeps (targets n) (targets m)
  target : Keeps (target n) (target m)
  moreTargets : Keeps (moreTargets n) (moreTargets m)

namespace Stable

section

variable (h : Stable n m)
include h

theorem next_expression : Keeps (Grammar.expression (n + 1)) (Grammar.expression (m + 1)) := by
  intro ts x r s hs hx
  have hplain : Keeps
      (fun ts => Grammar.disjunction n ts >>= fun a => match word? .if_ a.2 with
        | none => some (a.1, a.2)
        | some ts => Grammar.disjunction n ts >>= fun b => word? .else_ b.2 >>= fun ts =>
          Grammar.expression n ts >>= fun c => some (Expr.conditional b.1 a.1 c.1, c.2))
      (fun ts => Grammar.disjunction m ts >>= fun a => match word? .if_ a.2 with
        | none => some (a.1, a.2)
        | some ts => Grammar.disjunction m ts >>= fun b => word? .else_ b.2 >>= fun ts =>
          Grammar.expression m ts >>= fun c => some (Expr.conditional b.1 a.1 c.1, c.2)) :=
    h.disjunction.bind fun a => .ifWord .if_ (.pure a) (h.disjunction.bind fun b =>
      .word .else_ (h.expression.bind fun c => .pure (Expr.conditional b a c)))
  by_cases hlambda : ∃ us, ts = .word .lambda :: us
  · obtain ⟨us, rfl⟩ := hlambda
    have hread : Keeps
        (fun ts => Grammar.parameterItems n .colon ts >>= fun is => parametersOf? is.1 >>= fun ps =>
          Grammar.expression n is.2 >>= fun e => some (Expr.lambda ps e.1, e.2))
        (fun ts => Grammar.parameterItems m .colon ts >>= fun is => parametersOf? is.1 >>= fun ps =>
          Grammar.expression m is.2 >>= fun e => some (Expr.lambda ps e.1, e.2)) :=
      (h.parameterItems .colon).bind fun is => .known (parametersOf? is) fun ps =>
        h.expression.bind fun e => .pure (Expr.lambda ps e)
    exact hread us x r s hs hx
  · have hother : ∀ us, ts ≠ .word .lambda :: us := fun us hus => hlambda ⟨us, hus⟩
    have happend : ∀ us, ts ++ s ≠ .word .lambda :: us := by
      intro us hus
      obtain ⟨vs, hvs, -⟩ := eq_cons_of_append hs hus rfl
      exact hother vs hvs
    rw [Grammar.expression] at hx ⊢
    · exact hplain ts x r s hs hx
    · exact happend
    · exact hother

theorem next_disjunction : Keeps (Grammar.disjunction (n + 1)) (Grammar.disjunction (m + 1)) :=
  h.conjunction.bind fun a => .ifWord .or (.pure a)
    (h.disjunction.bind fun b => .pure (Expr.either a b))

theorem next_conjunction : Keeps (Grammar.conjunction (n + 1)) (Grammar.conjunction (m + 1)) :=
  h.inversion.bind fun a => .ifWord .and (.pure a)
    (h.conjunction.bind fun b => .pure (Expr.both a b))

theorem next_inversion : Keeps (Grammar.inversion (n + 1)) (Grammar.inversion (m + 1)) :=
  .whenWord .not (h.inversion.bind fun a => .pure (Expr.unary .not a))
    ((h.binary topLevel).bind fun a => h.compared.bind fun others =>
      .pure (if others.isEmpty then a else Expr.compare a others))

theorem next_compared : Keeps (Grammar.compared (n + 1)) (Grammar.compared (m + 1)) := by
  intro ts x r s hs hx
  rw [Grammar.compared] at hx ⊢
  obtain ⟨h1, h2⟩ | ⟨op, u, h1, h2⟩ := looks_comparison?.cases ts hs
  · rw [h1] at hx
    rw [h2]
    exact Keeps.pure [] ts x r s hs hx
  · rw [h1] at hx
    rw [h2]
    exact ((h.binary topLevel).bind fun a => h.compared.bind fun others =>
      .pure ((op, a) :: others)) u x r s hs hx

theorem next_binary (level : Nat) :
    Keeps (Grammar.binary (n + 1) level) (Grammar.binary (m + 1) level) := by
  cases level with
  | zero => exact h.signed.bind fun a => h.binaryRest 0 a
  | succ level => exact (h.binary level).bind fun a => h.binaryRest (level + 1) a

theorem next_binaryRest (level : Nat) (a : Expr) :
    Keeps (Grammar.binaryRest (n + 1) level a) (Grammar.binaryRest (m + 1) level a) := by
  intro ts x r s hs hx
  rw [Grammar.binaryRest] at hx ⊢
  obtain ⟨h1, h2⟩ | ⟨op, u, h1, h2⟩ := (looks_operatorAt? level).cases ts hs
  · rw [h1] at hx
    rw [h2]
    exact Keeps.pure a ts x r s hs hx
  · rw [h1] at hx
    rw [h2]
    by_cases hlevel : level = 0
    · simp only [hlevel, if_true] at hx ⊢
      exact (h.signed.bind fun b => h.binaryRest 0 (Expr.binary op a b)) u x r s hs hx
    · simp only [hlevel, if_false] at hx ⊢
      exact ((h.binary (level - 1)).bind fun b => h.binaryRest level (Expr.binary op a b))
        u x r s hs hx

theorem next_signed : Keeps (Grammar.signed (n + 1)) (Grammar.signed (m + 1)) := by
  intro ts x r s hs hx
  rw [Grammar.signed] at hx ⊢
  obtain ⟨h1, h2⟩ | ⟨op, u, h1, h2⟩ := looks_sign?.cases ts hs
  · rw [h1] at hx
    rw [h2]
    exact (h.primary.bind fun a => .ifSymbol (.operator .power) (.inl (by simp)) (.pure a)
      (h.signed.bind fun b => .pure (Expr.binary .power a b))) ts x r s hs hx
  · rw [h1] at hx
    rw [h2]
    exact (h.signed.bind fun a => .pure (Expr.unary op a)) u x r s hs hx

theorem next_primary : Keeps (Grammar.primary (n + 1)) (Grammar.primary (m + 1)) :=
  h.atom.bind h.trailers

theorem next_item : Keeps (Grammar.item (n + 1)) (Grammar.item (m + 1)) :=
  .ifSymbol (.operator .multiply) (.inl (by simp)) h.expression
    ((h.binary topLevel).bind fun e => .pure (Expr.starred e))

theorem next_items (c : Symbol) : Keeps (Grammar.items (n + 1) c) (Grammar.items (m + 1) c) :=
  .whenSymbol c (.inr rfl) (.pure [])
    (.symbol .comma (.whenSymbol c (.inr (by simp [item_nil])) (.pure [])
      (h.item.bind fun e => (h.items c).bind fun es => .pure (e :: es))))

theorem next_parameterItems (c : Symbol) :
    Keeps (Grammar.parameterItems (n + 1) c) (Grammar.parameterItems (m + 1) c) :=
  .whenSymbol c (.inr (by simp [parameterItem_nil])) (.pure [])
    (h.parameterItem.bind fun p => .whenSymbol .comma (.inl (by simp))
      ((h.parameterItems c).bind fun ps => .pure (p :: ps)) (.symbol c (.pure [p])))

theorem next_comprehension (kind : Collection) (a : Expr) (c : Symbol) :
    Keeps (Grammar.comprehension (n + 1) kind a c) (Grammar.comprehension (m + 1) kind a c) :=
  .guarded (!a.isStarred)
    (h.clauses.bind fun cs => .symbol c (.pure (Expr.comprehension kind a cs)))

theorem next_entry : Keeps (Grammar.entry (n + 1)) (Grammar.entry (m + 1)) :=
  .whenSymbol (.operator .power) (.inl (by simp))
    ((h.binary topLevel).bind fun e => .pure (Entry.spread e))
    (h.expression.bind fun k => .symbol .colon (h.expression.bind fun v => .pure (Entry.pair k v)))

theorem next_entries : Keeps (Grammar.entries (n + 1)) (Grammar.entries (m + 1)) :=
  .whenSymbol .braceClose (.inl (by simp)) (.pure [])
    (.symbol .comma (.whenSymbol .braceClose (.inl (by simp)) (.pure [])
      (h.entry.bind fun e => h.entries.bind fun es => .pure (e :: es))))

theorem next_clauses : Keeps (Grammar.clauses (n + 1)) (Grammar.clauses (m + 1)) :=
  .ifWord .for_ (.pure [])
    (h.targets.bind fun target => .word .in_ (h.disjunction.bind fun source =>
      h.conditions.bind fun tests => h.clauses.bind fun cs =>
        .pure (Clause.mk target source tests :: cs)))

theorem next_conditions : Keeps (Grammar.conditions (n + 1)) (Grammar.conditions (m + 1)) :=
  .ifWord .if_ (.pure [])
    (h.disjunction.bind fun e => h.conditions.bind fun es => .pure (e :: es))

theorem next_targets : Keeps (Grammar.targets (n + 1)) (Grammar.targets (m + 1)) :=
  h.target.bind fun a => .ifSymbol .comma (.inl (by simp)) (.guarded (isTarget a) (.pure a))
    (h.moreTargets.bind fun es => .guarded (isTarget (.tuple (a :: es)))
      (.pure (Expr.tuple (a :: es))))

theorem next_moreTargets : Keeps (Grammar.moreTargets (n + 1)) (Grammar.moreTargets (m + 1)) := by
  intro ts x r s hs hx
  rw [Grammar.moreTargets] at hx ⊢
  rw [startsItem_append hs]
  exact (Keeps.ite (startsItem ts) (h.target.bind fun a => .ifSymbol .comma (.inl (by simp))
    (.pure [a]) (h.moreTargets.bind fun es => .pure (a :: es))) (.pure [])) ts x r s hs hx

theorem next_bound : Keeps (Grammar.bound (n + 1)) (Grammar.bound (m + 1)) := by
  intro ts x r s hs hx
  rw [Grammar.bound] at hx ⊢
  rw [startsExpression_append hs]
  exact (Keeps.ite (startsExpression ts) (h.expression.bind fun a => .pure (some a))
    (.pure none)) ts x r s hs hx

theorem next_parameterItem :
    Keeps (Grammar.parameterItem (n + 1)) (Grammar.parameterItem (m + 1)) := by
  intro ts x r s hs hx
  unfold Grammar.parameterItem at hx
  split at hx
  · contradiction
  · cases hx
    rfl
  · cases hx
    rfl
  · next us hno _ =>
    cases hx
    rw [List.cons_append, Grammar.parameterItem]
    intro p vs hvs
    obtain ⟨ws, rfl, -⟩ := eq_cons_of_append hs hvs rfl
    exact hno p ws rfl
  · cases hx
    rfl
  · next k p us hk =>
    obtain rfl := Nat.succ.inj hk
    exact (h.expression.bind fun e => .pure (ParameterItem.parameter (.mk p .plain (some e))))
      us x r s hs hx
  · next us hno _ =>
    cases hx
    rw [List.cons_append, Grammar.parameterItem]
    intro vs hvs
    obtain ⟨ws, rfl, -⟩ := eq_cons_of_append hs hvs rfl
    exact hno ws rfl
  · contradiction

theorem next_subscript (a : Expr) : Keeps
    (fun ts => Grammar.index n ts >>= fun i => symbol? .bracketClose i.2 >>= fun ts =>
      Grammar.trailers n (.subscript a i.1) ts)
    (fun ts => Grammar.index m ts >>= fun i => symbol? .bracketClose i.2 >>= fun ts =>
      Grammar.trailers m (.subscript a i.1) ts) := by
  intro ts x r s hs hx
  obtain ⟨i, hi, hx⟩ := Option.bind_eq_some_iff.1 hx
  obtain ⟨vs, hvs, hx⟩ := Option.bind_eq_some_iff.1 hx
  have hopen : i.2 ≠ [] := by
    intro hnil
    rw [hnil] at hvs
    contradiction
  refine Option.bind_eq_some_iff.2 ⟨(i.1, i.2 ++ s), h.index ts i.1 i.2 s hs hopen hi, ?_⟩
  exact Option.bind_eq_some_iff.2 ⟨vs ++ s, symbol?_append hvs, h.trailers _ vs x r s hs hx⟩

theorem next_trailers (a : Expr) :
    Keeps (Grammar.trailers (n + 1) a) (Grammar.trailers (m + 1) a) := by
  intro ts x r s hs hx
  have hnone := Keeps.pure a ts x r s hs
  cases ts with
  | nil => obtain rfl | ⟨t, rfl⟩ | ⟨t, rfl⟩ := closes_cases hs <;> exact hnone hx
  | cons t us =>
    cases t with
    | symbol c =>
      cases c with
      | dot =>
        cases us with
        | nil => contradiction
        | cons u us =>
          cases u with
          | name y => exact h.trailers (.attribute a y) us x r s hs hx
          | _ => contradiction
      | parenOpen =>
        exact ((h.arguments true).bind fun as =>
          .guarded (argumentsFit [] false false as) (h.trailers (.call a as))) us x r s hs hx
      | bracketOpen => exact h.next_subscript a us x r s hs hx
      | _ => exact hnone hx
    | _ => exact hnone hx

omit h in
theorem atom_paren (n : Nat) (ts : List Lexeme) :
    Grammar.atom (n + 1) (.symbol .parenOpen :: ts) = match symbol? .parenClose ts with
      | some ts => some (Expr.tuple [], ts)
      | none => Grammar.item n ts >>= fun a => behindItem n a.1 a.2 := by
  simp only [behindItem_eq]
  rcases ts with _ | ⟨t, ts⟩
  · rfl
  · cases t with
    | symbol c => cases c <;> rfl
    | _ => rfl

omit h in
theorem atom_bracket (n : Nat) (ts : List Lexeme) :
    Grammar.atom (n + 1) (.symbol .bracketOpen :: ts) = match symbol? .bracketClose ts with
      | some ts => some (Expr.list [], ts)
      | none => Grammar.item n ts >>= fun a =>
        match word? .for_ a.2 with
        | some _ => Grammar.comprehension n .list a.1 .bracketClose a.2
        | none => Grammar.items n .bracketClose a.2 >>= fun es =>
          some (Expr.list (a.1 :: es.1), es.2) := by
  rcases ts with _ | ⟨t, ts⟩
  · rfl
  · cases t with
    | symbol c => cases c <;> rfl
    | _ => rfl

theorem next_behindItem (a : Expr) : Keeps (behindItem n a) (behindItem m a) := by
  have hnil : (match word? .for_ [] with
      | some _ => Grammar.comprehension n .iterator a .parenClose []
      | none => Grammar.items n .parenClose [] >>= fun es => some (Expr.tuple (a :: es.1), es.2)) =
        none := by
    simp [word?, items_nil]
  exact .whenSymbol .parenClose (.inr hnil)
    (.ite (a.isStarred = true) (.none _) (.pure (Expr.grouped a)))
    (.peekWord .for_ (h.comprehension .iterator a .parenClose)
      ((h.items .parenClose).bind fun es => .pure (Expr.tuple (a :: es))))

theorem next_paren : Keeps (fun ts => Grammar.atom (n + 1) (.symbol .parenOpen :: ts))
    (fun ts => Grammar.atom (m + 1) (.symbol .parenOpen :: ts)) := by
  intro ts x r s hs hx
  dsimp only at hx ⊢
  rw [atom_paren] at hx ⊢
  exact Keeps.whenSymbol .parenClose (.inr (by rw [item_nil]; rfl)) (.pure (Expr.tuple []))
    (h.item.bind h.next_behindItem) ts x r s hs hx

theorem next_bracket : Keeps (fun ts => Grammar.atom (n + 1) (.symbol .bracketOpen :: ts))
    (fun ts => Grammar.atom (m + 1) (.symbol .bracketOpen :: ts)) := by
  intro ts x r s hs hx
  dsimp only at hx ⊢
  rw [atom_bracket] at hx ⊢
  exact Keeps.whenSymbol .bracketClose (.inl ⟨by simp, by simp⟩) (.pure (Expr.list []))
    (h.item.bind fun a => .peekWord .for_ (h.comprehension .list a .bracketClose)
      ((h.items .bracketClose).bind fun es => .pure (Expr.list (a :: es)))) ts x r s hs hx

theorem next_atom : Keeps (Grammar.atom (n + 1)) (Grammar.atom (m + 1)) := by
  intro ts x r s hs hx
  cases ts with
  | nil => contradiction
  | cons t us =>
    have hleaf := keeps_leaf? (t :: us) x r s hs
    cases t with
    | symbol c =>
      cases c with
      | parenOpen => exact h.next_paren us x r s hs hx
      | bracketOpen => exact h.next_bracket us x r s hs hx
      | braceOpen => exact h.braced us x r s hs hx
      | _ => exact hleaf hx
    | _ => exact hleaf hx

theorem next_braced : Keeps (Grammar.braced (n + 1)) (Grammar.braced (m + 1)) := by
  intro ts x r s hs hx
  rw [Grammar.braced] at hx ⊢
  cases hclose : symbol? .braceClose ts with
  | some us =>
    rw [hclose] at hx
    rw [symbol?_append hclose]
    exact Keeps.pure (Expr.dict []) us x r s hs hx
  | none =>
    rw [hclose] at hx
    rw [symbol?_append_none hs hclose (.inr (by simp))]
    obtain ⟨⟨e, us⟩, he, hx⟩ := Option.bind_eq_some_iff.1 hx
    refine Option.bind_eq_some_iff.2 ⟨_, h.entry ts e us s hs he, ?_⟩
    have hentries := h.entries.bind fun es => .pure (Expr.dict (e :: es))
    cases e with
    | spread e => exact hentries us x r s hs hx
    | pair k v =>
      dsimp only at hx ⊢
      cases hfor : word? .for_ us with
      | some ws =>
        rw [hfor] at hx
        rw [word?_append hfor]
        exact h.comprehension .dict (.tuple [k, v]) .braceClose us x r s hs hx
      | none =>
        rw [hfor] at hx
        rw [word?_append_none hs hfor]
        exact hentries us x r s hs hx

theorem next_arguments (first : Bool) :
    Keeps (Grammar.arguments (n + 1) first) (Grammar.arguments (m + 1) first) := by
  intro ts x r s hs hx
  rw [Grammar.arguments] at hx ⊢
  cases hclose : symbol? .parenClose ts with
  | some us =>
    rw [hclose] at hx
    rw [symbol?_append hclose]
    exact Keeps.pure [] us x r s hs hx
  | none =>
    have hopen : ts ≠ [] := by
      rintro rfl
      rw [hclose, argument_nil] at hx
      contradiction
    rw [hclose] at hx
    rw [symbol?_append_none hs hclose (.inl hopen)]
    obtain ⟨⟨a, us⟩, ha, hx⟩ := Option.bind_eq_some_iff.1 hx
    refine Option.bind_eq_some_iff.2 ⟨_, h.argument ts a us s hs ha, ?_⟩
    have hlast : Keeps (fun ts => symbol? .parenClose ts >>= fun ts => some ([a], ts))
        (fun ts => symbol? .parenClose ts >>= fun ts => some ([a], ts)) :=
      .symbol .parenClose (.pure [a])
    dsimp only at hx ⊢
    cases hcomma : symbol? .comma us with
    | some vs =>
      rw [hcomma] at hx
      rw [symbol?_append hcomma]
      exact ((h.arguments false).bind fun as => .pure (a :: as)) vs x r s hs hx
    | none =>
      rw [hcomma] at hx
      rw [symbol?_append_none hs hcomma (.inr (by simp))]
      cases a with
      | positional e =>
        cases hfor : word? .for_ us with
        | some ws =>
          rw [hfor] at hx
          rw [word?_append hfor]
          exact (Keeps.guarded first ((h.comprehension .iterator e .parenClose).bind fun e =>
            .pure [Argument.positional e])) us x r s hs hx
        | none =>
          rw [hfor] at hx
          rw [word?_append_none hs hfor]
          exact hlast us x r s hs hx
      | named name e => exact hlast us x r s hs hx
      | spread e => exact hlast us x r s hs hx
      | spreadNamed e => exact hlast us x r s hs hx

theorem next_argument : Keeps (Grammar.argument (n + 1)) (Grammar.argument (m + 1)) := by
  intro ts x r s hs hx
  unfold Grammar.argument at hx
  split at hx
  · contradiction
  · next k us hk =>
    obtain rfl := Nat.succ.inj hk
    exact (h.expression.bind fun e => .pure (Argument.spread e)) us x r s hs hx
  · next k us hk =>
    obtain rfl := Nat.succ.inj hk
    exact (h.expression.bind fun e => .pure (Argument.spreadNamed e)) us x r s hs hx
  · next k name us hk =>
    obtain rfl := Nat.succ.inj hk
    exact (Keeps.guarded (name ≠ debugName)
      (h.expression.bind fun e => .pure (Argument.named name e))) us x r s hs hx
  · next k hk hstar hpower hname =>
    obtain rfl := Nat.succ.inj hk
    rw [Grammar.argument]
    · exact (h.expression.bind fun e => .pure (Argument.positional e)) _ x r s hs hx
    · intro vs hvs
      obtain ⟨ws, hws, -⟩ := eq_cons_of_append hs hvs rfl
      exact hstar ws hws
    · intro vs hvs
      obtain ⟨ws, hws, -⟩ := eq_cons_of_append hs hvs rfl
      exact hpower ws hws
    · intro name vs hvs
      obtain ⟨ws, hws, htail⟩ := eq_cons_of_append hs hvs rfl
      obtain ⟨us, hus, -⟩ := eq_cons_of_append hs htail.symm rfl
      exact hname name us (by rw [hws, hus])

theorem next_target : Keeps (Grammar.target (n + 1)) (Grammar.target (m + 1)) := by
  intro ts x r s hs hx
  unfold Grammar.target at hx
  split at hx
  · contradiction
  · next k us hk =>
    obtain rfl := Nat.succ.inj hk
    exact ((h.binary topLevel).bind fun e => .pure (Expr.starred e)) us x r s hs hx
  · next k hk hstar =>
    obtain rfl := Nat.succ.inj hk
    rw [Grammar.target]
    · exact h.binary topLevel _ x r s hs hx
    · intro vs hvs
      obtain ⟨ws, hws, -⟩ := eq_cons_of_append hs hvs rfl
      exact hstar ws hws

theorem next_sliceRest (a : Option Expr) : KeepsOpen
    (fun ts => Grammar.bound n ts >>= fun b => match symbol? .colon b.2 with
      | none => some (Expr.slice a b.1 none, b.2)
      | some ts => Grammar.bound n ts >>= fun c => some (Expr.slice a b.1 c.1, c.2))
    (fun ts => Grammar.bound m ts >>= fun b => match symbol? .colon b.2 with
      | none => some (Expr.slice a b.1 none, b.2)
      | some ts => Grammar.bound m ts >>= fun c => some (Expr.slice a b.1 c.1, c.2)) := by
  intro ts x r s hs hr hx
  obtain ⟨⟨b, us⟩, hb, hx⟩ := Option.bind_eq_some_iff.1 hx
  refine Option.bind_eq_some_iff.2 ⟨_, h.bound ts b us s hs hb, ?_⟩
  dsimp only at hx ⊢
  cases hcolon : symbol? .colon us with
  | none =>
    rw [hcolon] at hx
    obtain ⟨rfl, rfl⟩ := Prod.mk.inj (Option.some.inj hx)
    rw [symbol?_append_none hs hcolon (.inl hr)]
  | some vs =>
    rw [hcolon] at hx
    rw [symbol?_append hcolon]
    exact (h.bound.bind fun c => .pure (Expr.slice a b c)) vs x r s hs hx

theorem next_slice : KeepsOpen (Grammar.slice (n + 1)) (Grammar.slice (m + 1)) := by
  intro ts x r s hs hr hx
  unfold Grammar.slice at hx
  split at hx
  · contradiction
  · next k us hk =>
    obtain rfl := Nat.succ.inj hk
    exact ((h.binary topLevel).bind fun e => .pure (Expr.starred e)) us x r s hs hx
  · next k hk hstar =>
    obtain rfl := Nat.succ.inj hk
    rw [Grammar.slice]
    · obtain ⟨⟨a, us⟩, ha, hx⟩ := Option.bind_eq_some_iff.1 hx
      refine Option.bind_eq_some_iff.2 ⟨_, h.bound _ a us s hs ha, ?_⟩
      dsimp only at hx ⊢
      cases hcolon : symbol? .colon us with
      | none =>
        rw [hcolon] at hx
        cases a with
        | none => contradiction
        | some a =>
          obtain ⟨rfl, rfl⟩ := Prod.mk.inj (Option.some.inj hx)
          rw [symbol?_append_none hs hcolon (.inl hr)]
      | some vs =>
        rw [hcolon] at hx
        rw [symbol?_append hcolon]
        cases a with
        | none => exact h.next_sliceRest none vs x r s hs hr hx
        | some a => exact h.next_sliceRest (some a) vs x r s hs hr hx
    · intro vs hvs
      obtain ⟨ws, hws, -⟩ := eq_cons_of_append hs hvs rfl
      exact hstar ws hws

theorem next_index : KeepsOpen (Grammar.index (n + 1)) (Grammar.index (m + 1)) := by
  intro ts x r s hs hr hx
  obtain ⟨⟨a, us⟩, ha, hx⟩ := Option.bind_eq_some_iff.1 hx
  have hopen : us ≠ [] := by
    rintro rfl
    obtain ⟨-, rfl⟩ := Prod.mk.inj (Option.some.inj hx)
    contradiction
  refine Option.bind_eq_some_iff.2 ⟨_, h.slice ts a us s hs hopen ha, ?_⟩
  dsimp only at hx ⊢
  cases hcomma : symbol? .comma us with
  | none =>
    rw [hcomma] at hx
    rw [symbol?_append_none hs hcomma (.inl hopen)]
    exact Keeps.pure (if a.isStarred then Expr.tuple [a] else a) us x r s hs hx
  | some vs =>
    rw [hcomma] at hx
    rw [symbol?_append hcomma]
    obtain ⟨⟨es, ws⟩, hes, hx⟩ := Option.bind_eq_some_iff.1 hx
    obtain ⟨rfl, rfl⟩ := Prod.mk.inj (Option.some.inj hx)
    exact Option.bind_eq_some_iff.2 ⟨_, h.slices vs es ws s hs hr hes, rfl⟩

theorem next_slices : KeepsOpen (Grammar.slices (n + 1)) (Grammar.slices (m + 1)) := by
  intro ts x r s hs hr hx
  rw [Grammar.slices] at hx ⊢
  cases hclose : symbol? .bracketClose ts with
  | some us =>
    rw [hclose] at hx
    rw [symbol?_append hclose]
    exact Keeps.pure [] ts x r s hs hx
  | none =>
    rw [hclose] at hx
    rw [symbol?_append_none hs hclose (.inr (by simp))]
    obtain ⟨⟨a, us⟩, ha, hx⟩ := Option.bind_eq_some_iff.1 hx
    have hopen : us ≠ [] := by
      rintro rfl
      obtain ⟨-, rfl⟩ := Prod.mk.inj (Option.some.inj hx)
      contradiction
    refine Option.bind_eq_some_iff.2 ⟨_, h.slice ts a us s hs hopen ha, ?_⟩
    dsimp only at hx ⊢
    cases hcomma : symbol? .comma us with
    | none =>
      rw [hcomma] at hx
      rw [symbol?_append_none hs hcomma (.inl hopen)]
      exact Keeps.pure [a] us x r s hs hx
    | some vs =>
      rw [hcomma] at hx
      rw [symbol?_append hcomma]
      obtain ⟨⟨es, ws⟩, hes, hx⟩ := Option.bind_eq_some_iff.1 hx
      obtain ⟨rfl, rfl⟩ := Prod.mk.inj (Option.some.inj hx)
      exact Option.bind_eq_some_iff.2 ⟨_, h.slices vs es ws s hs hr hes, rfl⟩

end

theorem zero (m : Nat) : Stable 0 m := by
  constructor
  all_goals
    intros
    first
      | exact Keeps.none _
      | exact (Keeps.none _).toOpen

theorem next (h : Stable n m) : Stable (n + 1) (m + 1) where
  expression := h.next_expression
  parameterItems := h.next_parameterItems
  parameterItem := h.next_parameterItem
  disjunction := h.next_disjunction
  conjunction := h.next_conjunction
  inversion := h.next_inversion
  compared := h.next_compared
  binary := h.next_binary
  binaryRest := h.next_binaryRest
  signed := h.next_signed
  primary := h.next_primary
  trailers := h.next_trailers
  atom := h.next_atom
  item := h.next_item
  items := h.next_items
  comprehension := h.next_comprehension
  braced := h.next_braced
  entry := h.next_entry
  entries := h.next_entries
  arguments := h.next_arguments
  argument := h.next_argument
  index := h.next_index
  slices := h.next_slices
  slice := h.next_slice
  bound := h.next_bound
  clauses := h.next_clauses
  conditions := h.next_conditions
  targets := h.next_targets
  target := h.next_target
  moreTargets := h.next_moreTargets

end Stable

/-- Reading depends neither on what closes behind a phrase nor on how far the bound is beyond what is
needed. -/
theorem stable (hnm : n ≤ m) : Stable n m := by
  induction n generalizing m with
  | zero => exact .zero m
  | succ n ih =>
    cases m with
    | zero => omega
    | succ m => exact (ih (by omega)).next

end TemplateEngine.Script.Grammar
