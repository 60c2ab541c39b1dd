import TemplateEngine.Proofs.Script.Names
import TemplateEngine.Proofs.Script.Blind
import TemplateEngine.Script.Variables

set_option autoImplicit false

/-!
# Values apart from secret objects

A value is apart from some objects if none of them can be reached through it alone: it neither is one of
them nor holds one. What is put together from values that are apart is apart again.
-/
namespace TemplateEngine.Script

variable {secret : List Address}

instance (hidden names : List Text) : Decidable (Avoids hidden names) :=
  inferInstanceAs (Decidable (∀ n ∈ names, n ∉ hidden))

mutual

/-- The value leads to none of the secret objects, and only a text has the type of texts. -/
def Value.Apart (secret : List Address) : Value → Prop
  | .tuple items _ | .frozenset items _ | .exception _ items _ => Value.AllApart secret items
  | .slice a b c _ => a.Apart secret ∧ b.Apart secret ∧ c.Apart secret
  | .method v _ _ => v.Apart secret
  | .list a | .dict a | .view _ a _ | .function a => a ∉ secret
  | .iterator t a => a ∉ secret ∧ t ≠ .str
  | _ => True

def Value.AllApart (secret : List Address) : List Value → Prop
  | [] => True
  | v :: vs => v.Apart secret ∧ Value.AllApart secret vs

end

namespace Value

@[simp] theorem allApart_iff {vs : List Value} :
    AllApart secret vs ↔ ∀ v ∈ vs, v.Apart secret := by
  induction vs with
  | nil => simp [AllApart]
  | cons v vs ih => simp [AllApart, ih]

section

variable (i : Int) (n : Nat) (f : Binary64) (c : Complex128) (t : Str) (d : Date) (m : Moment) (b : Bool)
  (id : Identity) (vs : List Value) (v w x : Value) (a : Address)

@[simp] theorem apart_none : Apart secret none := trivial
@[simp] theorem apart_ellipsis : Apart secret ellipsis := trivial
@[simp] theorem apart_bool : Apart secret (bool b) := trivial
@[simp] theorem apart_int : Apart secret (int i id) := trivial
@[simp] theorem apart_float : Apart secret (float f id) := trivial
@[simp] theorem apart_complex : Apart secret (complex c id) := trivial
@[simp] theorem apart_text : Apart secret (text t id) := trivial
@[simp] theorem apart_date : Apart secret (date d id) := trivial
@[simp] theorem apart_moment : Apart secret (moment m id) := trivial
@[simp] theorem apart_range (j k : Int) : Apart secret (range i j k id) := trivial
@[simp] theorem apart_builtin (f : Builtin) : Apart secret (builtin f) := trivial
@[simp] theorem apart_unbound (t : TypeName) (m : Method) : Apart secret (unbound t m) := trivial
@[simp] theorem apart_type (t : TypeName) : Apart secret (type t) := trivial
@[simp] theorem apart_exceptionClass (c : ExceptionClass) : Apart secret (exceptionClass c) := trivial
@[simp] theorem apart_ofInt : Apart secret (ofInt i) := trivial
@[simp] theorem apart_ofNat : Apart secret (ofNat n) := trivial
@[simp] theorem apart_ofFloat : Apart secret (ofFloat f) := trivial
@[simp] theorem apart_ofText : Apart secret (ofText t) := trivial
@[simp] theorem apart_ofChar (c : CodePoint) : Apart secret (ofChar c) := trivial
@[simp] theorem apart_ofNewText : Apart secret (ofNewText t) := trivial
@[simp] theorem apart_ofLiteral : Apart secret (ofLiteral t) := trivial

@[simp] theorem apart_tuple : Apart secret (tuple vs id) ↔ ∀ v ∈ vs, v.Apart secret := allApart_iff
@[simp] theorem apart_ofItems : Apart secret (ofItems vs) ↔ ∀ v ∈ vs, v.Apart secret := allApart_iff
@[simp] theorem apart_frozenset : Apart secret (frozenset vs id) ↔ ∀ v ∈ vs, v.Apart secret :=
  allApart_iff
@[simp] theorem apart_exception (c : ExceptionClass) :
    Apart secret (exception c vs id) ↔ ∀ v ∈ vs, v.Apart secret := allApart_iff
@[simp] theorem apart_slice :
    Apart secret (slice v w x id) ↔ v.Apart secret ∧ w.Apart secret ∧ x.Apart secret := Iff.rfl
@[simp] theorem apart_method (m : Method) : Apart secret (method v m id) ↔ v.Apart secret := Iff.rfl
@[simp] theorem apart_list : Apart secret (list a) ↔ a ∉ secret := Iff.rfl
@[simp] theorem apart_dict : Apart secret (dict a) ↔ a ∉ secret := Iff.rfl
@[simp] theorem apart_view (k : ViewKind) : Apart secret (view k a id) ↔ a ∉ secret := Iff.rfl
@[simp] theorem apart_iterator (t : TypeName) :
    Apart secret (iterator t a) ↔ a ∉ secret ∧ t ≠ .str := Iff.rfl
@[simp] theorem apart_function : Apart secret (function a) ↔ a ∉ secret := Iff.rfl

end

@[simp] theorem apart_typeOf (v : Value) : v.typeOf.Apart secret := by
  cases v <;> trivial

theorem apart_builtin? {n : Text} {v : Value} (h : builtin? n = some v) : v.Apart secret := by
  unfold builtin? at h
  split at h
  · cases h
    trivial
  · split at h
    · cases h
      trivial
    · split at h
      · cases h
        trivial
      · obtain ⟨e, he, rfl⟩ := Option.map_eq_some_iff.1 h
        have hmem : e ∈ constants := List.mem_of_find?_eq_some he
        simp only [constants, List.mem_cons, List.not_mem_nil, or_false] at hmem
        obtain rfl | rfl | rfl | rfl := hmem <;> trivial

theorem apart_withIdentity {v : Value} (h : v.Apart secret) (id : Identity) :
    (v.withIdentity id).Apart secret := by
  cases v <;> exact h

mutual

theorem apart_settle {v : Value} (h : v.Apart secret) (n : Nat) :
    (v.settle n).1.Apart secret := by
  unfold settle
  split
  · split
    · exact h
    · simp only [apart_tuple] at h ⊢
      exact apart_settleAll h (by simp) n
  · split
    · exact h
    · simp only [apart_frozenset] at h ⊢
      exact apart_settleAll h (by simp) n
  · split
    · exact h
    · exact apart_withIdentity h _

theorem apart_settleAll {vs done : List Value} (h : ∀ v ∈ vs, v.Apart secret)
    (hdone : ∀ v ∈ done, v.Apart secret) (n : Nat) :
    ∀ v ∈ (settleAll n done vs).1, v.Apart secret := by
  cases vs with
  | nil => simpa [settleAll] using hdone
  | cons v vs =>
    obtain ⟨hv, hvs⟩ := List.forall_mem_cons.1 h
    rw [settleAll]
    exact apart_settleAll hvs (List.forall_mem_cons.2 ⟨apart_settle hv n, hdone⟩) _

end

end Value

def Item.Apart (secret : List Address) (e : Item) : Prop := e.1.Apart secret ∧ e.2.Apart secret

namespace Dictionary

def Apart (secret : List Address) (d : Dictionary) : Prop :=
  ∀ e : Item, some e ∈ d.slots → Item.Apart secret e

variable {d : Dictionary} {e : Item} {i : Nat}

theorem apart_empty : Apart secret {} := fun e he => by simp at he

theorem Apart.entries (h : d.Apart secret) : ∀ e ∈ d.entries, Item.Apart secret e := by
  intro e he
  simp only [Dictionary.entries, List.mem_filterMap, id_eq, exists_eq_right] at he
  exact h e (by simpa using he)

theorem Apart.keys (h : d.Apart secret) : ∀ v ∈ d.keys, v.Apart secret := by
  intro v hv
  obtain ⟨e, he, rfl⟩ := List.mem_map.1 hv
  exact (h.entries e he).1

theorem Apart.entry? (h : d.Apart secret) (he : d.entry? i = some e) : Item.Apart secret e := by
  simp only [Dictionary.entry?, Option.join_eq_some_iff] at he
  exact h e (Array.mem_of_getElem? he)

theorem Apart.candidates (h : d.Apart secret) (code : Nat) :
    ∀ c ∈ d.candidates code, Item.Apart secret c.2 := by
  intro c hc
  obtain ⟨i, -, hi⟩ := List.mem_filterMap.1 hc
  obtain ⟨e, he, rfl⟩ := Option.map_eq_some_iff.1 hi
  exact h.entry? he

theorem Apart.push (h : d.Apart secret) (he : Item.Apart secret e) : (d.push e).Apart secret := by
  intro e' he'
  simp only [Dictionary.push, Array.mem_push, Option.some.injEq] at he'
  obtain he' | rfl := he'
  · exact h e' he'
  · exact he

theorem apart_ofEntries {es : List Item} (h : ∀ e ∈ es, Item.Apart secret e) :
    (ofEntries es).Apart secret := by
  have hfold : ∀ (d : Dictionary), d.Apart secret → (es.foldl Dictionary.push d).Apart secret := by
    induction es with
    | nil => exact fun d hd => hd
    | cons e es ih =>
      intro d hd
      obtain ⟨he, hes⟩ := List.forall_mem_cons.1 h
      exact ih hes _ (hd.push he)
  exact hfold {} apart_empty

theorem Apart.compact (h : d.Apart secret) : d.compact.Apart secret := by
  unfold Dictionary.compact
  split
  · exact h
  · exact apart_ofEntries h.entries

theorem Apart.setValue (h : d.Apart secret) (i : Nat) {v : Value} (hv : v.Apart secret) :
    (d.setValue i v).Apart secret := by
  intro e he
  obtain ⟨j, hj⟩ := Array.mem_iff_getElem?.1 he
  simp only [Dictionary.setValue, Array.getElem?_modify] at hj
  split at hj
  · obtain ⟨o, ho, he⟩ := Option.map_eq_some_iff.1 hj
    obtain ⟨e', rfl, rfl⟩ := Option.map_eq_some_iff.1 he
    exact ⟨(h e' (Array.mem_of_getElem? ho)).1, hv⟩
  · exact h e (Array.mem_of_getElem? hj)

theorem Apart.erase (h : d.Apart secret) (i : Nat) : (d.erase i).Apart secret := by
  unfold Dictionary.erase
  split
  · exact h
  · intro e he
    obtain ⟨j, hj⟩ := Array.mem_iff_getElem?.1 he
    simp only [Array.getElem?_setIfInBounds] at hj
    split at hj
    · split at hj <;> simp at hj
    · exact h e (Array.mem_of_getElem? hj)

theorem Apart.next? (h : d.Apart secret) {r : Nat × Item} (hr : d.next? i = some r) :
    Item.Apart secret r.2 := by
  have hfrom : ∀ n i, d.entryFrom n i = some r → Item.Apart secret r.2 := by
    intro n
    induction n with
    | zero => exact fun i hi => by simp [entryFrom] at hi
    | succ n ih =>
      intro i hi
      rw [entryFrom] at hi
      split at hi
      · contradiction
      · exact ih _ hi
      · next e he =>
        obtain rfl := Option.some.inj hi
        exact h e (Array.mem_of_getElem? he)
  exact hfrom _ _ hr

end Dictionary

theorem ViewKind.apart_ofEntry (k : ViewKind) {e : Item} (he : Item.Apart secret e) :
    (k.ofEntry e).Apart secret := by
  cases k with
  | keys => exact he.1
  | values => exact he.2
  | items => simpa [ofEntry, Item.Apart] using he

def Cursor.Apart (secret : List Address) : Cursor → Prop
  | .done | .range _ _ _ => True
  | .items vs => ∀ v ∈ vs, v.Apart secret
  | .list a _ | .backwards a _ | .dict _ a _ _ _ | .iterator a | .numbered _ a => a ∉ secret
  | .zipped sources => ∀ a ∈ sources, a ∉ secret

/-- Names of variables that runs leave alone. -/
structure Reserved where
  /-- Variables with these names are not read. -/
  unread : List Text
  /-- Secret variables with these names keep their values. -/
  kept : List Text

mutual

/-- No handler in the statement gives the exception that it is for a name. -/
def Stmt.unnamed : Stmt → Bool
  | .branch _ yes no => Stmt.allUnnamed yes && Stmt.allUnnamed no
  | .loop _ body otherwise | .each _ _ body otherwise =>
    Stmt.allUnnamed body && Stmt.allUnnamed otherwise
  | .attempt body handlers otherwise finally_ =>
    Stmt.allUnnamed body && (Handler.allUnnamed handlers &&
      (Stmt.allUnnamed otherwise && Stmt.allUnnamed finally_))
  | .define _ _ body => Stmt.allUnnamed body
  | _ => true

def Stmt.allUnnamed : List Stmt → Bool
  | [] => true
  | s :: ss => s.unnamed && Stmt.allUnnamed ss

def Handler.allUnnamed : List Handler → Bool
  | [] => true
  | .mk _ name body :: hs => name.isNone && (Stmt.allUnnamed body && Handler.allUnnamed hs)

end

/-- The statement knows no hidden name, and no exception gets into a variable by it. -/
structure Stmt.Unaware (hidden : Reserved) (s : Stmt) : Prop where
  names : Avoids hidden.unread s.names
  unnamed : s.unnamed = true

structure Stmt.AllUnaware (hidden : Reserved) (ss : List Stmt) : Prop where
  names : Avoids hidden.unread (Stmt.namesOfAll ss)
  unnamed : Stmt.allUnnamed ss = true

structure Handler.AllUnaware (hidden : Reserved) (hs : List Handler) : Prop where
  names : Avoids hidden.unread (Handler.namesOfAll hs)
  unnamed : Handler.allUnnamed hs = true

namespace Stmt

variable {hidden : Reserved} {s : Stmt} {ss yes no : List Stmt} {e t : Expr} {hs : List Handler} {x : Text}
  {ps : List Parameter}

theorem allUnaware_cons : AllUnaware hidden (s :: ss) ↔ s.Unaware hidden ∧ AllUnaware hidden ss := by
  constructor
  · rintro ⟨hnames, hunnamed⟩
    simp only [namesOfAll, avoids_append, allUnnamed, Bool.and_eq_true] at hnames hunnamed
    exact ⟨⟨hnames.1, hunnamed.1⟩, hnames.2, hunnamed.2⟩
  · rintro ⟨⟨hs, hu⟩, hss, hv⟩
    exact ⟨avoids_append.2 ⟨hs, hss⟩, by simp [allUnnamed, hu, hv]⟩

theorem Unaware.branch (h : (branch e yes no).Unaware hidden) :
    Avoids hidden.unread e.names ∧ AllUnaware hidden yes ∧ AllUnaware hidden no := by
  obtain ⟨hnames, hunnamed⟩ := h
  simp only [Stmt.names, avoids_append, Stmt.unnamed, Bool.and_eq_true] at hnames hunnamed
  exact ⟨hnames.1, ⟨hnames.2.1, hunnamed.1⟩, hnames.2.2, hunnamed.2⟩

theorem Unaware.loop (h : (loop e yes no).Unaware hidden) :
    Avoids hidden.unread e.names ∧ AllUnaware hidden yes ∧ AllUnaware hidden no := by
  obtain ⟨hnames, hunnamed⟩ := h
  simp only [Stmt.names, avoids_append, Stmt.unnamed, Bool.and_eq_true] at hnames hunnamed
  exact ⟨hnames.1, ⟨hnames.2.1, hunnamed.1⟩, hnames.2.2, hunnamed.2⟩

theorem Unaware.each (h : (each t e yes no).Unaware hidden) : Avoids hidden.unread t.names ∧
    Avoids hidden.unread e.names ∧ AllUnaware hidden yes ∧ AllUnaware hidden no := by
  obtain ⟨hnames, hunnamed⟩ := h
  simp only [Stmt.names, avoids_append, Stmt.unnamed, Bool.and_eq_true] at hnames hunnamed
  exact ⟨hnames.1, hnames.2.1, ⟨hnames.2.2.1, hunnamed.1⟩, hnames.2.2.2, hunnamed.2⟩

theorem Unaware.attempt (h : (attempt ss hs yes no).Unaware hidden) : AllUnaware hidden ss ∧
    Handler.AllUnaware hidden hs ∧ AllUnaware hidden yes ∧ AllUnaware hidden no := by
  obtain ⟨hnames, hunnamed⟩ := h
  simp only [Stmt.names, avoids_append, Stmt.unnamed, Bool.and_eq_true] at hnames hunnamed
  exact ⟨⟨hnames.1, hunnamed.1⟩, ⟨hnames.2.1, hunnamed.2.1⟩, ⟨hnames.2.2.1, hunnamed.2.2.1⟩, hnames.2.2.2,
    hunnamed.2.2.2⟩

theorem Unaware.define (h : (define x ps ss).Unaware hidden) :
    Avoids hidden.unread (Parameter.namesOfAll ps) ∧ AllUnaware hidden ss := by
  obtain ⟨hnames, hunnamed⟩ := h
  simp only [Stmt.names, avoids_cons, avoids_append] at hnames
  exact ⟨hnames.2.1, hnames.2.2, hunnamed⟩

end Stmt

structure Closure.Apart (hidden : Reserved) (secret : List Address) (c : Closure) : Prop where
  defaults : ∀ p ∈ c.parameters, ∀ v, p.default? = some v → v.Apart secret
  body : Stmt.AllUnaware hidden c.body

/-- The scopes are one inside the same scope, and the same but for hidden variables; the other variables
lead to no secret object. -/
structure Scope.Alike (hidden : Reserved) (secret : List Address) (s t : Scope) : Prop where
  outer : t.outer = s.outer
  bindings : ∀ n, n ∉ hidden.unread → t.bindings.find? n = s.bindings.find? n
  apart : ∀ n v, n ∉ hidden.unread → s.bindings.find? n = some (some v) → v.Apart secret

inductive Object.Alike (hidden : Reserved) (secret : List Address) : Object → Object → Prop
  | list {items : Array Value} (h : ∀ v ∈ items, v.Apart secret) : Alike hidden secret (.list items) (.list items)
  | dict {d : Dictionary} (h : d.Apart secret) : Alike hidden secret (.dict d) (.dict d)
  | iterator {c : Cursor} (h : c.Apart secret) : Alike hidden secret (.iterator c) (.iterator c)
  | function {c : Closure} (h : c.Apart hidden secret) : Alike hidden secret (.function c) (.function c)
  | scope {s t : Scope} (h : s.Alike hidden secret t) : Alike hidden secret (.scope s) (.scope t)

end TemplateEngine.Script
