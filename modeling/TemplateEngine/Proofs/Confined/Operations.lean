import TemplateEngine.Proofs.Confined.Iteration

set_option autoImplicit false

namespace TemplateEngine.Script

open Run

variable {hidden : Reserved} {secret : List Address}

theorem apart_of_lookup {ns : List (Str × Value)} (h : ∀ e ∈ ns, e.2.Apart secret) {n : Str}
    {v : Value} (hv : ns.lookup n = some v) : v.Apart secret := by
  obtain ⟨before, after, rfl, -⟩ := List.lookup_eq_some_iff.1 hv
  exact h (n, v) (by simp)

structure Arguments.Apart (secret : List Address) (a : Arguments) : Prop where
  positional : ∀ v ∈ a.positional, v.Apart secret
  named : ∀ e ∈ a.named, e.2.Apart secret

structure Bound.Apart (secret : List Address) (b : Bound) : Prop where
  values : ∀ e ∈ b.values, e.2.Apart secret
  others : ∀ e, b.others = some e → ∀ v ∈ e.2, v.Apart secret
  namedOthers : ∀ e, b.namedOthers = some e → ∀ m ∈ e.2, m.2.Apart secret

namespace Arguments.Apart

variable {a : Arguments} (h : a.Apart secret)
include h

theorem one : Yields (Value.Apart secret) a.one := by
  obtain ⟨positional, named⟩ := a
  unfold Arguments.one
  split
  · next hp _ =>
    dsimp only at hp
    subst hp
    exact .pure (h.positional _ (by simp))
  · exact .error _

theorem plain : Yields (fun vs => ∀ v ∈ vs, v.Apart secret) a.plain := by
  unfold Arguments.plain
  split
  · exact .pure h.positional
  · exact .error _

theorem take (least : Nat) (names : List String) :
    Yields (fun vs => ∀ v, some v ∈ vs → v.Apart secret) (a.take least names) := by
  intro vs hvs
  unfold Arguments.take at hvs
  split at hvs
  · contradiction
  · dsimp only at hvs
    split at hvs
    · contradiction
    · split at hvs
      · split at hvs
        · obtain rfl := Except.ok.inj hvs
          intro v hv
          obtain hv | hv := List.mem_append.1 hv
          · exact h.positional v (by simpa using hv)
          · obtain ⟨m, -, hm⟩ := List.mem_map.1 hv
            exact apart_of_lookup h.named hm
        · contradiction
      · contradiction

theorem namedItems : ∀ e ∈ a.namedItems, Item.Apart secret e := by
  intro e he
  obtain ⟨m, hm, rfl⟩ := List.mem_map.1 he
  exact ⟨trivial, h.named m hm⟩

theorem splitNamed (n : String) : (∀ v, (a.splitNamed n).1 = some v → v.Apart secret) ∧
    (a.splitNamed n).2.Apart secret :=
  ⟨fun _ hv => apart_of_lookup h.named hv,
    ⟨h.positional, fun e he => h.named e (List.mem_filter.1 he).1⟩⟩

theorem bind {ps : List Slot} (hps : ∀ p ∈ ps, ∀ v, p.default? = some v → v.Apart secret) :
    Yields (Bound.Apart secret) (a.bind ps) := by
  have hvalue : ∀ (place : Option Value) (p : Slot), (∀ v, place = some v → v.Apart secret) →
      (∀ v, p.default? = some v → v.Apart secret) →
      Yields (fun e => e.2.Apart secret) (valueOf place a.named p) := by
    intro place p hplace hp
    unfold valueOf
    split
    · exact .error _
    · exact .pure (hplace _ rfl)
    · next hv =>
      refine .pure ?_
      split at hv
      · exact apart_of_lookup h.named hv
      · contradiction
    · split
      · next hv => exact .pure (hp _ hv)
      · exact .error _
  refine .bind fun values hvalues => .bind fun more hmore => ?_
  have hfirst : ∀ e ∈ values, e.2.Apart secret := by
    refine Yields.mapM (fun e he => hvalue e.2 e.1 (fun v hv => ?_) fun v hv => ?_) values hvalues
    · have hmem := (List.of_mem_zip he).2
      rw [hv] at hmem
      obtain hmem | hmem := List.mem_append.1 hmem
      · exact h.positional v (by simpa using hmem)
      · simp at hmem
    · exact hps e.1 (List.mem_filter.1 (List.of_mem_zip he).1).1 v hv
  have hmore : ∀ e ∈ more, e.2.Apart secret :=
    Yields.mapM (fun p hp => hvalue none p nofun (hps p (List.mem_filter.1 hp).1)) more hmore
  dsimp only
  split
  · exact .error _
  · refine .pure ⟨List.forall_mem_append.2 ⟨hfirst, hmore⟩, fun e he => ?_, fun e he => ?_⟩
    · obtain ⟨n, -, rfl⟩ := Option.map_eq_some_iff.1 he
      exact fun v hv => h.positional v (List.mem_of_mem_drop hv)
    · obtain ⟨n, -, rfl⟩ := Option.map_eq_some_iff.1 he
      exact fun m hm => h.named m (List.mem_filter.1 hm).1

end Arguments.Apart

namespace Value

variable {v w : Value}

theorem confined_toEntry (hv : v.Apart secret) :
    Confined hidden secret (Item.Apart secret) v.toEntry := by
  refine .bind (confined_itemsOf hv) fun items hitems => ?_
  split
  · exact .bind (.ofResult fun _ _ => trivial) fun _ _ => .pure (by simpa [Item.Apart] using hitems)
  · exact .raise _ _

theorem confined_entriesOf (hv : v.Apart secret) :
    Confined hidden secret (fun es => ∀ e ∈ es, Item.Apart secret e) v.entriesOf := by
  unfold entriesOf
  split
  · exact .look fun _ _ hh => hh.entries hv
  · exact .bind (confined_itemsOf hv) fun items hitems => .mapM items fun e he =>
      confined_toEntry (hitems e he)

theorem yields_spelledInt (base : Nat) (t : Str) :
    Yields (Value.Apart secret) (spelledInt base t) := by
  unfold spelledInt
  split
  · exact .pure trivial
  · exact .error _

theorem yields_toInt (base : Option Value) (hv : v.Apart secret) :
    Yields (Value.Apart secret) (v.toInt base) := by
  unfold toInt
  split
  · exact .pure hv
  · exact yields_spelledInt _ _
  · split
    · split
      · exact .error _
      · split
        · exact yields_spelledInt _ _
        · exact .error _
    · exact .error _
  · split
    · exact .pure trivial
    · split
      · exact .error _
      · exact .error _
      · exact .pure trivial
    · exact .error _

theorem yields_toFloat (hv : v.Apart secret) : Yields (Value.Apart secret) v.toFloat := by
  unfold toFloat
  split
  · exact .pure hv
  · split
    · exact .pure trivial
    · exact .error _
  · exact .bind fun _ _ => .pure trivial

theorem yields_toTextValue (h : Heap) : Yields (Value.Apart secret) (v.toTextValue h) := by
  induction v using Value.toTextValue.induct with
  | case1 t id => exact .pure trivial
  | case2 b => exact .pure trivial
  | case3 v id =>
    rw [toTextValue, if_pos rfl]
    exact .bind fun _ _ => .pure trivial
  | case4 c v id hc ih =>
    rw [toTextValue, if_neg hc]
    exact ih
  | case5 v h1 h2 h3 =>
    rw [toTextValue] <;> try assumption
    exact .bind fun _ _ => .pure trivial

theorem yields_toRange (vs : List Value) : Yields (Value.Apart secret) (toRange vs) := by
  refine .bind fun is _ => ?_
  split
  · exact .pure trivial
  · exact .pure trivial
  · split
    · exact .error _
    · exact .pure trivial
  · exact .error _

theorem confined_shown (hv : v.Apart secret) :
    Confined hidden secret (fun _ => True) (withHeap v.shown) :=
  .withHeap fun _ _ hh => .of_eq (shown_alike hh hv)

theorem confined_insertAll {d : Heap → Dictionary} {es : List Item}
    (hd : ∀ h h' : Heap, h.Alike hidden secret h' → d h' = d h ∧ (d h).Apart secret)
    (hes : ∀ e ∈ es, Item.Apart secret e) :
    Confined hidden secret (Dictionary.Apart secret) (withHeap fun h => (d h).insertAll h es) := by
  refine .withHeap fun h h' hh => ?_
  obtain ⟨heq, hapart⟩ := hd h h' hh
  rw [heq]
  exact Dictionary.insertAll_alike hh hapart hes

theorem confined_ofExceptionClass (c : ExceptionClass) {a : Arguments} (ha : a.Apart secret) :
    Confined hidden secret (Value.Apart secret) (ofExceptionClass c a) := by
  unfold ofExceptionClass
  dsimp only
  split
  · exact .raise _ _
  · refine .bind (.ofResult fun _ _ => trivial) fun _ _ => ?_
    have hexception : ∀ c, (exception c a.positional .fresh).Apart secret :=
      fun c => (apart_exception _ _ c).2 ha.positional
    split
    · next hp =>
      refine .bind (confined_itemsOf (ha.positional _ (by rw [hp]; simp))) fun items _ => ?_
      split
      · exact .pure (hexception _)
      · exact .raise _ _
    · exact .pure (hexception _)

theorem confined_itemsGiven (vs : List (Option Value)) (hvs : ∀ v, some v ∈ vs → v.Apart secret) :
    Confined hidden secret (fun vs => ∀ v ∈ vs, v.Apart secret) (match vs with
      | [some v] => v.itemsOf
      | _ => Pure.pure []) := by
  split
  · exact confined_itemsOf (hvs _ (by simp))
  · exact .pure (by simp)

theorem confined_ofType (t : TypeName) {a : Arguments} (ha : a.Apart secret) :
    Confined hidden secret (Value.Apart secret) (ofType t a) := by
  have hitems := @confined_itemsGiven hidden secret
  unfold ofType
  dsimp only
  cases t with
  | object => exact .bind (.ofResult fun _ _ => trivial) fun _ _ => .pure trivial
  | bool =>
    refine .bind (.ofResult (ha.take _ _)) fun vs hvs => ?_
    split
    · exact .bind (.look (.of_eq fun h h' hh => truthy_alike hh (hvs _ (by simp)))) fun _ _ =>
        .pure trivial
    · exact .pure trivial
  | int =>
    refine .bind (.ofResult (ha.take _ _)) fun vs hvs => ?_
    split
    · exact .ofResult (yields_toInt _ (hvs _ (by simp)))
    · exact .raise _ _
    · exact .pure trivial
  | float =>
    refine .bind (.ofResult (ha.take _ _)) fun vs hvs => ?_
    split
    · exact .ofResult (yields_toFloat (hvs _ (by simp)))
    · exact .pure trivial
  | str =>
    refine .bind (.ofResult (ha.take _ _)) fun vs hvs => ?_
    split
    · next v encoding errors =>
      refine .withHeap fun h h' hh => ⟨textOf_alike hh fun w hw => hvs w (by simp [hw]), ?_⟩
      refine .bind fun _ _ => .bind fun _ _ => ?_
      split
      · exact .pure trivial
      · exact yields_toTextValue h
      · exact .error _
    · exact .raise _ _
  | list =>
    exact .bind (.ofResult (ha.take _ _)) fun vs hvs => .bind (hitems vs hvs) fun _ hws => .makeList hws
  | tuple =>
    refine .bind (.ofResult (ha.take _ _)) fun vs hvs => ?_
    split
    · exact .pure (hvs _ (by simp))
    · exact .bind (hitems _ hvs) fun _ hws => .pure (by simpa using hws)
  | frozenset =>
    refine .bind (.ofResult (ha.take _ _)) fun vs hvs => ?_
    split
    · exact .pure (hvs _ (by simp))
    · refine .bind (hitems _ hvs) fun ws hws => .withHeap fun h h' hh => .bind (.refl _) fun _ _ =>
        .bind (Dictionary.distinctKeys_alike hh hws) fun ks hks => .pure (by simpa using hks)
  | dict =>
    have hmake : ∀ given : List Item, (∀ e ∈ given, Item.Apart secret e) →
        Confined hidden secret (Value.Apart secret) (do
          makeDict (← withHeap fun h => Dictionary.insertAll h {} (given ++ a.namedItems))) :=
      fun given hgiven => .bind (confined_insertAll (fun _ _ _ => ⟨rfl, Dictionary.apart_empty⟩)
        (List.forall_mem_append.2 ⟨hgiven, ha.namedItems⟩)) fun _ hd => .makeDict hd
    dsimp only
    split
    · exact .bind (.pure (by simp)) hmake
    · next v hp => exact .bind (confined_entriesOf (ha.positional v (by rw [hp]; simp))) hmake
    · exact .bind (.raise _ _) hmake
  | range => exact .bind (.ofResult ha.plain) fun vs _ => .ofResult (yields_toRange vs)
  | enumerate =>
    refine .bind (.ofResult (ha.take _ _)) fun vs hvs => ?_
    split
    · exact .bind (.ofResult fun _ _ => trivial) fun _ _ =>
        .bind (confined_iteratorOf (hvs _ (by simp))) fun _ hs => .makeIterator (by decide) hs
    · exact .raise _ _
  | zip =>
    exact .bind (.ofResult ha.plain) fun vs hvs =>
      .bind (.mapM vs fun v hv => confined_iteratorOf (hvs v hv)) fun _ hs => .makeIterator (by decide) hs
  | reversed =>
    exact .bind (.ofResult ha.one) fun v hv =>
      .bind (.withHeap fun _ _ hh => backwards_alike hh hv) fun _ hc => .makeIterator (by decide) hc
  | slice =>
    refine .bind (.ofResult ha.plain) fun vs hvs => ?_
    split
    · exact .pure (by simpa using hvs)
    · exact .pure (by simpa using hvs)
    · exact .pure (by simpa using hvs)
    · exact .raise _ _
  | type => exact .bind (.ofResult ha.one) fun v _ => .pure (apart_typeOf v)
  | _ => exact .raise _ _

end Value

structure Supply.Apart (secret : List Address) (s : Supply) : Prop where
  mapping : ∀ v, s.mapping = some v → v.Apart secret
  values : ∀ v ∈ s.values, v.Apart secret

namespace Supply

variable {s : Supply}

theorem apart_ofValue {v : Value} (hv : v.Apart secret) : (ofValue v).Apart secret := by
  unfold ofValue
  split
  · exact ⟨nofun, by simpa using hv⟩
  · exact ⟨fun w hw => Option.some.inj hw ▸ hv, by simpa using hv⟩
  · exact ⟨fun w hw => Option.some.inj hw ▸ hv, by simpa using hv⟩
  · exact ⟨fun w hw => Option.some.inj hw ▸ hv, by simp⟩
  · exact ⟨nofun, by simpa using hv⟩

theorem Apart.take (hs : s.Apart secret) :
    Yields (fun r => r.1.Apart secret ∧ r.2.Apart secret) s.take := by
  unfold Supply.take
  split
  · exact .error _
  · next v vs hvs =>
    have hall := hs.values
    rw [hvs] at hall
    obtain ⟨hv, hvs⟩ := List.forall_mem_cons.1 hall
    exact .pure ⟨hv, hs.mapping, hvs⟩

theorem Apart.takeInt (hs : s.Apart secret) (bound : Nat) :
    Yields (fun r => r.2.Apart secret) (s.takeInt bound) :=
  .bind fun _ hr => .bind fun _ _ => .pure (hs.take _ hr).2

end Supply

namespace Directive

variable {s : Supply}

theorem confined_takeName (t : Str) (hs : s.Apart secret) :
    Confined hidden secret (fun r => r.2.Apart secret) (takeName t s) := by
  unfold takeName
  split
  · exact .raise _ _
  · next m hm =>
    split
    · exact .raise _ _
    · exact .bind (Value.confined_getItem (hs.mapping m hm) trivial) fun v hv =>
        .pure ⟨hs.mapping, by simpa using hv⟩
  · exact .pure hs

theorem yields_readNumber (bound : Nat) (t : Str) (hs : s.Apart secret) :
    Yields (fun r => r.2.2.Apart secret) (readNumber bound t s) := by
  unfold readNumber
  split
  · exact .bind fun _ hr => .pure (hs.takeInt _ _ hr)
  · split
    · exact .pure hs
    · dsimp only
      split
      · exact .error _
      · exact .pure hs

theorem yields_read (t : Str) (hs : s.Apart secret) :
    Yields (fun r => r.2.2.Apart secret) (read t s) := by
  refine .bind fun r hr => ?_
  obtain ⟨width, u, s⟩ := r
  have hs := yields_readNumber _ _ hs _ hr
  have hprecision : Yields (fun r => r.2.2.Apart secret) (readPrecision u s) := by
    unfold readPrecision
    split
    · exact .bind fun _ hr => .pure (yields_readNumber _ _ hs _ hr)
    · exact .pure hs
  refine .bind fun r hr => ?_
  obtain ⟨precision, u, s⟩ := r
  have hs := hprecision _ hr
  dsimp only
  split
  · exact .pure hs
  · exact .error _

end Directive

theorem confined_fillDirectives (n : Nat) (t : Str) {s : Supply} (hs : s.Apart secret) :
    Confined hidden secret (fun r => r.2.Apart secret) (fillDirectives n t s) := by
  induction n, t, s using fillDirectives.induct with
  | case1 t s =>
    unfold fillDirectives
    exact .pure hs
  | case2 n s hn =>
    unfold fillDirectives
    cases n <;> exact .pure hs
  | case3 n t s ih =>
    rw [fillDirectives]
    exact .bind (ih hs) fun _ hr => .pure hr
  | case4 n t s ht ih =>
    rw [fillDirectives]
    · exact .bind (Directive.confined_takeName _ hs) fun r hr =>
        .bind (.ofResult (Directive.yields_read _ hr)) fun d hd =>
        .bind (.ofResult hd.take) fun v hv =>
        .bind (.withHeap fun _ _ hh => .of_eq (Directive.apply_alike hh _ hv.1)) fun _ _ =>
        .bind (ih _ _ hv.2) fun _ hr => .pure hr
    · exact ht
  | case5 n c t s ht hc ih =>
    rw [fillDirectives]
    · exact .bind (ih hs) fun _ hr => .pure hr
    · exact ht
    · exact hc

theorem confined_formatText (t : Str) (id : Identity) {v : Value} (hv : v.Apart secret) :
    Confined hidden secret (Value.Apart secret) (formatText t id v) := by
  refine .bind (confined_fillDirectives _ _ (Supply.apart_ofValue hv)) fun r _ => ?_
  obtain ⟨u, s⟩ := r
  dsimp only
  split
  · exact .raise _ _
  · split
    · exact .pure trivial
    · split
      · exact .pure trivial
      · exact .pure trivial

namespace Value

variable {v w : Value}

theorem apart_toValue (n : Number) : n.toValue.Apart secret := by
  cases n <;> trivial

theorem yields_repeated (tooMany : ExceptionClass) {items : List Value}
    (hitems : ∀ v ∈ items, v.Apart secret) (i : Int) :
    Yields (fun vs => ∀ v ∈ vs, v.Apart secret) (repeated tooMany items i) := by
  unfold repeated
  dsimp only
  split
  · exact .error _
  · split
    · exact .pure (by simp)
    · split
      · exact .error _
      · split
        · exact .error _
        · refine .pure fun v hv => ?_
          obtain ⟨l, hl, hv⟩ := List.mem_flatten.1 hv
          exact hitems v (List.eq_of_mem_replicate hl ▸ hv)

theorem confined_repeatedItems {a : Address} (ha : a ∉ secret) (i : Int) :
    Confined hidden secret (fun vs => ∀ v ∈ vs, v.Apart secret)
      (withHeap fun h => repeated .memoryError (h.items a) i) := by
  refine .withHeap fun h h' hh => ?_
  obtain ⟨heq, hitems⟩ := hh.items ha
  exact ⟨by rw [heq], yields_repeated _ hitems i⟩

theorem confined_binary (op : BinaryOp) (hv : v.Apart secret) (hw : w.Apart secret) :
    Confined hidden secret (Value.Apart secret) (binary op v w) := by
  unfold binary
  split
  · refine .bind (.ofResult fun _ _ => trivial) fun r _ => ?_
    split
    · exact .pure trivial
    · exact .pure (apart_toValue _)
  · exact .pure hw
  · exact .pure hw
  · exact .pure hv
  · exact .pure hv
  · exact .pure trivial
  · exact .pure (by simpa using List.forall_mem_append.2 ⟨(apart_tuple _ _).1 hv, (apart_tuple _ _).1 hw⟩)
  · refine .bind (.look (P := fun vs => ∀ v ∈ vs, v.Apart secret) fun h h' hh => ?_) fun _ hvs =>
      .makeList hvs
    obtain ⟨heq, hitems⟩ := hh.items hv
    obtain ⟨heq', hitems'⟩ := hh.items hw
    exact ⟨by rw [heq, heq'], List.forall_mem_append.2 ⟨hitems, hitems'⟩⟩
  · split
    · exact .bind (.ofResult fun _ _ => trivial) fun _ _ => .pure (apart_toValue _)
    · split
      · split
        · exact .pure trivial
        · exact .bind (.ofResult fun _ _ => trivial) fun _ _ => .pure trivial
      · split
        · exact .pure trivial
        · exact .bind (.ofResult fun _ _ => trivial) fun _ _ => .pure trivial
      · split
        · exact .pure hv
        · exact .bind (.ofResult (yields_repeated _ ((apart_tuple _ _).1 hv) _)) fun _ hvs =>
            .pure (by simpa using hvs)
      · split
        · exact .pure hw
        · exact .bind (.ofResult (yields_repeated _ ((apart_tuple _ _).1 hw) _)) fun _ hvs =>
            .pure (by simpa using hvs)
      · exact .bind (confined_repeatedItems hv _) fun _ hvs => .makeList hvs
      · exact .bind (confined_repeatedItems hw _) fun _ hvs => .makeList hvs
      · exact .raise _ _

theorem confined_operate (op : BinaryOp) (hv : v.Apart secret) (hw : w.Apart secret) :
    Confined hidden secret (Value.Apart secret) (operate op v w) := by
  unfold operate
  split
  · exact confined_formatText _ _ hw
  · refine .bind (.withHeap (P := Dictionary.Apart secret) fun h h' hh => ?_) fun _ hd => .makeDict hd
    obtain ⟨heq, hd⟩ := hh.dictionary hv
    obtain ⟨heq', hes⟩ := hh.entries hw
    rw [heq, heq']
    exact Dictionary.insertAll_alike hh hd hes
  · exact confined_binary _ hv hw

theorem confined_operateInPlace (op : BinaryOp) (hv : v.Apart secret) (hw : w.Apart secret) :
    Confined hidden secret (Value.Apart secret) (operateInPlace op v w) := by
  unfold operateInPlace
  split
  · refine .bind (confined_itemsOf hw) fun more hmore => .bind (.changeItems hv fun items hitems u hu => ?_)
      fun _ _ => .pure hv
    obtain hu | hu := Array.mem_append.1 hu
    · exact hitems u hu
    · exact hmore u (List.mem_toArray.1 hu)
  · exact .bind (confined_repeatedItems hv _) fun _ hvs => .bind (.putItems hv hvs) fun _ _ => .pure hv
  · refine .bind (confined_entriesOf hw) fun more hmore =>
      .bind (.withHeap (P := Dictionary.Apart secret) fun h h' hh => ?_) fun _ hd =>
        .bind (.putDict hv hd) fun _ _ => .pure hv
    obtain ⟨heq, hd⟩ := hh.dictionary hv
    rw [heq]
    exact Dictionary.insertAll_alike hh hd hmore
  · exact confined_operate _ hv hw

theorem confined_makeTable {es : List Item} (hes : ∀ e ∈ es, Item.Apart secret e) :
    Confined hidden secret (Value.Apart secret) (makeTable es) := by
  refine .bind (.settleAll fun v hv => ?_) fun ks hks => .bind (.settleAll fun v hv => ?_) fun vs hvs =>
    .bind (confined_insertAll (fun _ _ _ => ⟨rfl, Dictionary.apart_empty⟩) fun e he =>
      ⟨hks _ (List.of_mem_zip he).1, hvs _ (List.of_mem_zip he).2⟩) fun _ hd => .makeDict hd
  · obtain ⟨e, he, rfl⟩ := List.mem_map.1 hv
    exact (hes e he).1
  · obtain ⟨e, he, rfl⟩ := List.mem_map.1 hv
    exact (hes e he).2

theorem apart_pairCharacters (s t dropped : Str) :
    ∀ e ∈ pairCharacters s t dropped, Item.Apart secret e := by
  intro e he
  obtain he | he := List.mem_append.1 he
  · obtain ⟨p, -, rfl⟩ := List.mem_map.1 he
    exact ⟨trivial, trivial⟩
  · obtain ⟨c, -, rfl⟩ := List.mem_map.1 he
    exact ⟨trivial, trivial⟩

theorem confined_makeCharTable {vs : List Value} (hvs : ∀ v ∈ vs, v.Apart secret) :
    Confined hidden secret (Value.Apart secret) (makeCharTable vs) := by
  unfold makeCharTable
  split
  · next a =>
    have ha : a ∉ secret := hvs (dict a) (by simp)
    refine .bind (.withHeap (P := fun es => ∀ e ∈ es, Item.Apart secret e) fun h h' hh => ?_)
      fun es hes => confined_makeTable hes
    obtain ⟨heq, hes⟩ := hh.entries ha
    refine ⟨by rw [heq], .mapM fun e he => .bind fun k hk => .pure ⟨?_, (hes e he).2⟩⟩
    unfold charTableKey at hk
    split at hk <;> first | contradiction | exact Except.ok.inj hk ▸ trivial
  · split
    · exact confined_makeTable (apart_pairCharacters _ _ _)
    · exact .raise _ _
  · split
    · exact confined_makeTable (apart_pairCharacters _ _ _)
    · exact .raise _ _
  · exact .raise _ _

end Value
end TemplateEngine.Script
