import TemplateEngine.Proofs.Confined.Run
import TemplateEngine.Script.Evaluate

set_option autoImplicit false

/-!
# Reading heaps that are alike

Values are compared, shown and looked up in the same way on heaps that are alike, as long as they lead to
no secret object: only open objects are looked at then.
-/
namespace TemplateEngine.Script

variable {α β ε : Type} {hidden : Reserved} {secret : List Address} {h h' : Heap}

theorem mapM_congr {f g : α → Except ε β} {as : List α} (hfg : ∀ a ∈ as, g a = f a) :
    as.mapM g = as.mapM f := by
  induction as with
  | nil => rfl
  | cons a as ih =>
    obtain ⟨ha, has⟩ := List.forall_mem_cons.1 hfg
    rw [List.mapM_cons, List.mapM_cons, ha, ih has]

theorem filterM_alike {P : α → Prop} {f g : α → Except ε Bool} {as : List α}
    (hfg : ∀ a ∈ as, g a = f a) (has : ∀ a ∈ as, P a) :
    as.filterM g = as.filterM f ∧ ∀ bs, as.filterM f = .ok bs → ∀ b ∈ bs, P b := by
  have hloop : ∀ done : List α, (∀ a ∈ done, P a) →
      List.filterAuxM g as done = List.filterAuxM f as done ∧
        ∀ bs, List.filterAuxM f as done = .ok bs → ∀ b ∈ bs, P b := by
    induction as with
    | nil => exact fun done hdone => ⟨rfl, fun bs hbs => Except.ok.inj hbs ▸ hdone⟩
    | cons a as ih =>
      intro done hdone
      obtain ⟨hfga, hfg⟩ := List.forall_mem_cons.1 hfg
      obtain ⟨ha, has⟩ := List.forall_mem_cons.1 has
      simp only [List.filterAuxM, hfga]
      cases f a with
      | error e => exact ⟨rfl, fun bs hbs => by contradiction⟩
      | ok b =>
        refine ih hfg has _ ?_
        cases b with
        | false => exact hdone
        | true => exact List.forall_mem_cons.2 ⟨ha, hdone⟩
  obtain ⟨heq, hP⟩ := hloop [] (by simp)
  rw [List.filterM, List.filterM, heq]
  refine ⟨rfl, fun bs hbs b hb => ?_⟩
  cases hdone : List.filterAuxM f as [] with
  | error e =>
    rw [hdone] at hbs
    contradiction
  | ok cs =>
    rw [hdone] at hbs
    rw [← Except.ok.inj hbs] at hb
    exact hP cs hdone b (List.mem_reverse.1 hb)

theorem Result.exists_of_bind {x : Result α} {f : α → Result β} {b : β}
    (h : x >>= f = .ok b) : ∃ a, x = .ok a ∧ f a = .ok b := by
  cases x with
  | error e => contradiction
  | ok a => exact ⟨a, rfl, h⟩

namespace Value

variable {v w : Value} {vs ws : List Value}

theorem mem_of_firstEntry {test : Value → Result Bool} {es : List (Nat × Item)} {e : Nat × Item}
    (h : firstEntry test es = .ok (some e)) : e ∈ es := by
  induction es with
  | nil => simp [firstEntry, pure, Except.pure] at h
  | cons f es ih =>
    cases htest : test f.2.1 with
    | error e => simp [firstEntry, htest, bind, Except.bind] at h
    | ok b =>
      cases b with
      | true =>
        simp only [firstEntry, htest, bind, Except.bind, if_true, pure, Except.pure] at h
        obtain rfl : f = e := by simpa using h
        exact List.mem_cons_self
      | false =>
        refine List.mem_cons_of_mem _ (ih ?_)
        simpa [firstEntry, htest, bind, Except.bind] using h

def TestsAlike (secret : List Address) (test test' : Value → Value → Result Bool) : Prop :=
  ∀ v w : Value, v.Apart secret → w.Apart secret → test' v w = test v w

section Tests

variable {test test' : Value → Value → Result Bool} (ht : TestsAlike secret test test')
include ht

theorem allPairs_alike (hvs : ∀ v ∈ vs, v.Apart secret) (hws : ∀ w ∈ ws, w.Apart secret) :
    allPairs test' vs ws = allPairs test vs ws := by
  induction vs generalizing ws with
  | nil => cases ws <;> rfl
  | cons v vs ih =>
    cases ws with
    | nil => rfl
    | cons w ws =>
      obtain ⟨hv, hvs⟩ := List.forall_mem_cons.1 hvs
      obtain ⟨hw, hws⟩ := List.forall_mem_cons.1 hws
      rw [allPairs, allPairs, ht v w hv hw, ih hvs hws]

theorem anyIs_alike (hv : v.Apart secret) (hws : ∀ w ∈ ws, w.Apart secret) :
    anyIs (test' v) ws = anyIs (test v) ws := by
  induction ws with
  | nil => rfl
  | cons w ws ih =>
    obtain ⟨hw, hws⟩ := List.forall_mem_cons.1 hws
    rw [anyIs, anyIs, ht v w hv hw, ih hws]

theorem firstEntry_alike (hv : v.Apart secret) {es : List (Nat × Item)}
    (hes : ∀ e ∈ es, Item.Apart secret e.2) : firstEntry (test' v) es = firstEntry (test v) es := by
  induction es with
  | nil => rfl
  | cons e es ih =>
    obtain ⟨he, hes⟩ := List.forall_mem_cons.1 hes
    rw [firstEntry, firstEntry, ht v _ hv he.1, ih hes]

theorem allAreKeys_alike {d : Dictionary} (hd : d.Apart secret) (hvs : ∀ v ∈ vs, v.Apart secret) :
    allAreKeys test' d vs = allAreKeys test d vs := by
  induction vs with
  | nil => rfl
  | cons v vs ih =>
    obtain ⟨hv, hvs⟩ := List.forall_mem_cons.1 hvs
    rw [allAreKeys, allAreKeys, firstEntry_alike ht hv (hd.candidates _), ih hvs]

theorem allAmong_alike (hvs : ∀ v ∈ vs, v.Apart secret) (hws : ∀ w ∈ ws, w.Apart secret) :
    allAmong test' ws vs = allAmong test ws vs := by
  refine allAreKeys_alike ht (Dictionary.apart_ofEntries fun e he => ?_) hvs
  obtain ⟨w, hw, rfl⟩ := List.mem_map.1 he
  exact ⟨hws w hw, trivial⟩

theorem firstDifference_alike (hvs : ∀ v ∈ vs, v.Apart secret) (hws : ∀ w ∈ ws, w.Apart secret) :
    firstDifference test' vs ws = firstDifference test vs ws ∧
      ∀ x y, firstDifference test vs ws = .ok (.inl (x, y)) → x.Apart secret ∧ y.Apart secret := by
  induction vs generalizing ws with
  | nil =>
    cases ws with
    | nil => exact ⟨rfl, fun x y hxy => by simp [firstDifference, pure, Except.pure] at hxy⟩
    | cons w ws => exact ⟨rfl, fun x y hxy => by simp [firstDifference, pure, Except.pure] at hxy⟩
  | cons v vs ih =>
    cases ws with
    | nil => exact ⟨rfl, fun x y hxy => by simp [firstDifference, pure, Except.pure] at hxy⟩
    | cons w ws =>
      obtain ⟨hv, hvs⟩ := List.forall_mem_cons.1 hvs
      obtain ⟨hw, hws⟩ := List.forall_mem_cons.1 hws
      obtain ⟨heq, hapart⟩ := ih hvs hws
      rw [firstDifference, firstDifference, ht v w hv hw, heq]
      refine ⟨rfl, fun x y hxy => ?_⟩
      cases htest : test v w with
      | error e => simp [htest, bind, Except.bind] at hxy
      | ok b =>
        cases b with
        | true => exact hapart x y (by simpa [htest, bind, Except.bind] using hxy)
        | false =>
          simp only [htest, bind, Except.bind, pure, Except.pure] at hxy
          obtain ⟨rfl, rfl⟩ : v = x ∧ w = y := by simpa using hxy
          exact ⟨hv, hw⟩

theorem compareSets_alike (op : Order) (hvs : ∀ v ∈ vs, v.Apart secret)
    (hws : ∀ w ∈ ws, w.Apart secret) : compareSets test' op vs ws = compareSets test op vs ws := by
  rw [compareSets, compareSets, allAmong_alike ht hvs hws, allAmong_alike ht hws hvs]

end Tests

theorem allEntriesIn_alike {test test' : Value → Value → Result Bool}
    (ht : TestsAlike secret test test') {d : Dictionary} (hd : d.Apart secret) {es : List Item}
    (hes : ∀ e ∈ es, Item.Apart secret e) : allEntriesIn test' d es = allEntriesIn test d es := by
  induction es with
  | nil => rfl
  | cons e es ih =>
    obtain ⟨he, hes⟩ := List.forall_mem_cons.1 hes
    rw [allEntriesIn, allEntriesIn, firstEntry_alike ht he.1 (hd.candidates _), ih hes]
    cases hfirst : firstEntry (test e.1) (d.candidates e.1.code) with
    | error e => rfl
    | ok found =>
      cases found with
      | none => rfl
      | some f =>
        have hf : Item.Apart secret f.2 := hd.candidates _ f (mem_of_firstEntry hfirst)
        obtain ⟨n, k, u⟩ := f
        simp only [bind, Except.bind]
        rw [ht e.2 u he.2 hf.2]

section

variable (hh : h.Alike hidden secret h')
include hh

theorem sequence?_alike (hv : v.Apart secret) :
    v.sequence? h' = v.sequence? h ∧ ∀ k xs, v.sequence? h = some (k, xs) → ∀ x ∈ xs, x.Apart secret := by
  unfold sequence?
  cases v with
  | list a =>
    obtain ⟨heq, hapart⟩ := hh.items hv
    refine ⟨by dsimp only; rw [heq], fun k xs hxs => ?_⟩
    obtain ⟨-, rfl⟩ := Prod.mk.inj (Option.some.inj hxs)
    exact hapart
  | tuple items id =>
    refine ⟨rfl, fun k xs hxs => ?_⟩
    obtain ⟨-, rfl⟩ := Prod.mk.inj (Option.some.inj hxs)
    simpa using hv
  | _ => exact ⟨rfl, fun k xs hxs => by contradiction⟩

theorem members?_alike (hv : v.Apart secret) :
    v.members? h' = v.members? h ∧ ∀ xs, v.members? h = some xs → ∀ x ∈ xs, x.Apart secret := by
  unfold members?
  cases v with
  | frozenset items id =>
    refine ⟨rfl, fun xs hxs => ?_⟩
    obtain rfl := Option.some.inj hxs
    simpa using hv
  | view k a id =>
    cases k with
    | keys =>
      obtain ⟨heq, hapart⟩ := hh.dictionary hv
      refine ⟨by dsimp only; rw [heq], fun xs hxs => ?_⟩
      obtain rfl := Option.some.inj hxs
      exact hapart.keys
    | values => exact ⟨rfl, fun xs hxs => by contradiction⟩
    | items =>
      obtain ⟨heq, hapart⟩ := hh.entries hv
      refine ⟨by dsimp only; rw [heq], fun xs hxs => ?_⟩
      obtain rfl := Option.some.inj hxs
      intro x hx
      obtain ⟨e, he, rfl⟩ := List.mem_map.1 hx
      exact ViewKind.apart_ofEntry .items (hapart e he)
  | _ => exact ⟨rfl, fun xs hxs => by contradiction⟩

theorem equalIn_alike (room : Nat) : TestsAlike secret (equalIn h room) (equalIn h' room) := by
  induction room with
  | zero =>
    intro v w hv hw
    rw [equalIn, equalIn]
  | succ n ih =>
    intro v w hv hw
    have hitem : TestsAlike secret (fun x y => if x.same y then return true else equalIn h n x y)
        (fun x y => if x.same y then return true else equalIn h' n x y) := by
      intro x y hx hy
      dsimp only
      rw [ih x y hx hy]
    obtain ⟨hvseq, hvitems⟩ := sequence?_alike hh hv
    obtain ⟨hwseq, hwitems⟩ := sequence?_alike hh hw
    obtain ⟨hvmem, hvmembers⟩ := members?_alike hh hv
    obtain ⟨hwmem, hwmembers⟩ := members?_alike hh hw
    rw [equalIn, equalIn, hvseq, hwseq, hvmem, hwmem]
    split
    · dsimp only
      split
      · next k xs l ys hxs hys =>
        rw [allPairs_alike hitem (hvitems k xs hxs) (hwitems l ys hys)]
      · next xs ys hxs hys _ =>
        rw [allAmong_alike hitem (hvmembers xs hxs) (hwmembers ys hys)]
      · split
        · obtain ⟨hd, hdapart⟩ := hh.dictionary hv
          obtain ⟨he, heapart⟩ := hh.dictionary hw
          rw [hd, he, allEntriesIn_alike hitem heapart hdapart.entries]
        · rw [apart_slice] at hv hw
          rw [allPairs_alike hitem (by simpa using hv) (by simpa using hw)]
        · rfl
    · rfl

theorem equal_alike : TestsAlike secret (equal h) (equal h') := by
  intro v w hv hw
  rw [equal, equal, hh.room, equalIn_alike hh _ v w hv hw]

theorem isItemIn_alike (room : Nat) : TestsAlike secret (isItemIn h room) (isItemIn h' room) := by
  intro v w hv hw
  rw [isItemIn, isItemIn, equalIn_alike hh _ v w hv hw]

theorem isItem_alike : TestsAlike secret (isItem h) (isItem h') := by
  intro v w hv hw
  rw [isItem, isItem, hh.room, isItemIn_alike hh _ v w hv hw]

theorem occurs_alike (hv : v.Apart secret) (hws : ∀ w ∈ ws, w.Apart secret) :
    occurs h' v ws = occurs h v ws := anyIs_alike (isItem_alike hh) hv hws

theorem truthy_alike (hv : v.Apart secret) : v.truthy h' = v.truthy h := by
  unfold truthy
  cases v with
  | list a =>
    dsimp only
    rw [(hh.itemArray hv).1]
  | dict a =>
    dsimp only
    rw [(hh.dictionary hv).1]
  | view k a id =>
    dsimp only
    rw [(hh.dictionary hv).1]
  | _ => rfl

theorem orderedItems?_alike (hv : v.Apart secret) (hw : w.Apart secret) :
    orderedItems? h' v w = orderedItems? h v w ∧ ∀ xs ys, orderedItems? h v w = some (xs, ys) →
      (∀ x ∈ xs, x.Apart secret) ∧ ∀ y ∈ ys, y.Apart secret := by
  unfold orderedItems?
  split
  · obtain ⟨heq, hitems⟩ := hh.items hv
    obtain ⟨heq', hitems'⟩ := hh.items hw
    rw [heq, heq']
    refine ⟨rfl, fun xs ys hxs => ?_⟩
    obtain ⟨rfl, rfl⟩ := Prod.mk.inj (Option.some.inj hxs)
    exact ⟨hitems, hitems'⟩
  · refine ⟨rfl, fun xs ys hxs => ?_⟩
    obtain ⟨rfl, rfl⟩ := Prod.mk.inj (Option.some.inj hxs)
    exact ⟨by simpa using hv, by simpa using hw⟩
  · refine ⟨rfl, fun xs ys hxs => ?_⟩
    rw [apart_slice] at hv hw
    split at hxs
    · obtain ⟨rfl, rfl⟩ := Prod.mk.inj (Option.some.inj hxs)
      simp
    · obtain ⟨rfl, rfl⟩ := Prod.mk.inj (Option.some.inj hxs)
      exact ⟨by simpa using hv, by simpa using hw⟩
  · exact ⟨rfl, fun xs ys hxs => by contradiction⟩

theorem orderedIn_alike (op : Order) (room : Nat) :
    TestsAlike secret (orderedIn h op room) (orderedIn h' op room) := by
  induction room with
  | zero =>
    intro v w hv hw
    obtain ⟨heq, -⟩ := orderedItems?_alike hh hv hw
    obtain ⟨hvmem, hvmembers⟩ := members?_alike hh hv
    obtain ⟨hwmem, hwmembers⟩ := members?_alike hh hw
    unfold orderedIn
    rw [heq, hvmem, hwmem]
    split
    · rfl
    · contradiction
    · split
      · rfl
      · next xs ys hxs hys _ =>
        exact compareSets_alike (isItemIn_alike hh _) op (hvmembers xs hxs) (hwmembers ys hys)
      · rfl
  | succ n ih =>
    intro v w hv hw
    obtain ⟨heq, hitems⟩ := orderedItems?_alike hh hv hw
    obtain ⟨hvmem, hvmembers⟩ := members?_alike hh hv
    obtain ⟨hwmem, hwmembers⟩ := members?_alike hh hw
    unfold orderedIn
    rw [heq, hvmem, hwmem]
    split
    · contradiction
    · next xs ys k hxs hk =>
      obtain rfl := Nat.succ.inj hk
      obtain ⟨hx, hy⟩ := hitems xs ys hxs
      obtain ⟨hfirst, hdiffer⟩ := firstDifference_alike (isItemIn_alike hh n) hx hy
      rw [hfirst]
      cases hdifference : firstDifference (isItemIn h n) xs ys with
      | error e => rfl
      | ok r =>
        cases r with
        | inr o => rfl
        | inl p =>
          obtain ⟨x, y⟩ := p
          obtain ⟨hx, hy⟩ := hdiffer x y hdifference
          exact ih x y hx hy
    · split
      · rfl
      · next xs ys hxs hys _ =>
        exact compareSets_alike (isItemIn_alike hh _) op (hvmembers xs hxs) (hwmembers ys hys)
      · rfl

theorem ordered_alike (op : Order) : TestsAlike secret (ordered h op) (ordered h' op) := by
  intro v w hv hw
  rw [ordered, ordered, hh.room, orderedIn_alike hh op _ v w hv hw]

end
end Value

namespace Dictionary

variable {d : Dictionary} {v w : Value} (hh : h.Alike hidden secret h')
include hh

theorem find?_alike (hd : d.Apart secret) (hv : v.Apart secret) :
    d.find? h' v = d.find? h v ∧ ∀ r, d.find? h v = .ok (some r) → Item.Apart secret r.2 := by
  exact ⟨Value.firstEntry_alike (Value.isItem_alike hh) hv (hd.candidates _),
    fun r hr => hd.candidates _ r (Value.mem_of_firstEntry hr)⟩

theorem value?_alike (hd : d.Apart secret) (hv : v.Apart secret) :
    d.value? h' v = d.value? h v ∧ ∀ u, d.value? h v = .ok (some u) → u.Apart secret := by
  obtain ⟨heq, hapart⟩ := find?_alike hh hd hv
  rw [value?, value?, heq]
  refine ⟨rfl, fun u hu => ?_⟩
  obtain ⟨r, hr, hu⟩ := Result.exists_of_bind hu
  obtain ⟨e, rfl, rfl⟩ := Option.map_eq_some_iff.1 (Except.ok.inj hu)
  exact (hapart e hr).2

theorem insert_alike (hd : d.Apart secret) (hv : v.Apart secret) (hw : w.Apart secret) :
    d.insert h' v w = d.insert h v w ∧ ∀ d', d.insert h v w = .ok d' → d'.Apart secret := by
  obtain ⟨heq, -⟩ := find?_alike hh hd hv
  rw [insert, insert, heq]
  refine ⟨rfl, fun d' hd' => ?_⟩
  obtain ⟨r, -, hd'⟩ := Result.exists_of_bind hd'
  cases r with
  | none => exact Except.ok.inj hd' ▸ hd.compact.push ⟨hv, hw⟩
  | some e => exact Except.ok.inj hd' ▸ hd.setValue _ hw

theorem insertAll_alike (hd : d.Apart secret) {es : List Item}
    (hes : ∀ e ∈ es, Item.Apart secret e) :
    d.insertAll h' es = d.insertAll h es ∧ ∀ d', d.insertAll h es = .ok d' → d'.Apart secret := by
  induction es generalizing d with
  | nil => exact ⟨rfl, fun d' hd' => Except.ok.inj hd' ▸ hd⟩
  | cons e es ih =>
    obtain ⟨he, hes⟩ := List.forall_mem_cons.1 hes
    obtain ⟨heq, hapart⟩ := insert_alike hh hd he.1 he.2
    simp only [insertAll, List.foldlM_cons] at ih ⊢
    rw [heq]
    cases hr : d.insert h e.1 e.2 with
    | error e => exact ⟨rfl, fun d' hd' => by contradiction⟩
    | ok d₁ => exact ih (hapart d₁ hr) hes

theorem distinctKeys_alike {vs : List Value} (hvs : ∀ v ∈ vs, v.Apart secret) :
    distinctKeys h' vs = distinctKeys h vs ∧
      ∀ ks, distinctKeys h vs = .ok ks → ∀ k ∈ ks, k.Apart secret := by
  have hes : ∀ e ∈ vs.map fun k => (k, Value.none), Item.Apart secret e := by
    intro e he
    obtain ⟨v, hv, rfl⟩ := List.mem_map.1 he
    exact ⟨hvs v hv, trivial⟩
  obtain ⟨heq, hapart⟩ := insertAll_alike hh apart_empty hes
  rw [distinctKeys, distinctKeys, heq]
  refine ⟨rfl, fun ks hks => ?_⟩
  obtain ⟨d, hd, hks⟩ := Result.exists_of_bind hks
  exact Except.ok.inj hks ▸ (hapart d hd).keys

end Dictionary

namespace Value

theorem inner_congr (n below : Nat) (vs : List Value) (f g : Nat → Result (List Text)) :
    (∀ m, m ≤ n → g m = f m) →
      (match n, below with
        | n, 0 | n + 1, 1 | n + 2, _ => g n
        | _, _ => if vs.isEmpty then return [] else Result.raise .recursionError) =
      (match n, below with
        | n, 0 | n + 1, 1 | n + 2, _ => f n
        | _, _ => if vs.isEmpty then return [] else Result.raise .recursionError) := by
  intro h
  have h1 := h (n - 1) (by omega)
  have h2 := h (n - 2) (by omega)
  have h3 := h n (Nat.le_refl n)
  rcases n with _ | _ | n <;> rcases below with _ | _ | below <;> first | assumption | rfl

theorem apart_shownArguments (c : ExceptionClass) {vs : List Value}
    (h : ∀ v ∈ vs, v.Apart secret) : ∀ v ∈ shownArguments c vs, v.Apart secret := by
  unfold shownArguments
  split
  · exact fun v hv => h v (List.mem_of_mem_take hv)
  · exact h

variable {v : Value} (hh : h.Alike hidden secret h')
include hh

theorem show_alike (n : Nat) (seen : List Value) (hv : v.Apart secret) :
    Value.show h' n seen v = Value.show h n seen v := by
  induction n using Nat.strongRecOn generalizing seen v with
  | ind n ih =>
    cases n with
    | zero => rfl
    | succ n =>
      unfold Value.show
      dsimp only
      generalize Option.filter (fun _ => seen.any v.same) v.dots? = dots?
      generalize (if v.dots?.isSome = true then v :: seen else seen) = around
      have hitems := fun (below : Nat) (vs : List Value) (hvs : ∀ v ∈ vs, v.Apart secret) =>
        inner_congr n below vs (fun m => vs.mapM (Value.show h m around))
          (fun m => vs.mapM (Value.show h' m around))
          fun m hm => mapM_congr fun v hv => ih m (Nat.lt_succ_of_le hm) around (hvs v hv)
      cases dots? with
      | some t => cases v <;> rfl
      | none =>
        cases v with
        | tuple items id =>
          exact congrArg (· >>= fun ts => pure (tupleText ts)) (hitems 0 items (by simpa using hv))
        | frozenset items id =>
          cases items with
          | nil => rfl
          | cons w ws =>
            exact congrArg (· >>= fun ts => pure (bracketed "frozenset(\x7b" ts "\x7d)"))
              (hitems 1 (w :: ws) (by simpa using hv))
        | slice a b c id =>
          rw [apart_slice] at hv
          exact congrArg (· >>= fun ts => pure (bracketed "slice(" ts ")"))
            (hitems 0 [a, b, c] (by simpa using hv))
        | list a =>
          obtain ⟨heq, hapart⟩ := hh.items hv
          dsimp only
          rw [heq]
          exact congrArg (· >>= fun ts => pure (bracketed "[" ts "]")) (hitems 0 _ hapart)
        | dict a =>
          obtain ⟨heq, hapart⟩ := hh.entries hv
          dsimp only
          rw [heq]
          refine congrArg (· >>= fun ts => pure (bracketed "\x7b" ts "\x7d")) (mapM_congr fun e he => ?_)
          rw [ih n (Nat.lt_succ_self n) around (hapart e he).1,
            ih n (Nat.lt_succ_self n) around (hapart e he).2]
        | view k a id =>
          obtain ⟨heq, hapart⟩ := hh.dictionary hv
          obtain ⟨heq', hapart'⟩ := hh.entries hv
          cases k with
          | keys =>
            dsimp only
            rw [heq]
            exact congrArg (· >>= fun ts => pure (bracketed "dict_keys([" ts "])"))
              (hitems 1 _ hapart.keys)
          | values =>
            dsimp only
            rw [heq']
            exact congrArg (· >>= fun ts => pure (bracketed "dict_values([" ts "])"))
              (hitems 1 _ fun v hv => by
                obtain ⟨e, he, rfl⟩ := List.mem_map.1 hv
                exact (hapart' e he).2)
          | items =>
            dsimp only
            rw [heq']
            exact congrArg (· >>= fun ts => pure (bracketed "dict_items([" ts "])"))
              (hitems 1 _ fun v hv => by
                obtain ⟨e, he, rfl⟩ := List.mem_map.1 hv
                exact ViewKind.apart_ofEntry .items (hapart' e he))
        | function a =>
          dsimp only
          rw [(hh.closure? hv).1]
        | exception c items id =>
          rw [apart_exception] at hv
          have hshown := apart_shownArguments c hv
          have hother := congrArg (· >>= fun ts => pure (c.name ++ bracketed "(" ts ")"))
            (hitems 1 _ hshown)
          rcases items with _ | ⟨w, _ | ⟨x, ws⟩⟩
          · exact hother
          · exact congrArg (· >>= fun ts => pure (c.name ++ bracketed "(" ts ")"))
              (hitems 0 [w] (by simpa using hv))
          · exact hother
        | _ => rfl

theorem shown_alike (hv : v.Apart secret) : v.shown h' = v.shown h := by
  rw [shown, shown, hh.room, show_alike hh _ _ hv]

theorem toText_alike (hv : v.Apart secret) : v.toText h' = v.toText h := by
  have hfiles : ∀ (c : ExceptionClass) (vs files : List Value), fileNames c vs = some files →
      ∀ f ∈ files, f ∈ vs := by
    intro c vs files hfiles f hf
    unfold fileNames at hfiles
    split at hfiles
    · split at hfiles <;> grind
    · contradiction
  induction v using Value.toText.induct with
  | case7 v id =>
    rw [apart_exception] at hv
    rw [toText, toText, if_pos rfl, if_pos rfl, shown_alike hh (hv v (by simp))]
  | case8 c v id hc ih =>
    rw [apart_exception] at hv
    rw [toText, toText, if_neg hc, if_neg hc, ih (hv v (by simp))]
  | case9 c v w vs id hencode htranslate files hnames ihv ihw =>
    rw [apart_exception] at hv
    have hmap : files.mapM (fun f => f.shown h') = files.mapM fun f => f.shown h :=
      mapM_congr fun f hf => shown_alike hh (hv f (hfiles _ _ _ hnames f hf))
    rw [toText, toText]
    · simp only [hnames, hmap, ihv (hv v (by simp)), ihw (hv w (by simp))]
    all_goals assumption
  | case10 c v w vs id hencode htranslate hnames hc ih =>
    rw [apart_exception] at hv
    rw [toText, toText]
    · simp only [hnames, hc, if_true, ih (hv v (by simp))]
    all_goals assumption
  | case11 c v w vs id hencode htranslate hnames hc =>
    rw [apart_exception] at hv
    rw [toText, toText]
    · simp only [hnames, if_neg hc]
      rw [shown_alike hh (by simpa using hv)]
    all_goals assumption
  | case12 v =>
    rw [toText, toText, shown_alike hh hv] <;> assumption
  | case6 c id => rw [toText, toText]
  | _ => rfl

theorem toTextValue_alike (hv : v.Apart secret) : v.toTextValue h' = v.toTextValue h := by
  induction v using Value.toTextValue.induct with
  | case3 v id =>
    rw [toTextValue, toTextValue, if_pos rfl, if_pos rfl, toText_alike hh hv]
  | case4 c v id hc ih =>
    rw [apart_exception] at hv
    rw [toTextValue, toTextValue, if_neg hc, if_neg hc, ih (hv v (by simp))]
  | case5 v h1 h2 h3 =>
    rw [toTextValue, toTextValue, toText_alike hh hv] <;> assumption
  | _ => rfl

theorem textOf_alike {v encoding errors : Option Value} (hv : ∀ w, v = some w → w.Apart secret) :
    textOf h' v encoding errors = textOf h v encoding errors := by
  cases v with
  | none => rfl
  | some v =>
    simp only [textOf]
    refine bind_congr fun _ => bind_congr fun _ => ?_
    cases encoding.or errors with
    | none => exact toTextValue_alike hh (hv v rfl)
    | some _ => rfl

theorem cursor_alike (hv : v.Apart secret) :
    v.cursor h' = v.cursor h ∧ ∀ c, v.cursor h = .ok c → c.Apart secret := by
  unfold cursor
  cases v with
  | text t id =>
    refine ⟨rfl, fun c hc => Except.ok.inj hc ▸ fun w hw => ?_⟩
    obtain ⟨d, -, rfl⟩ := List.mem_map.1 hw
    exact apart_ofChar d
  | tuple items id =>
    exact ⟨rfl, fun c hc => Except.ok.inj hc ▸ by simpa [Cursor.Apart] using hv⟩
  | frozenset items id =>
    exact ⟨rfl, fun c hc => Except.ok.inj hc ▸ by simpa [Cursor.Apart] using hv⟩
  | range i j k id => exact ⟨rfl, fun c hc => Except.ok.inj hc ▸ trivial⟩
  | list a => exact ⟨rfl, fun c hc => Except.ok.inj hc ▸ hv⟩
  | dict a =>
    dsimp only
    rw [(hh.dictionary hv).1]
    exact ⟨rfl, fun c hc => Except.ok.inj hc ▸ hv⟩
  | view k a id =>
    dsimp only
    rw [(hh.dictionary hv).1]
    exact ⟨rfl, fun c hc => Except.ok.inj hc ▸ hv⟩
  | iterator t a => exact ⟨rfl, fun c hc => Except.ok.inj hc ▸ hv.1⟩
  | _ => exact ⟨rfl, fun c hc => by contradiction⟩

theorem backwards_alike (hv : v.Apart secret) :
    v.backwards h' = v.backwards h ∧ ∀ c, v.backwards h = .ok c → c.Apart secret := by
  unfold backwards
  cases v with
  | text t id =>
    refine ⟨rfl, fun c hc => Except.ok.inj hc ▸ fun w hw => ?_⟩
    obtain ⟨d, -, rfl⟩ := List.mem_map.1 hw
    exact apart_ofChar d
  | tuple items id =>
    exact ⟨rfl, fun c hc => Except.ok.inj hc ▸ by simpa [Cursor.Apart] using hv⟩
  | range i j k id => exact ⟨rfl, fun c hc => Except.ok.inj hc ▸ trivial⟩
  | list a =>
    dsimp only
    rw [(hh.itemArray hv).1]
    exact ⟨rfl, fun c hc => Except.ok.inj hc ▸ hv⟩
  | dict a =>
    obtain ⟨heq, hapart⟩ := hh.dictionary hv
    dsimp only
    rw [heq]
    exact ⟨rfl, fun c hc => Except.ok.inj hc ▸ fun w hw => hapart.keys w (List.mem_reverse.1 hw)⟩
  | view k a id =>
    obtain ⟨heq, hapart⟩ := hh.entries hv
    dsimp only
    rw [heq]
    refine ⟨rfl, fun c hc => Except.ok.inj hc ▸ fun w hw => ?_⟩
    obtain ⟨e, he, rfl⟩ := List.mem_map.1 hw
    exact k.apart_ofEntry (hapart e (List.mem_reverse.1 he))
  | _ => exact ⟨rfl, fun c hc => by contradiction⟩

theorem length_alike (hv : v.Apart secret) : v.length h' = v.length h := by
  unfold length
  cases v with
  | list a =>
    dsimp only
    rw [(hh.itemArray hv).1]
  | dict a =>
    dsimp only
    rw [(hh.dictionary hv).1]
  | view k a id =>
    dsimp only
    rw [(hh.dictionary hv).1]
  | _ => rfl

theorem unary_alike (op : UnaryOp) (hv : v.Apart secret) :
    v.unary h' op = v.unary h op ∧ ∀ w, v.unary h op = .ok w → w.Apart secret := by
  unfold unary
  rw [truthy_alike hh hv]
  refine ⟨rfl, fun w hw => ?_⟩
  split at hw
  · exact Except.ok.inj hw ▸ trivial
  · exact Except.ok.inj hw ▸ trivial
  · exact Except.ok.inj hw ▸ hv
  · obtain ⟨m, -, hw⟩ := Result.exists_of_bind hw
    exact Except.ok.inj hw ▸ by cases m <;> trivial
  · contradiction

theorem getAttribute_alike (n : Text) (hv : v.Apart secret) :
    v.getAttribute h' n = v.getAttribute h n ∧
      ∀ w, v.getAttribute h n = .ok w → w.Apart secret := by
  have hparts : v.parts h' = v.parts h ∧ ∀ e ∈ v.parts h, e.2.Apart secret := by
    unfold parts
    cases v with
    | function a =>
      dsimp only
      rw [(hh.closure? hv).1]
      simp
    | slice a b c id => simpa using hv
    | exception c vs id =>
      rw [apart_exception] at hv
      refine ⟨rfl, fun e he => ?_⟩
      obtain rfl := List.mem_singleton.1 he
      dsimp only
      split
      · simp
      · simpa using apart_shownArguments c hv
    | type t => cases t <;> simp
    | int i id => simp [numberParts]
    | float f id => simp [numberParts]
    | bool b => simp [numberParts]
    | complex c id => simp [numberParts]
    | date d id => simp [dateParts]
    | moment m id => simp [momentParts, dateParts]
    | _ => simp [numberParts]
  have hmethod : ∀ m, v.method? n = some m → m.Apart secret := by
    intro m hm
    unfold method? at hm
    split at hm
    · obtain ⟨k, -, rfl⟩ := Option.map_eq_some_iff.1 hm
      trivial
    · obtain ⟨k, -, rfl⟩ := Option.map_eq_some_iff.1 hm
      exact hv
    · contradiction
  unfold getAttribute
  rw [hparts.1]
  refine ⟨rfl, fun w hw => ?_⟩
  split at hw
  · exact Except.ok.inj hw ▸ apart_typeOf v
  · split at hw
    · next m hm =>
      exact Except.ok.inj hw ▸ hmethod _ hm
    · next e _ he =>
      exact Except.ok.inj hw ▸ hparts.2 _ (List.mem_of_find?_eq_some he)
    · contradiction

end Value

section

variable {v : Value} {vs : List Value} (hh : h.Alike hidden secret h')
include hh

theorem ListMethod.position_alike (hv : v.Apart secret) (hvs : ∀ w ∈ vs, w.Apart secret) :
    position h' v vs = position h v vs := by
  induction vs with
  | nil => rfl
  | cons w ws ih =>
    obtain ⟨hw, hws⟩ := List.forall_mem_cons.1 hvs
    rw [position, position, Value.isItem_alike hh w v hw hv, ih hws]

theorem ListMethod.countOf_alike (hv : v.Apart secret) (hvs : ∀ w ∈ vs, w.Apart secret) :
    countOf h' v vs = countOf h v vs := by
  unfold countOf
  generalize 0 = n
  induction vs generalizing n with
  | nil => rfl
  | cons w ws ih =>
    obtain ⟨hw, hws⟩ := List.forall_mem_cons.1 hvs
    rw [List.foldlM_cons, List.foldlM_cons, Value.isItem_alike hh w v hw hv]
    exact bind_congr fun m => ih hws m

theorem ListMethod.indexOf_alike (hv : v.Apart secret) (hvs : ∀ w ∈ vs, w.Apart secret)
    (start stop : Option Value) : indexOf h' vs v start stop = indexOf h vs v start stop := by
  have hpart : ∀ i j, position h' v ((vs.take j).drop i) = position h v ((vs.take j).drop i) :=
    fun i j => position_alike hh hv fun w hw => hvs w (List.mem_of_mem_take (List.mem_of_mem_drop hw))
  unfold indexOf
  simp only [hpart]

theorem Builtin.best_alike (op : Value.Order) {es : List (Value × Value)}
    (hes : ∀ e ∈ es, Item.Apart secret e) {best : Value × Value} (hbest : Item.Apart secret best) :
    (es.foldlM (fun best e => do
      if ← Value.ordered h' op e.1 best.1 then return e else return best) best : Result _) =
    (es.foldlM (fun best e => do
      if ← Value.ordered h op e.1 best.1 then return e else return best) best : Result _) ∧
    ∀ b, (es.foldlM (fun best e => do
      if ← Value.ordered h op e.1 best.1 then return e else return best) best : Result _) = .ok b →
      Item.Apart secret b := by
  induction es generalizing best with
  | nil => exact ⟨rfl, fun b hb => Except.ok.inj hb ▸ hbest⟩
  | cons f es ih =>
    obtain ⟨hf, hes⟩ := List.forall_mem_cons.1 hes
    rw [List.foldlM_cons, List.foldlM_cons, Value.ordered_alike hh op f.1 best.1 hf.1 hbest.1]
    cases ho : Value.ordered h op f.1 best.1 with
    | error e => exact ⟨rfl, fun b hb => by contradiction⟩
    | ok o =>
      cases o with
      | true => exact ih hes hf
      | false => exact ih hes hbest

theorem Builtin.extreme_alike (op : Value.Order) {es : List (Value × Value)}
    (hes : ∀ e ∈ es, Item.Apart secret e) :
    extreme h' op es = extreme h op es ∧
      ∀ w, extreme h op es = .ok (some w) → w.Apart secret := by
  cases es with
  | nil => exact ⟨rfl, fun w hw => by simp [extreme, pure, Except.pure] at hw⟩
  | cons e es =>
    obtain ⟨he, hes⟩ := List.forall_mem_cons.1 hes
    obtain ⟨heq, hapart⟩ := best_alike hh op hes he
    rw [extreme, extreme, heq]
    refine ⟨rfl, fun w hw => ?_⟩
    obtain ⟨b, hb, hw⟩ := Result.exists_of_bind hw
    exact Option.some.inj (Except.ok.inj hw) ▸ (hapart b hb).2

theorem Value.commonItems_alike {xs ys : List Value} (hxs : ∀ x ∈ xs, x.Apart secret)
    (hys : ∀ y ∈ ys, y.Apart secret) :
    commonItems h' xs ys = commonItems h xs ys ∧
      ∀ zs, commonItems h xs ys = .ok zs → ∀ z ∈ zs, z.Apart secret := by
  have hknown : (Dictionary.ofEntries (xs.map fun x => (x, none))).Apart secret := by
    refine Dictionary.apart_ofEntries fun e he => ?_
    obtain ⟨x, hx, rfl⟩ := List.mem_map.1 he
    exact ⟨hxs x hx, trivial⟩
  have hfilter := filterM_alike (P := Value.Apart secret)
    (f := fun y => do return (← (Dictionary.ofEntries (xs.map fun x => (x, none))).find? h y).isSome)
    (g := fun y => do return (← (Dictionary.ofEntries (xs.map fun x => (x, none))).find? h' y).isSome)
    (fun y hy => by rw [(Dictionary.find?_alike hh hknown (hys y hy)).1]) hys
  unfold commonItems
  dsimp only
  rw [hfilter.1]
  cases hcheck : ys.forM checkKey with
  | error e => exact ⟨rfl, fun zs hzs => by contradiction⟩
  | ok u =>
    cases hkept : ys.filterM fun y => do
        return (← (Dictionary.ofEntries (xs.map fun x => (x, none))).find? h y).isSome with
    | error e => exact ⟨rfl, fun zs hzs => by contradiction⟩
    | ok ks => exact Dictionary.distinctKeys_alike hh (hfilter.2 ks hkept)

theorem Directive.apply_alike (d : Directive) (hv : v.Apart secret) :
    d.apply h' v = d.apply h v := by
  unfold Directive.apply
  rw [Value.toText_alike hh hv, Value.shown_alike hh hv]

end
end TemplateEngine.Script
