import TemplateEngine.Proofs.Cache.Ledger

set_option autoImplicit false

/-!
# Caches are ledgers

Every request gets the same reply from a workspace as from a ledger, and leaves what the ledger then
stands for. Soundness is what carries this from one request to the next: it is kept by every action
that has nothing to do with caches, because such an action takes no module away, and by every change
of a shelf.
-/
namespace TemplateEngine

open TemplateEngine.Action

namespace Shelf

variable (c : Shelf) (identity : Text)

theorem lookup_entries (ss : List Snapshot) :
    Table.lookup identity (ss.map fun s => (s.identity, (⟨s.function, s.artifact⟩ : Entry))) =
      (ss.find? fun s => s.identity = identity).map fun s => ⟨s.function, s.artifact⟩ := by
  induction ss with
  | nil => rfl
  | cons s ss ih =>
    by_cases h : s.identity = identity
    · simp [Table.lookup, h]
    · simp [Table.lookup, h, ih]

theorem find?_entries : c.toCache.entries.find? identity =
    (c.find? identity).map fun s => ⟨s.function, s.artifact⟩ :=
  lookup_entries identity c.snapshots

theorem keys_entries : c.toCache.entries.keys = c.identities := by
  simp [toCache, Table.keys, identities, Function.comp_def]

theorem toCache_drop : (c.drop identity).toCache =
    { c.toCache with entries := c.toCache.entries.erase identity } := by
  have h : ∀ ss : List Snapshot,
      Table.without identity (ss.map fun s => (s.identity, (⟨s.function, s.artifact⟩ : Entry))) =
        (ss.filter fun s => s.identity ≠ identity).map fun s =>
          (s.identity, ⟨s.function, s.artifact⟩) := by
    intro ss
    induction ss with
    | nil => rfl
    | cons s ss ih =>
      by_cases hs : s.identity = identity
      · simpa [Table.without, hs] using ih
      · simpa [Table.without, hs] using ih
  simp only [toCache, drop, Table.erase, h]

theorem find?_eq_none_iff : c.find? identity = none ↔ identity ∉ c.identities := by
  simp [find?, identities]

theorem put_entries (s : Snapshot) (ss : List Snapshot)
    (h : s.identity ∉ ss.map Snapshot.identity) :
    Table.put s.identity (⟨s.function, s.artifact⟩ : Entry)
        (ss.map fun s => (s.identity, ⟨s.function, s.artifact⟩)) =
      (ss ++ [s]).map fun s => (s.identity, ⟨s.function, s.artifact⟩) := by
  induction ss with
  | nil => rfl
  | cons t ss ih =>
    simp only [List.map_cons, List.mem_cons, not_or] at h
    have ht : t.identity ≠ s.identity := fun e => h.1 e.symm
    simpa [Table.put, ht] using ih h.2

end Shelf

namespace Snapshot.Sound

variable {c d : Shelf} {w v : Workspace} {s : Snapshot}

theorem keeps (h : s.Sound c w) (hk : w.Keeps v) : s.Sound c v := by
  obtain ⟨m, n, hm, hf, hn, he⟩ := h.made
  obtain ⟨k, hk', hnk⟩ := hk.modules _ n hn
  exact ⟨h.compiled, m, k, hm, hf, hk', he.trans hnk⟩

theorem congr (h : s.Sound c w) (hd : d.delimiters = c.delimiters) (hs : d.store = c.store) :
    s.Sound d w := by
  refine ⟨?_, ?_⟩
  · simpa only [Shelf.compile, hd] using h.compiled
  · rw [hs]
    exact h.made

end Snapshot.Sound

theorem Shelf.Sound.keeps {c : Shelf} {w v : Workspace} (h : c.Sound w) (hk : w.Keeps v) :
    c.Sound v :=
  ⟨h.ready.keeps hk, h.nodup, fun s hs => (h.snapshots s hs).keeps hk⟩

namespace Ledger

variable {l : Ledger} {n : Nat} {c d : Shelf} {α β : Type}

theorem getElem?_put (hc : l.shelves[n]? = some c) (i : Nat) :
    (l.put n d).shelves[i]? = if n = i then some d else l.shelves[i]? := by
  obtain ⟨hn, -⟩ := Array.getElem?_eq_some_iff.1 hc
  by_cases h : n = i
  · subst h
    simp [Ledger.put, hn]
  · simp [Ledger.put, h]

namespace Sound

theorem changeWorld (h : l.Sound) {w : Workspace} (hk : l.world.Keeps w) :
    ({ l with world := w } : Ledger).Sound := by
  refine ⟨?_, fun i c hc => (h.shelves i c hc).keeps hk, h.apart⟩
  have := h.here
  rw [← hk.here] at this
  exact this

theorem within (h : l.Sound) {x : Action α} (hx : Apart x) : (l.within x).2.Sound :=
  h.changeWorld (hx.keeps l.world)

/-- A shelf may be replaced by one whose snapshots have their modules for themselves. -/
theorem put (h : l.Sound) (hc : l.shelves[n]? = some c) (hd : d.Sound l.world)
    (ho : ∀ s ∈ d.snapshots, ∀ (i : Nat) (e : Shelf), l.shelves[i]? = some e → i ≠ n →
      ∀ t ∈ e.snapshots, s.function.owner ≠ t.function.owner)
    (hs : ∀ s ∈ d.snapshots, ∀ t ∈ d.snapshots, s.function.owner = t.function.owner → s = t) :
    (l.put n d).Sound := by
  refine ⟨h.here, fun i e he => ?_, fun i j a b ha hb s hsa t htb e => ?_⟩
  · rw [getElem?_put hc] at he
    split at he
    · obtain rfl := Option.some.inj he
      exact hd
    · exact h.shelves i e he
  · rw [getElem?_put hc] at ha hb
    split at ha
    · next hi =>
      obtain rfl := Option.some.inj ha
      split at hb
      · next hj =>
        obtain rfl := Option.some.inj hb
        exact ⟨hi.symm.trans hj, hs s hsa t htb e⟩
      · next hj => exact absurd e (ho s hsa j b hb (Ne.symm hj) t htb)
    · next hi =>
      split at hb
      · obtain rfl := Option.some.inj hb
        exact absurd e.symm (ho t htb i a ha (Ne.symm hi) s hsa)
      · exact h.apart i j a b ha hb s hsa t htb e

theorem put_of_sublist (h : l.Sound) (hc : l.shelves[n]? = some c)
    (hd : d.delimiters = c.delimiters) (hs : d.store = c.store)
    (hsub : d.snapshots.Sublist c.snapshots) : (l.put n d).Sound := by
  have hsound := h.shelves n c hc
  refine h.put hc ⟨hs ▸ hsound.ready, ?_, fun s hm => ?_⟩ (fun s hm i e he hi t ht eq => ?_)
    fun s hm t ht eq => ?_
  · exact hsound.nodup.sublist (hsub.map _)
  · exact (hsound.snapshots s (hsub.subset hm)).congr hd hs
  · exact hi (h.apart n i c e hc he s (hsub.subset hm) t ht eq).1.symm
  · exact (h.apart n n c c hc hc s (hsub.subset hm) t (hsub.subset ht) eq).2

/-- A shelf may gain a snapshot whose module is a new one. -/
theorem put_concat (h : l.Sound) (hc : l.shelves[n]? = some c) (hd : d.delimiters = c.delimiters)
    (hs : d.store = c.store) {s : Snapshot} (hss : d.snapshots = c.snapshots ++ [s])
    (hnew : s.identity ∉ c.identities) (hsound : s.Sound c l.world)
    (hfresh : ∀ (i : Nat) (e : Shelf), l.shelves[i]? = some e → ∀ t ∈ e.snapshots,
      t.function.owner ≠ s.function.owner) : (l.put n d).Sound := by
  have hold := h.shelves n c hc
  have hmem : ∀ t, t ∈ d.snapshots ↔ t ∈ c.snapshots ∨ t = s := fun t => by simp [hss]
  refine h.put hc ⟨hs ▸ hold.ready, ?_, fun t ht => ?_⟩ (fun t ht i e he hi u hu eq => ?_)
    fun t ht u hu eq => ?_
  · rw [Shelf.identities, hss, List.map_append, List.nodup_append]
    refine ⟨hold.nodup, by simp, fun a ha b hb eq => hnew ?_⟩
    obtain rfl : b = s.identity := by simpa using hb
    exact eq ▸ ha
  · obtain ht | rfl := (hmem t).1 ht
    · exact (hold.snapshots t ht).congr hd hs
    · exact hsound.congr hd hs
  · obtain ht | rfl := (hmem t).1 ht
    · exact hi (h.apart n i c e hc he t ht u hu eq).1.symm
    · exact hfresh i e he u hu eq.symm
  · obtain ht | rfl := (hmem t).1 ht
    · obtain hu | rfl := (hmem u).1 hu
      · exact (h.apart n n c c hc hc t ht u hu eq).2
      · exact absurd eq (hfresh n c hc t ht)
    · obtain hu | rfl := (hmem u).1 hu
      · exact absurd eq.symm (hfresh n c hc u hu)
      · rfl

end Sound

/-- The action gives this and leaves a sound ledger. -/
def Answers (l : Ledger) (x : Action α) (r : Except Failure α × Ledger) : Prop :=
  x.exec l.toWorkspace = (r.1, r.2.toWorkspace) ∧ r.2.Sound

namespace Answers

theorem pure (h : l.Sound) (a : α) : l.Answers (pure a) (.ok a, l) := ⟨rfl, h⟩

theorem throw (h : l.Sound) (e : Failure) : l.Answers (throw e : Action α) (.error e, l) := ⟨rfl, h⟩

theorem bind {x : Action α} {r : Except Failure α × Ledger} {f : α → Action β}
    {g : α → Ledger → Except Failure β × Ledger} (hx : l.Answers x r)
    (hf : ∀ a m, r = (.ok a, m) → m.Sound → m.Answers (f a) (g a m)) :
    l.Answers (x >>= f) (andThen r g) := by
  obtain ⟨hx, hs⟩ := hx
  obtain ⟨r, m⟩ := r
  cases r with
  | error e => exact ⟨exec_bind_error hx, hs⟩
  | ok a =>
    obtain ⟨hg, hgs⟩ := hf a m rfl hs
    exact ⟨(exec_bind_ok hx).trans hg, hgs⟩

theorem within (h : l.Sound) {x : Action α} (hx : Apart x) : l.Answers x (l.within x) :=
  ⟨hx.blind l.world _, h.within hx⟩

theorem find {f : Cache → Action α} {g : Shelf → Except Failure α × Ledger} (h : l.Sound)
    (hf : ∀ c, l.shelves[n]? = some c → l.Answers (f c.toCache) (g c)) :
    l.Answers (Cache.find n >>= f) (l.onShelf n g) := by
  have hcaches : l.toWorkspace.caches[n]? = l.shelves[n]?.map Shelf.toCache := by
    simp [toWorkspace, Workspace.withCaches]
  unfold onShelf
  cases hc : l.shelves[n]? with
  | none =>
    refine ⟨exec_bind_error ?_, h⟩
    simp only [Cache.find, exec_bind, exec_get, hcaches, hc, Option.map_none, exec_throw]
  | some c =>
    obtain ⟨he, hs⟩ := hf c hc
    refine ⟨Eq.trans (exec_bind_ok (a := c.toCache) (v := l.toWorkspace) ?_) he, hs⟩
    simp only [Cache.find, exec_bind, exec_get, hcaches, hc, Option.map_some, exec_pure]

end Answers

theorem exec_find (hc : l.shelves[n]? = some c) :
    (Cache.find n).exec l.toWorkspace = (.ok c.toCache, l.toWorkspace) := by
  have hcaches : l.toWorkspace.caches[n]? = some c.toCache := by
    simp [toWorkspace, Workspace.withCaches, hc]
  simp only [Cache.find, exec_bind, exec_get, hcaches, exec_pure]

theorem exec_change {f : Cache → Cache} (hc : l.shelves[n]? = some c)
    (hf : f c.toCache = d.toCache) :
    (Cache.change n f).exec l.toWorkspace = (.ok (), (l.put n d).toWorkspace) := by
  have h : (l.shelves.map Shelf.toCache).modify n f =
      (l.shelves.setIfInBounds n d).map Shelf.toCache := by
    obtain ⟨hn, hat⟩ := Array.getElem?_eq_some_iff.1 hc
    refine Array.ext_getElem? fun i => ?_
    by_cases e : n = i
    · subst e
      simp [Array.getElem_modify, hn, hat, hf]
    · simp [Array.getElem?_modify, e]
  have he : (Cache.change n f).exec l.toWorkspace =
      (.ok (), l.world.withCaches ((l.shelves.map Shelf.toCache).modify n f)) := rfl
  rw [he, h]
  rfl

theorem put_put (l : Ledger) (n : Nat) (c d : Shelf) : (l.put n c).put n d = l.put n d := by
  simp [put]

theorem getElem?_put_self (hc : l.shelves[n]? = some c) : (l.put n d).shelves[n]? = some d := by
  rw [getElem?_put hc, if_pos rfl]

theorem exec_source (hc : l.shelves[n]? = some c) (place : Place) :
    (Cache.source n place).exec l.toWorkspace =
      (c.read l.world place, (l.put n { c with reads := c.reads + 1 }).toWorkspace) := by
  have hput := getElem?_put_self (d := { c with reads := c.reads + 1 }) hc
  rw [Cache.source, exec_bind_ok (exec_change (d := { c with reads := c.reads + 1 }) hc rfl),
    exec_bind_ok (exec_find hput)]
  cases hr : c.reader with
  | fixed source =>
    simp only [Shelf.toCache, hr, Shelf.read]
    rfl
  | files =>
    simp only [Shelf.toCache, hr, Shelf.read]
    rw [exec_bind, exec_get]
    simp only [exec_ofExcept]
    have hid : ∀ r : Except Failure Text, r.mapError id = r := fun r => by cases r <;> rfl
    rw [hid]
    rfl

theorem exec_compile (hc : l.shelves[n]? = some c) (source : Text) (place : Place) :
    (Cache.compile n source place).exec l.toWorkspace =
      (.ok (c.compile source place),
        (l.put n { c with compiles := c.compiles + 1 }).toWorkspace) := by
  have hput := getElem?_put_self (d := { c with compiles := c.compiles + 1 }) hc
  rw [Cache.compile, exec_bind_ok (exec_change (d := { c with compiles := c.compiles + 1 }) hc rfl),
    exec_bind_ok (exec_find hput)]
  rfl

theorem ready_toWorkspace {s : Store} (h : s.Ready l.world) : s.Ready l.toWorkspace := by
  cases s with
  | memory k => exact h
  | files workArea => exact h

/-- What the store does in a load is to install the code. -/
theorem install_answers (h : l.Sound) (hc : l.shelves[n]? = some c) {identity code : Text} :
    l.Answers
      (do
        let ref ← c.store.persist identity code
        c.store.unload ref
        return (ref, ← c.store.load ref))
      (l.within (c.store.install identity code)) := by
  have hready := ready_toWorkspace (h.shelves n c hc).ready
  obtain ⟨he, hs⟩ := Answers.within h (Store.apart_install c.store identity code)
  exact ⟨(Store.exec_install hready).trans he, hs⟩

theorem keep_answers (h : l.Sound) (hc : l.shelves[n]? = some c) {source : Text} {g : Handle}
    (hid : g.identity = Identity.ofPlace g.location) (hnew : g.identity ∉ c.identities) :
    l.Answers
      (do
        let ref ← c.store.persist g.identity (c.compile source g.location)
        c.store.unload ref
        let f ← c.store.load ref
        Cache.change n fun k => { k with entries := k.entries.insert g.identity ⟨f, ref⟩ })
      (andThen (l.within (c.store.install g.identity (c.compile source g.location)))
        fun made l => (.ok (), l.put n { c with snapshots := c.snapshots ++
          [⟨g.identity, source, c.compile source g.location, made.1, made.2⟩] })) := by
  have hinstall : l.Answers _
      (l.within (c.store.install g.identity (c.compile source g.location))) :=
    install_answers h hc
  have hbind := Answers.bind (f := fun made : Text × Runnable => Cache.change n fun k =>
      { k with entries := k.entries.insert g.identity ⟨made.2, made.1⟩ })
    (g := fun made m => (.ok (), m.put n { c with snapshots := c.snapshots ++
      [⟨g.identity, source, c.compile source g.location, made.1, made.2⟩] }))
    hinstall (fun made m hmade hm => ?_)
  · simpa only [bind_assoc, pure_bind] using hbind
  · obtain ⟨ref, f⟩ := made
    have hw : (c.store.install g.identity (c.compile source g.location)).exec l.world =
        (.ok (ref, f), m.world) := by
      rw [within, Prod.mk.injEq] at hmade
      rw [← hmade.1, ← hmade.2]
    have hshelves : m.shelves = l.shelves := by
      rw [within, Prod.mk.injEq] at hmade
      rw [← hmade.2]
    have hmc : m.shelves[n]? = some c := hshelves ▸ hc
    obtain ⟨k, hk, hf, howner, hat⟩ := Store.eq_of_install hw
    refine ⟨exec_change hmc ?_, hm.put_concat hmc rfl rfl rfl hnew
      ⟨⟨g.location, hid, rfl⟩, k, k, hk, hf, hat, .refl k⟩ fun i e he t ht ho => ?_⟩
    · simp only [Shelf.toCache, Table.insert]
      rw [← Shelf.put_entries ⟨g.identity, source, c.compile source g.location, ref, f⟩ _ hnew]
    · obtain ⟨_, t', -, -, ht', -⟩ := ((h.shelves i e (hshelves ▸ he)).snapshots t ht).made
      have hlt := Workspace.Keeps.lt_size ht'
      rw [ho] at hlt
      exact absurd howner (Nat.not_le.2 hlt)

theorem insert_answers (h : l.Sound) (hc : l.shelves[n]? = some c) {g : Handle}
    (hid : g.identity = Identity.ofPlace g.location) (hnew : g.identity ∉ c.identities) :
    l.Answers (Cache.insert n g) (l.insert n c g) := by
  have hput := getElem?_put_self (d := { c with reads := c.reads + 1 }) hc
  have hput' := getElem?_put_self
    (d := { c with reads := c.reads + 1, compiles := c.compiles + 1 }) hc
  unfold insert Cache.insert
  cases hr : c.read l.world g.location with
  | error e =>
    refine ⟨?_, h.put_of_sublist hc rfl rfl (List.Sublist.refl _)⟩
    rw [exec_bind, exec_source hc, hr]
  | ok source =>
    have hm : (l.put n { c with reads := c.reads + 1, compiles := c.compiles + 1 }).Sound :=
      h.put_of_sublist hc rfl rfl (List.Sublist.refl _)
    obtain ⟨he, hs⟩ := @keep_answers _ _ _ hm hput' source g hid hnew
    refine ⟨Eq.trans ?_ he, hs⟩
    rw [exec_bind_ok (by rw [exec_source hc, hr]), exec_bind_ok (exec_compile hput _ _), put_put,
      exec_bind_ok (exec_find hput')]
    rfl

theorem exec_handle (l : Ledger) (n : Nat) (location : Path) :
    (Cache.handle n location).exec l.toWorkspace =
      match Identity.placeOf l.world.here location with
      | .ok place => (.ok ⟨place, Identity.ofPlace place, n⟩, l.toWorkspace)
      | .error f => (.error (.location f), l.toWorkspace) := by
  have hh : l.toWorkspace.here = l.world.here := rfl
  simp only [Cache.handle, Store.resolve, exec_bind, exec_get, exec_ofExcept, hh]
  cases Identity.placeOf l.world.here location <;> rfl

/-- A template that a shelf does not hold is put on it. -/
theorem hold_answers (h : l.Sound) (n : Nat) (place : Place) : l.Answers
    (do
      let held ← Cache.contains n (Identity.ofPlace place)
      if !held then Cache.insert n ⟨place, Identity.ofPlace place, n⟩
      return (⟨place, Identity.ofPlace place, n⟩ : Handle))
    (l.onShelf n fun c =>
      match c.find? (Identity.ofPlace place) with
      | some _ => (.ok (⟨place, Identity.ofPlace place, n⟩ : Handle), l)
      | none => andThen (l.insert n c ⟨place, Identity.ofPlace place, n⟩) fun _ l =>
          (.ok (⟨place, Identity.ofPlace place, n⟩ : Handle), l)) := by
  simp only [Cache.contains, bind_assoc, pure_bind]
  refine .find h fun c hc => ?_
  have hheld : c.toCache.entries.contains (Identity.ofPlace place) =
      (c.find? (Identity.ofPlace place)).isSome := by
    simp [Table.contains, Shelf.find?_entries]
  rw [hheld]
  cases hf : c.find? (Identity.ofPlace place) with
  | some s => exact .pure h _
  | none =>
    have hnew := (c.find?_eq_none_iff _).1 hf
    exact .bind (insert_answers h hc rfl hnew) fun _ m _ hm => .pure hm _

theorem load_answers (h : l.Sound) (n : Nat) (location : Path) :
    l.Answers (Cache.load n location) (l.load n location) := by
  have hhandle := exec_handle l n location
  unfold load Cache.load
  cases hp : Identity.placeOf l.world.here location with
  | error f =>
    rw [hp] at hhandle
    exact ⟨exec_bind_error hhandle, h⟩
  | ok place =>
    rw [hp] at hhandle
    have hrest := hold_answers h n place
    exact ⟨(exec_bind_ok hhandle).trans hrest.1, hrest.2⟩

theorem drop_sound (h : l.Sound) (hc : l.shelves[n]? = some c) {s : Snapshot} (identity : Text) :
    ({ l with world := c.store.forget s.artifact l.world }.put n (c.drop identity)).Sound := by
  have hk := (Store.apart_unload c.store s.artifact).keeps l.world
  rw [Store.exec_unload] at hk
  exact (h.changeWorld hk).put_of_sublist hc rfl rfl List.filter_sublist

theorem exec_drop (hc : l.shelves[n]? = some c) (s : Snapshot) (identity : Text) :
    (do
      Cache.change n fun c => { c with entries := c.entries.erase identity }
      c.store.unload s.artifact).exec l.toWorkspace =
    (.ok (), ({ l with world := c.store.forget s.artifact l.world }.put n
      (c.drop identity)).toWorkspace) := by
  rw [exec_bind_ok (exec_change (d := c.drop identity) hc (c.toCache_drop identity).symm)]
  refine ((Store.apart_unload c.store s.artifact).blind l.world _).trans ?_
  rw [Store.exec_unload]
  rfl

theorem invalidate_answers (h : l.Sound) (n : Nat) (identity : Text) :
    l.Answers (Cache.invalidate n identity) (l.invalidate n identity) := by
  unfold invalidate Cache.invalidate
  refine .find h fun c hc => ?_
  rw [Shelf.find?_entries]
  cases c.find? identity with
  | none => exact .pure h ()
  | some s => exact ⟨exec_drop hc s identity, drop_sound h hc identity⟩

theorem reload_answers (h : l.Sound) (n : Nat) (g : Handle) :
    l.Answers (Cache.reload n g) (l.reload n g) :=
  .bind (invalidate_answers h n g.identity) fun _ _ _ hm => load_answers hm n g.location.toPath

theorem put_self (hc : l.shelves[n]? = some c) : l.put n c = l := by
  obtain ⟨w, shelves⟩ := l
  simp only [put, mk.injEq, true_and]
  refine Array.ext_getElem? fun i => ?_
  have := getElem?_put (l := ⟨w, shelves⟩) (d := c) hc i
  simp only [put] at this
  rw [this]
  split
  · next e => exact e ▸ hc.symm
  · rfl

/-- Dropping one snapshot after another, the first one first, leaves none. -/
theorem exec_dropAll {ss : List Snapshot} (h : l.Sound) (hc : l.shelves[n]? = some c)
    (hss : c.snapshots = ss) :
    ((ss.map Snapshot.identity).forM (Cache.invalidate n)).exec l.toWorkspace =
        (.ok (), ({ l with world := c.store.forgetAll (ss.map Snapshot.artifact) l.world }.put n
          { c with snapshots := [] }).toWorkspace) ∧
      ({ l with world := c.store.forgetAll (ss.map Snapshot.artifact) l.world }.put n
        { c with snapshots := [] }).Sound := by
  induction ss generalizing l c with
  | nil =>
    have he : ({ c with snapshots := [] } : Shelf) = c := by rw [← hss]
    rw [he]
    simp only [List.map_nil, Store.forgetAll, List.foldl_nil, put_self hc]
    exact ⟨rfl, h⟩
  | cons s ss ih =>
    have hnodup := (h.shelves n c hc).nodup
    rw [Shelf.identities, hss, List.map_cons, List.nodup_cons] at hnodup
    have hfind : c.find? s.identity = some s := by simp [Shelf.find?, hss]
    have hdrop : (c.drop s.identity).snapshots = ss := by
      simp only [Shelf.drop, hss, ne_eq, not_true, decide_false, Bool.false_eq_true,
        not_false_eq_true, List.filter_cons_of_neg]
      refine List.filter_eq_self.2 fun t ht => ?_
      have : t.identity ≠ s.identity := fun e => hnodup.1 (e ▸ List.mem_map_of_mem ht)
      simpa using this
    obtain ⟨he, hs⟩ := invalidate_answers h n s.identity
    have hinv : l.invalidate n s.identity = (.ok (),
        { l with world := c.store.forget s.artifact l.world }.put n (c.drop s.identity)) := by
      simp only [invalidate, onShelf, hc, hfind]
    rw [hinv] at he hs
    have hc' : ({ l with world := c.store.forget s.artifact l.world }.put n
        (c.drop s.identity)).shelves[n]? = some (c.drop s.identity) :=
      getElem?_put_self (l := { l with world := c.store.forget s.artifact l.world }) hc
    obtain ⟨he', hs'⟩ := ih hs hc' hdrop
    have hsame := put_put ⟨c.store.forgetAll ((s :: ss).map Snapshot.artifact) l.world, l.shelves⟩
      n (c.drop s.identity) { c with snapshots := [] }
    rw [← hsame]
    exact ⟨(exec_bind_ok he).trans he', hs'⟩

theorem clear_answers (h : l.Sound) (n : Nat) : l.Answers (Cache.clear n) (l.clear n) := by
  unfold clear Cache.clear
  refine .find h fun c hc => ?_
  rw [Shelf.keys_entries]
  exact (exec_dropAll h hc rfl)

theorem render_answers (h : l.Sound) (n : Nat) (identity : Text) (context : Data) :
    l.Answers (Cache.render n identity context) (l.render n identity context) := by
  unfold render Cache.render
  refine .find h fun c hc => ?_
  rw [Shelf.find?_entries]
  have hstrict : c.toCache.strict = c.strict := rfl
  cases c.find? identity with
  | some s => exact .within h (.call s.function [context])
  | none =>
    rw [hstrict]
    cases c.strict with
    | true => exact .throw h _
    | false => exact .pure h _

theorem attempt_answers {x : Action α} {r : Except Failure α × Ledger} (h : l.Answers x r) :
    l.Answers x.attempt (.ok r.1, r.2) := by
  obtain ⟨hx, hs⟩ := h
  refine ⟨?_, hs⟩
  rw [exec_attempt, hx]

/-- Clearing fails only if there is no such cache, and then it changes nothing. -/
theorem closing_answers {use : Action α} {r : Except Failure α × Ledger} (h : l.Answers use r) :
    l.Answers (Cache.closing n use) (closing n r) := by
  obtain ⟨hx, hs⟩ := h
  obtain ⟨r, m⟩ := r
  obtain ⟨hclear, hsound⟩ := clear_answers hs n
  have hagain : ∀ f k, m.clear n = (.error f, k) → k = m := by
    intro f k hk
    unfold clear onShelf at hk
    split at hk <;> simp_all
  dsimp only at hx hclear hsound
  unfold Answers Cache.closing closing
  rw [exec_tryCatch]
  cases hc : m.clear n with
  | mk q k =>
    rw [hc] at hclear hsound
    cases q with
    | ok u =>
      cases r with
      | ok a =>
        have : (do let a ← use; Cache.clear n; return a).exec l.toWorkspace =
            (.ok a, k.toWorkspace) := by
          rw [exec_bind_ok hx, exec_bind_ok hclear]
          rfl
        rw [this]
        exact ⟨rfl, hsound⟩
      | error e =>
        have : (do let a ← use; Cache.clear n; return a).exec l.toWorkspace =
            (.error e, m.toWorkspace) := exec_bind_error hx
        rw [this]
        dsimp only
        rw [exec_bind_ok hclear]
        exact ⟨rfl, hsound⟩
    | error f =>
      obtain rfl := hagain f k hc
      cases r with
      | ok a =>
        have : (do let a ← use; Cache.clear n; return a).exec l.toWorkspace =
            (.error f, k.toWorkspace) := by
          rw [exec_bind_ok hx, exec_bind_error hclear]
        rw [this]
        dsimp only
        rw [exec_bind_error hclear]
        exact ⟨rfl, hsound⟩
      | error e =>
        have : (do let a ← use; Cache.clear n; return a).exec l.toWorkspace =
            (.error e, k.toWorkspace) := exec_bind_error hx
        rw [this]
        dsimp only
        rw [exec_bind_error hclear]
        exact ⟨rfl, hsound⟩

theorem visit_answers (h : l.Sound) (n : Nat) (location : Path) (context : Data) :
    l.Answers (Cache.visit n location context) (l.visit n location context) := by
  refine closing_answers (.bind (load_answers h n location) fun g m _ hm => ?_)
  have huse := attempt_answers (Answers.bind (render_answers hm n g.identity context)
    (f := fun v => do return (v, (← Cache.find n).entries.keys.length))
    (g := fun v l => l.onShelf n fun c => (.ok (v, c.identities.length), l))
    fun v k _ hk => .find hk fun c _ => by
      rw [Shelf.keys_entries]
      exact .pure hk _)
  obtain ⟨hx, hs⟩ := huse
  exact ⟨(exec_bind_ok hx).trans rfl, hs⟩

end Ledger

theorem StoreChoice.apart_get (choice : StoreChoice) : Apart choice.get := by
  cases choice with
  | memory => exact Store.apart_create none
  | shared n =>
    refine .get (fun w => ?_) fun _ _ => rfl
    split
    · exact .pure _
    · exact .throw _
  | files path => exact Store.apart_create (some (.ofText path))

theorem StoreChoice.ready_get {choice : StoreChoice} {w v : Workspace} {s : Store}
    (hw : w.here.Clean) (h : choice.get.exec w = (.ok s, v)) : s.Ready v := by
  cases choice with
  | memory =>
    have hm : (StoreChoice.get .memory).exec w =
        (.ok (.memory w.memories.size), { w with memories := w.memories.push {} }) := rfl
    rw [hm, Prod.mk.injEq, Except.ok.injEq] at h
    obtain ⟨rfl, rfl⟩ := h
    simp [Store.Ready]
  | shared n =>
    rw [get, exec_bind, exec_get] at h
    by_cases hn : n < w.memories.size
    · simp only [hn, if_true, exec_pure, Prod.mk.injEq, Except.ok.injEq] at h
      obtain ⟨rfl, rfl⟩ := h
      exact hn
    · simp [hn] at h
  | files path =>
    rw [get, Store.create, Store.resolve, exec_bind, exec_bind, exec_get] at h
    cases hp : Identity.placeOf w.here (.ofText path) with
    | error f => simp [hp, Except.mapError] at h
    | ok place =>
      simp only [hp, exec_ofExcept, Except.mapError, exec_pure, Prod.mk.injEq,
        Except.ok.injEq] at h
      obtain ⟨rfl, rfl⟩ := h
      obtain rfl : (Path.ofText path).resolve w.here = place := by
        unfold Identity.placeOf at hp
        split at hp
        · contradiction
        · exact Except.ok.inj hp
      exact Path.clean_resolve hw path

namespace Ledger

variable {l : Ledger}

theorem makeCache_answers (h : l.Sound) (delimiters : Delimiters) (choice : StoreChoice)
    (reader : Reader) (strict : Bool) :
    l.Answers (Request.perform (.makeCache delimiters choice reader strict))
      (l.answer (.makeCache delimiters choice reader strict)) := by
  refine .bind (.within h choice.apart_get) fun s m hm hs => ?_
  have hready : s.Ready m.world := by
    rw [within, Prod.mk.injEq] at hm
    refine StoreChoice.ready_get h.here (Prod.ext hm.1 ?_)
    rw [← hm.2]
  have hsize : m.toWorkspace.caches.size = m.shelves.size := by
    simp [toWorkspace, Workspace.withCaches]
  refine ⟨?_, hs.here, fun i c hc => ?_, fun i j c d hc hd t ht u hu e => ?_⟩
  · simp only [Cache.create, bind_assoc, pure_bind]
    rw [exec_bind, exec_get]
    simp only [exec_bind, exec_set, exec_pure, hsize]
    simp only [toWorkspace, Workspace.withCaches, Array.map_push]
    rfl
  · rw [Array.getElem?_push] at hc
    split at hc
    · obtain rfl := Option.some.inj hc
      exact ⟨hready, List.nodup_nil, fun t ht => absurd ht List.not_mem_nil⟩
    · exact hs.shelves i c hc
  · rw [Array.getElem?_push] at hc hd
    split at hc
    · obtain rfl := Option.some.inj hc
      exact absurd ht List.not_mem_nil
    · split at hd
      · obtain rfl := Option.some.inj hd
        exact absurd hu List.not_mem_nil
      · exact hs.apart i j c d hc hd t ht u hu e

theorem answers (h : l.Sound) (r : Request) : l.Answers r.perform (l.answer r) := by
  cases r with
  | edit change =>
    exact .within h (.bind (.modify (fun _ _ => rfl) fun _ => .of_eq rfl rfl rfl) fun _ => .pure _)
  | makeStore choice => exact .within h (.bind choice.apart_get fun _ => .pure _)
  | makeCache delimiters choice reader strict =>
    exact makeCache_answers h delimiters choice reader strict
  | load n location => exact .bind (load_answers h n location) fun _ _ _ hm => .pure hm _
  | reload n g => exact .bind (reload_answers h n g) fun _ _ _ hm => .pure hm _
  | invalidate n identity =>
    exact .bind (invalidate_answers h n identity) fun _ _ _ hm => .pure hm _
  | clear n => exact .bind (clear_answers h n) fun _ _ _ hm => .pure hm _
  | visit n location context =>
    exact .bind (visit_answers h n location context) fun _ _ _ hm => .pure hm _
  | render n identity context =>
    exact .bind (render_answers h n identity context) fun _ _ _ hm => .pure hm _
  | persist store identity code =>
    exact .within h (.bind (store.apart_persist identity code) fun _ => .pure _)
  | loadFrom store ref => exact .within h (.bind (store.apart_load ref) fun _ => .pure _)
  | unload store ref => exact .within h (.bind (store.apart_unload ref) fun _ => .pure _)
  | remove store ref => exact .within h (.bind (store.apart_remove ref) fun _ => .pure _)
  | call f arguments => exact .within h (.bind (.call f arguments) fun _ => .pure _)

theorem run_answers (rs : List Request) {l : Ledger} (h : l.Sound) :
    l.toWorkspace.run rs = ((l.run rs).1, (l.run rs).2.toWorkspace) ∧ (l.run rs).2.Sound := by
  induction rs generalizing l with
  | nil => exact ⟨rfl, h⟩
  | cons r rs ih =>
    obtain ⟨he, hs⟩ := answers h r
    obtain ⟨hrun, hsound⟩ := ih hs
    refine ⟨?_, hsound⟩
    rw [Workspace.run, he]
    dsimp only
    rw [hrun]
    rfl

theorem held_put {n : Nat} {c d : Shelf} (hc : l.shelves[n]? = some c)
    (hd : d.snapshots = c.snapshots) : (l.put n d).held = l.held := by
  refine Array.ext_getElem? fun i => ?_
  simp only [held, Array.getElem?_map, getElem?_put hc]
  split
  · next e => rw [← e, hc, Option.map_some, Option.map_some, hd]
  · rfl

theorem held_of_insert_error {n : Nat} {c : Shelf} (hc : l.shelves[n]? = some c) {g : Handle}
    {e : Failure} {m : Ledger} (h : l.insert n c g = (.error e, m)) : m.held = l.held := by
  unfold insert andThen at h
  split at h
  · obtain rfl := (Prod.mk.inj h).2
    exact held_put hc rfl
  · dsimp only at h
    split at h
    · simp at h
    · next hw =>
      obtain rfl := (Prod.mk.inj h).2
      rw [within, Prod.mk.injEq] at hw
      rw [← hw.2]
      exact held_put (d := { c with reads := c.reads + 1, compiles := c.compiles + 1 }) hc rfl

/-- A load that fails, at whichever stage, leaves what the shelves hold. -/
theorem held_of_load_error {n : Nat} {location : Path} {e : Failure} {m : Ledger}
    (h : l.load n location = (.error e, m)) : m.held = l.held := by
  unfold load onShelf at h
  split at h
  · obtain rfl := (Prod.mk.inj h).2
    rfl
  · split at h
    · next c hc =>
      dsimp only at h
      split at h
      · simp at h
      · unfold andThen at h
        split at h
        · simp at h
        · next hi =>
          obtain rfl := (Prod.mk.inj h).2
          exact held_of_insert_error hc hi
    · obtain rfl := (Prod.mk.inj h).2
      rfl

theorem absent_of_invalidate {n : Nat} {identity : Text} {m : Ledger}
    {r : Except Failure Unit} (h : l.invalidate n identity = (r, m)) {c : Shelf}
    (hc : m.shelves[n]? = some c) : identity ∉ c.identities := by
  unfold invalidate onShelf at h
  split at h
  · next d hd =>
    dsimp only at h
    split at h
    · next hf =>
      obtain rfl := (Prod.mk.inj h).2
      obtain rfl := Option.some.inj (hd.symm.trans hc)
      exact (d.find?_eq_none_iff identity).1 hf
    · next s hf =>
      obtain rfl := (Prod.mk.inj h).2
      have hput : ({ l with world := d.store.forget s.artifact l.world }.put n
          (d.drop identity)).shelves[n]? = some (d.drop identity) :=
        getElem?_put_self (l := { l with world := d.store.forget s.artifact l.world }) hd
      obtain rfl := Option.some.inj (hput.symm.trans hc)
      simp [Shelf.identities, Shelf.drop]
  · next hd =>
    obtain rfl := (Prod.mk.inj h).2
    rw [hd] at hc
    contradiction

/-- After a reload that failed the template is not on the shelf. -/
theorem absent_of_reload_error {n : Nat} {g : Handle} {e : Failure} {m : Ledger}
    (h : l.reload n g = (.error e, m)) {c : Shelf} (hc : m.shelves[n]? = some c) :
    g.identity ∉ c.identities := by
  unfold reload andThen at h
  split at h
  · next k hk =>
    have hheld := held_of_load_error h
    have hd : k.shelves[n]?.map Shelf.snapshots = some c.snapshots := by
      have := congrArg (fun a => a[n]?) hheld
      simpa [held, hc] using this.symm
    obtain ⟨d, hd, hs⟩ := Option.map_eq_some_iff.1 hd
    have := absent_of_invalidate hk hd
    simpa [Shelf.identities, hs] using this
  · next hk =>
    obtain rfl := (Prod.mk.inj h).2
    exact absent_of_invalidate hk hc

end Ledger

/-- Whatever is asked of caches and stores, and in whichever order, the replies are those of a ledger
and the workspace is the one that the ledger stands for. The ledger is sound then. -/
theorem Workspace.run_eq_ledger (w : Workspace) (hw : w.here.Clean) (rs : List Request) :
    let l := (Ledger.mk w #[]).run rs
    (w.withCaches #[]).run rs = (l.1, l.2.toWorkspace) ∧ l.2.Sound ∧
      (∀ n location e m, l.2.load n location = (.error e, m) → m.held = l.2.held) ∧
      (∀ n g e m c, l.2.reload n g = (.error e, m) → m.shelves[n]? = some c →
        g.identity ∉ c.identities) := by
  have hsound : (Ledger.mk w #[]).Sound :=
    ⟨hw, fun i c hc => by simp at hc, fun i j c d hc => by simp at hc⟩
  obtain ⟨hrun, hs⟩ := Ledger.run_answers rs hsound
  refine ⟨?_, hs, fun _ _ _ _ h => Ledger.held_of_load_error h,
    fun _ _ _ _ _ h hc => Ledger.absent_of_reload_error h hc⟩
  have : (Ledger.mk w #[]).toWorkspace = w.withCaches #[] := by
    simp [Ledger.toWorkspace, Workspace.withCaches]
  rw [← this]
  exact hrun

/-- Two caches on one store. The second one loads the same template from another text, and what is
kept and loaded under the common reference is removed, dropped and asked for in between. -/
theorem Workspace.run_eq_ledger_shared :
    let w : Workspace := { here := ["srv".toList] }
    let page : Path := .ofText "page.txt".toList
    let identity : Text := "__srv__page-txt".toList
    let rs : List Request := [.makeCache .standard .memory (.fixed "a".toList) false,
      .makeCache .standard (.shared 0) (.fixed "b".toList) true, .load 0 page, .load 1 page,
      .remove (.memory 0) (Artifact.reference identity), .render 0 identity .null, .load 0 page,
      .invalidate 1 identity, .render 1 identity .null, .reload 1 ⟨["srv".toList], identity, 0⟩]
    let l := (Ledger.mk w #[]).run rs
    w.here.Clean ∧ (w.withCaches #[]).run rs = (l.1, l.2.toWorkspace) ∧ l.2.Sound ∧
      (∀ n location e m, l.2.load n location = (.error e, m) → m.held = l.2.held) ∧
      (∀ n g e m c, l.2.reload n g = (.error e, m) → m.shelves[n]? = some c →
        g.identity ∉ c.identities) := by
  have hw : Place.Clean ["srv".toList] := by
    intro n hn
    obtain rfl := List.mem_singleton.1 hn
    exact ⟨⟨by decide, by decide, by decide⟩, by decide⟩
  exact ⟨hw, Workspace.run_eq_ledger { here := ["srv".toList] } hw _⟩

end TemplateEngine
