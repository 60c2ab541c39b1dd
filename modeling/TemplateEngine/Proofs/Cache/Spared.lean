import TemplateEngine.Proofs.Cache.Loading
import TemplateEngine.Proofs.Files.Directory
import TemplateEngine.Proofs.Store.Install

set_option autoImplicit false

/-!
# What stores and caches leave as it is

Only keeping code writes into files. Whether it succeeds or not, nothing changes but the file of the
code, and directories on the way to it come where they are missing. Loading a template writes the file in
which the store of the cache keeps its code, and rendering it writes nothing. Neither changes where the
cache keeps code.
-/
namespace TemplateEngine

open TemplateEngine.Action

namespace Action

variable {α β : Type}

def Still (x : Action α) : Prop := ∀ w : Workspace, (x.exec w).2.files = w.files

namespace Still

theorem pure (a : α) : Still (pure a : Action α) := fun _ => rfl

theorem throw (e : Failure) : Still (throw e : Action α) := fun _ => rfl

theorem ofExcept {ε : Type} (f : ε → Failure) (r : Except ε α) : Still (ofExcept f r) :=
  fun w => by rw [exec_ofExcept]

theorem bind {x : Action α} {f : α → Action β} (hx : Still x) (hf : ∀ a, Still (f a)) :
    Still (x >>= f) := by
  intro w
  have hw := hx w
  rw [exec_bind]
  generalize x.exec w = p at hw
  obtain ⟨r, v⟩ := p
  cases r with
  | ok a => exact (hf a v).trans hw
  | error e => exact hw

theorem get {f : Workspace → Action β} (hf : ∀ w, Still (f w)) : Still (get >>= f) :=
  fun w => hf w w

theorem modify {f : Workspace → Workspace} (hf : ∀ w, (f w).files = w.files) :
    Still (modify f : Action PUnit) := hf

/-- Functions of templates do not write files. -/
theorem call (f : Runnable) (arguments : List Data) : Still (f.call arguments) := by
  intro w
  simp only [Runnable.call, exec_bind, exec_get]
  cases w.modules[f.owner]? with
  | none => rfl
  | some m =>
    dsimp only
    cases m.call f.function arguments <;> rfl

end Still
end Action

namespace Store

theorem still_execute (globals : Table Text Script.Value) {abandon : Script.Module → Action Unit}
    (habandon : ∀ m, Still (abandon m)) (artifact code : Text) :
    Still (execute globals abandon artifact code) := by
  unfold execute
  split
  · exact .throw _
  · split
    · exact fun _ => rfl
    · next f _ =>
      refine .bind ?_ fun _ => .throw _
      cases f.abandoned? with
      | none => exact .pure ()
      | some m => exact habandon m

theorem still_runnable (artifact : Text) (number : Nat) : Still (runnable artifact number) := by
  refine .get fun w => ?_
  split
  · exact .pure _
  · exact .throw _

end Store

namespace MemoryStore

theorem still_persist (n : Nat) (identity code : Text) : Still (persist n identity code) :=
  fun _ => rfl

theorem still_load (n : Nat) (ref : Text) : Still (load n ref) := by
  refine .bind (fun _ => rfl) fun m => ?_
  split
  · exact Store.still_runnable _ _
  · split
    · exact .throw _
    · exact .bind (Store.still_execute _ (fun _ => .pure ()) _ _) fun _ =>
        .bind (fun _ => rfl) fun _ => Store.still_runnable _ _

end MemoryStore

namespace FileStore

theorem still_code (p : Path) : Still (code p) :=
  .get fun _ => .bind (.ofExcept _ _) fun _ => .ofExcept _ _

theorem still_load (p : Path) : Still (load p) := by
  refine .get fun w => ?_
  split
  · exact Store.still_runnable _ _
  · by_cases hx : Artifact.isExtensionPath p = true
    · rw [if_pos hx]
      exact .throw _
    · rw [if_neg hx]
      by_cases hm : Artifact.isModulePath p = true
      · simp only [hm, Bool.not_true, Bool.false_eq_true, if_false]
        exact .bind (still_code p) fun _ => .bind (Store.still_execute _ (fun _ _ => rfl) _ _) fun _ =>
          .bind (.modify fun _ => rfl) fun _ => Store.still_runnable _ _
      · simp only [hm, Bool.not_false, if_true]
        exact .throw _

variable {workArea q : Place} {identity code : Text}

theorem spared_prepare (hw : workArea.Clean) (w : Workspace) :
    FileTree.Spared workArea q w.files ((prepare workArea).exec w).2.files := by
  rw [prepare, exec_bind, exec_get]
  dsimp only
  split
  · exact .refl _ _ _
  · rw [exec_changeFiles]
    exact FileTree.spared_ensureDirectory fun n hn => (hw n hn).2

theorem spared_persist (hw : workArea.Clean) (hi : Identity.Plain identity)
    (hq : q ≠ Artifact.place workArea identity) (w : Workspace) :
    FileTree.Spared workArea q w.files ((persist workArea identity code).exec w).2.files := by
  have hprepare := spared_prepare (q := q) hw w
  rw [persist, exec_bind]
  generalize (prepare workArea).exec w = p at hprepare ⊢
  obtain ⟨r, v⟩ := p
  cases r with
  | error e => exact hprepare
  | ok _ =>
    refine hprepare.trans ?_
    have hlocate : (locate (Artifact.path workArea identity)).exec v =
        ((v.files.locate v.here (Artifact.path workArea identity)).mapError .file, v) :=
      exec_ofExcept _ _ _
    simp only [exec_bind, hlocate]
    cases hl : v.files.locate v.here (Artifact.path workArea identity) with
    | error e => exact .refl _ _ _
    | ok place =>
      obtain rfl : place = Artifact.place workArea identity :=
        FileTree.eq_of_locate (Artifact.clean_place hw hi) (Artifact.path_eq hi ▸ hl)
      simp only [Except.mapError, exec_changeFiles, FileTree.run_changing]
      cases hx : v.files.write (Artifact.place workArea identity) (Utf8.encode code) with
      | error e => exact .refl _ _ _
      | ok t => exact .inl ((FileTree.node?_of_write hx q).trans (if_neg (Ne.symm hq)))

end FileStore

namespace Store

variable {s : Store} {identity code ref : Text} {q : Place}

/-- A place that a store leaves as it is when it keeps the code of a template: it is not that of the
file for the code, and if nothing stands there, a directory may come. -/
def Spares (s : Store) (identity : Text) (q : Place) (t u : FileTree) : Prop :=
  match s with
  | memory _ => u.node? q = t.node? q
  | files workArea => q ≠ Artifact.place workArea identity → FileTree.Spared workArea q t u

theorem Spares.refl (s : Store) (identity : Text) (q : Place) (t : FileTree) :
    s.Spares identity q t t := by
  cases s with
  | memory n => rfl
  | files workArea => exact fun _ => .refl _ _ t

theorem Spares.trans {t u v : FileTree} (h : s.Spares identity q t u) (k : s.Spares identity q u v) :
    s.Spares identity q t v := by
  cases s with
  | memory n => exact Eq.trans k h
  | files workArea => exact fun hq => (h hq).trans (k hq)

theorem spares_persist (hs : ∀ workArea, s = files workArea → workArea.Clean)
    (hi : Identity.Plain identity) (w : Workspace) :
    s.Spares identity q w.files ((s.persist identity code).exec w).2.files := by
  cases s with
  | memory n => exact congrArg (FileTree.node? · q) (MemoryStore.still_persist n identity code w)
  | files workArea => exact fun hq => FileStore.spared_persist (hs workArea rfl) hi hq w

theorem still_unload : Still (s.unload ref) := by
  cases s with
  | memory n => exact fun _ => rfl
  | files workArea => exact fun _ => rfl

theorem still_load : Still (s.load ref) := by
  cases s with
  | memory n => exact MemoryStore.still_load n ref
  | files workArea => exact FileStore.still_load _

end Store
end TemplateEngine

namespace TemplateEngine.Cache

open TemplateEngine.Action

variable {α β : Type} {here : Place} {n : Nat} {s : Store} {identity : Text} {q : Place}

structure Sees (here : Place) (n : Nat) (s : Store) (w : Workspace) : Prop where
  here : w.here = here
  cache : ∃ c, w.caches[n]? = some c ∧ c.store = s

/-- The action is confined to what the store of a cache writes for a template. -/
def Confined (here : Place) (n : Nat) (s : Store) (identity : Text) (q : Place) (x : Action α) :
    Prop :=
  ∀ w, Sees here n s w →
    Sees here n s (x.exec w).2 ∧ s.Spares identity q w.files (x.exec w).2.files

namespace Confined

theorem pure (a : α) : Confined here n s identity q (pure a : Action α) :=
  fun _ hw => ⟨hw, .refl _ _ _ _⟩

theorem throw (e : Failure) : Confined here n s identity q (throw e : Action α) :=
  fun _ hw => ⟨hw, .refl _ _ _ _⟩

theorem bind {x : Action α} {f : α → Action β} (hx : Confined here n s identity q x)
    (hf : ∀ a, Confined here n s identity q (f a)) : Confined here n s identity q (x >>= f) := by
  intro w hw
  have h := hx w hw
  rw [exec_bind]
  generalize x.exec w = p at h
  obtain ⟨r, v⟩ := p
  cases r with
  | ok a =>
    have k := hf a v h.1
    exact ⟨k.1, h.2.trans k.2⟩
  | error e => exact h

theorem find {f : Cache → Action β} (hf : ∀ c, c.store = s → Confined here n s identity q (f c)) :
    Confined here n s identity q (Cache.find n >>= f) := by
  intro w hw
  obtain ⟨c, hc, hs⟩ := hw.cache
  rw [exec_bind_ok (exec_find hc)]
  exact hf c hs w hw

/-- What has nothing to do with caches. -/
theorem of_spares {x : Action α} (ha : Apart x)
    (hx : ∀ w, s.Spares identity q w.files (x.exec w).2.files) :
    Confined here n s identity q x :=
  fun w hw => ⟨⟨(ha.keeps w).here.trans hw.here, by rw [caches_exec ha]; exact hw.cache⟩, hx w⟩

theorem of_still {x : Action α} (ha : Apart x) (hx : Still x) : Confined here n s identity q x :=
  of_spares ha fun w => by rw [hx w]; exact .refl _ _ _ _

theorem change {f : Cache → Cache} (hf : ∀ c, (f c).store = c.store) :
    Confined here n s identity q (Cache.change n f) := by
  intro w hw
  obtain ⟨c, hc, hs⟩ := hw.cache
  exact ⟨⟨hw.here, f c, caches_changed hc f, (hf c).trans hs⟩, .refl _ _ _ _⟩

end Confined

theorem confined_source (place : Place) : Confined here n s identity q (source n place) := by
  refine .bind (.change fun _ => rfl) fun _ => .find fun c _ => ?_
  split
  · exact .pure _
  · exact .of_still (.get (fun _ => .ofExcept _ _) fun _ _ => rfl) (.get fun _ => .ofExcept _ _)

theorem confined_compile (text : Text) (place : Place) :
    Confined here n s identity q (compile n text place) :=
  .bind (.change fun _ => rfl) fun _ => .find fun _ _ => .pure _

theorem confined_insert (hs : ∀ workArea, s = .files workArea → workArea.Clean) {h : Handle}
    (hh : h.identity = identity) (hi : Identity.Plain identity) :
    Confined here n s identity q (insert n h) := by
  refine .bind (confined_source _) fun text => .bind (confined_compile text _) fun code =>
    .find fun c hc => ?_
  subst hc hh
  exact .bind (.of_spares (Store.apart_persist _ _ _) (Store.spares_persist hs hi)) fun ref =>
    .bind (.of_still (Store.apart_unload _ _) Store.still_unload) fun _ =>
      .bind (.of_still (Store.apart_load _ _) Store.still_load) fun _ => .change fun _ => rfl

/-- Loading a template writes no file but the one for its code. -/
theorem confined_load (hs : ∀ workArea, s = .files workArea → workArea.Clean) {location : Path}
    {place : Place} (hp : Identity.placeOf here location = .ok place) :
    Confined here n s (Identity.ofPlace place) q (load n location) := by
  intro w hw
  rw [load, exec_bind_ok (exec_handle_ok (hw.here ▸ hp) n)]
  refine (Confined.bind (.find fun c _ => .pure _) fun held => ?_) w hw
  split
  · exact .bind (confined_insert hs rfl (Identity.plain_ofPlace place)) fun _ => .pure _
  · exact .pure _

theorem confined_render (template : Text) (context : Data) :
    Confined here n s identity q (render n template context) := by
  refine .find fun c _ => ?_
  split
  · exact .of_still (.call _ _) (.call _ _)
  · split
    · exact .throw _
    · exact .pure _

end TemplateEngine.Cache
