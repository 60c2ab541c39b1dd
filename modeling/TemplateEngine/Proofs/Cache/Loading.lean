import TemplateEngine.Cache
import TemplateEngine.Proofs.Generated.Loading
import TemplateEngine.Proofs.Store.Install

set_option autoImplicit false

/-!
# Loading and rendering a template

Loading a template that a cache does not hold comes down to running the code that its source is
compiled to, and rendering it to calling the function of the module that the code gave.
-/
namespace TemplateEngine.Cache

open TemplateEngine.Action

/-- A cache can load the template at a location: the source can be read, and the store keeps code. The
cache does not hold the template yet. -/
structure Loadable (w : Workspace) (n : Nat) (c : Cache) (location : Path) (place : Place)
    (text : Text) : Prop where
  cache : w.caches[n]? = some c
  located : Identity.placeOf w.here location = .ok place
  new : c.entries.contains (Identity.ofPlace place) = false
  source : ((Cache.source n place).exec w).1 = .ok text
  ready : c.store.Ready w
  keeps : ∀ code, ∃ ref, ((c.store.persist (Identity.ofPlace place) code).exec w).1 = .ok ref

variable {w v : Workspace} {n : Nat} {c : Cache} {location : Path} {place : Place} {text : Text}

theorem exec_find (h : w.caches[n]? = some c) : (find n).exec w = (.ok c, w) := by
  simp only [find, exec_bind, exec_get, h, exec_pure]

def changed (w : Workspace) (n : Nat) (f : Cache → Cache) : Workspace :=
  w.withCaches (w.caches.modify n f)

theorem exec_change (f : Cache → Cache) : (change n f).exec w = (.ok (), changed w n f) := rfl

theorem caches_changed (h : w.caches[n]? = some c) (f : Cache → Cache) :
    (changed w n f).caches[n]? = some (f c) := by
  simp [changed, Workspace.withCaches, Array.getElem?_modify, h]

theorem exec_source (h : w.caches[n]? = some c) (place : Place) :
    (source n place).exec w = (((source n place).exec w).1,
      changed w n fun c => { c with reads := c.reads + 1 }) := by
  have hfind := exec_find (caches_changed h fun c => { c with reads := c.reads + 1 })
  rw [source, exec_bind_ok (exec_change _), exec_bind_ok hfind]
  cases c.reader with
  | fixed t => rfl
  | files =>
    dsimp only
    rw [exec_bind, exec_get]
    exact Prod.ext (by simp only [exec_ofExcept]) (by simp only [exec_ofExcept])

theorem exec_compile (h : w.caches[n]? = some c) (source : Text) (place : Place) :
    (compile n source place).exec w =
      (.ok (Compile.template c.delimiters source place.toText).code,
        changed w n fun c => { c with compiles := c.compiles + 1 }) := by
  have hfind := exec_find (caches_changed h fun c => { c with compiles := c.compiles + 1 })
  rw [compile, exec_bind_ok (exec_change _), exec_bind_ok hfind]
  rfl

def counted (w : Workspace) (n : Nat) : Workspace :=
  changed (changed w n fun c => { c with reads := c.reads + 1 }) n
    fun c => { c with compiles := c.compiles + 1 }

theorem caches_counted (h : w.caches[n]? = some c) : (counted w n).caches[n]? =
    some { c with reads := c.reads + 1, compiles := c.compiles + 1 } :=
  caches_changed (caches_changed h _) _

theorem exec_handle (n : Nat) (location : Path) (w : Workspace) : (handle n location).exec w =
    (((Identity.placeOf w.here location).map fun place => ⟨place, Identity.ofPlace place, n⟩).mapError
      .location, w) := by
  simp only [handle, Store.resolve, exec_bind, exec_get, exec_ofExcept]
  cases Identity.placeOf w.here location <;> rfl

theorem exec_handle_ok (h : Identity.placeOf w.here location = .ok place) (n : Nat) :
    (handle n location).exec w = (.ok ⟨place, Identity.ofPlace place, n⟩, w) := by
  rw [exec_handle, h]
  rfl

/-- A location that names no place is not loaded. -/
theorem exec_load_of_no_place {e : Identity.LocationFault}
    (h : Identity.placeOf w.here location = .error e) :
    (load n location).exec w = (.error (.location e), w) := by
  have hhandle := exec_handle n location w
  rw [h] at hhandle
  rw [load, exec_bind_error hhandle]

theorem exec_load (h : Loadable w n c location place text) :
    (load n location).exec w =
      (do
        let made ← c.store.install (Identity.ofPlace place)
          (Compile.template c.delimiters text place.toText).code
        change n fun c => { c with
          entries := c.entries.insert (Identity.ofPlace place) ⟨made.2, made.1⟩ }
        return (⟨place, Identity.ofPlace place, n⟩ : Handle)).exec (counted w n) := by
  obtain ⟨hc, hp, hnew, hs, hready, -⟩ := h
  have hhandle := exec_handle_ok hp n
  have hcontains : (contains n (Identity.ofPlace place)).exec w = (.ok false, w) := by
    rw [contains, exec_bind_ok (exec_find hc), hnew]
    rfl
  have hread := exec_source hc place
  rw [hs] at hread
  have hcount := caches_changed hc fun c => { c with reads := c.reads + 1 }
  have hstore : c.store.Ready (counted w n) := by
    cases hk : c.store with
    | memory k =>
      rw [hk] at hready
      exact hready
    | files workArea =>
      rw [hk] at hready
      exact hready
  have hinstall := @Store.exec_install c.store (Identity.ofPlace place)
    (Compile.template c.delimiters text place.toText).code (counted w n) hstore
  have hinsert : (insert n ⟨place, Identity.ofPlace place, n⟩).exec w =
      (do
        let made ← c.store.install (Identity.ofPlace place)
          (Compile.template c.delimiters text place.toText).code
        change n fun c => { c with
          entries := c.entries.insert (Identity.ofPlace place) ⟨made.2, made.1⟩ }).exec
        (counted w n) := by
    have hfind := exec_find (caches_changed hcount fun c => { c with compiles := c.compiles + 1 })
    rw [insert, exec_bind_ok hread, exec_bind_ok (exec_compile hcount text place),
      exec_bind_ok hfind]
    rw [exec_bind (c.store.install _ _), ← hinstall, ← exec_bind]
    simp only [bind_assoc, pure_bind]
    rfl
  rw [load, exec_bind_ok hhandle, exec_bind_ok hcontains]
  simp only [Bool.not_false, if_true]
  rw [exec_bind, hinsert, ← exec_bind]
  simp only [bind_assoc]

theorem caches_exec {α : Type} {x : Action α} (hx : Apart x) (w : Workspace) :
    (x.exec w).2.caches = w.caches := by
  have h : (x.exec w).2 = (x.exec w).2.withCaches w.caches :=
    congrArg Prod.snd (hx.blind w w.caches)
  rw [h]
  rfl

/-- The code is kept in the same way whatever the caches are. -/
theorem exec_persist_counted (h : Loadable w n c location place text) (code : Text) :
    ∃ ref u, (c.store.persist (Identity.ofPlace place) code).exec (counted w n) = (.ok ref, u) ∧
      ((c.store.persist (Identity.ofPlace place) code).exec w).1 = .ok ref := by
  obtain ⟨ref, href⟩ := h.keeps code
  have hblind := (Store.apart_persist c.store (Identity.ofPlace place) code).blind w
    (counted w n).caches
  exact ⟨ref, _, hblind.trans (Prod.ext href rfl), href⟩

def Holds (w : Workspace) (n : Nat) (identity : Text) (m : Script.Module) (f : Script.Value) : Prop :=
  ∃ c k ref, w.caches[n]? = some c ∧ c.entries.find? identity = some ⟨⟨k, f⟩, ref⟩ ∧
    w.modules[k]? = some m

def calledNames : List Text := ["frozenset".toList, "str".toList, "isinstance".toList]

/-- No module has a variable from the start that hides what generated code calls. -/
theorem find?_globals (s : Store) (ref : Text) : ∀ x ∈ calledNames, (s.globals ref).find? x = none := by
  cases s with
  | memory n =>
    simp [calledNames, Store.globals, MemoryStore.globals, Store.startingWith, Table.find?,
      Table.lookup]
  | files workArea =>
    simp [calledNames, Store.globals, FileStore.globals, Store.startingWith, Table.find?,
      Table.lookup]

/-- Code that is the program of a module makes the template loaded, with the variables that a module has
from the start under the reference that the code is kept under. -/
theorem load_of_program_kept (h : Loadable w n c location place text)
    (hplace : '\x00' ∉ place.toText) {param : Text} {body : List Script.Stmt}
    (hcode : Script.Program.ofText (Compile.template c.delimiters text place.toText).code =
      .ok (Generated.program param body)) :
    ∃ ref v, ((c.store.persist (Identity.ofPlace place)
        (Compile.template c.delimiters text place.toText).code).exec w).1 = .ok ref ∧
      (load n location).exec w = (.ok ⟨place, Identity.ofPlace place, n⟩, v) ∧
      Holds v n (Identity.ofPlace place) ⟨Generated.loaded (c.store.globals ref) param body⟩
        (.function 0) := by
  obtain ⟨ref, u, hpersist, hkept⟩ := exec_persist_counted h
    (Compile.template c.delimiters text place.toText).code
  have hglobals := find?_globals c.store ref
  have hload := Generated.load_of_ofText hcode (hglobals _ (by simp [calledNames]))
    (hglobals _ (by simp [calledNames]))
  have hnull := Store.not_mem_of_persist (Identity.not_mem_ofPlace hplace) hpersist
  obtain ⟨v, hv, hat⟩ := Store.exec_instantiate hnull hload (Generated.function?_loaded _ param body)
    (c.store.forget ref u)
  generalize (c.store.forget ref u).modules.size = k at hv hat
  have hinstall : (c.store.install (Identity.ofPlace place)
      (Compile.template c.delimiters text place.toText).code).exec (counted w n) =
      (.ok (ref, ⟨k, .function 0⟩), v) := by
    rw [Store.install, exec_bind_ok hpersist, exec_bind_ok (Store.exec_unload c.store ref u),
      exec_bind_ok hv]
    rfl
  have hcaches := caches_exec (Store.apart_install c.store (Identity.ofPlace place)
    (Compile.template c.delimiters text place.toText).code) (counted w n)
  rw [hinstall] at hcaches
  have hcount := caches_counted h.cache
  rw [← hcaches] at hcount
  refine ⟨ref, changed v n fun c => { c with
    entries := c.entries.insert (Identity.ofPlace place) ⟨⟨k, .function 0⟩, ref⟩ }, hkept, ?_, _, k, ref,
    caches_changed hcount _, ?_, hat⟩
  · rw [exec_load h, exec_bind_ok hinstall, exec_bind_ok (exec_change _)]
    rfl
  · rw [Table.find?_insert, if_pos rfl]

/-- Code that is the program of a module makes the template loaded. -/
theorem load_of_program (h : Loadable w n c location place text)
    (hplace : '\x00' ∉ place.toText) {param : Text} {body : List Script.Stmt}
    (hcode : Script.Program.ofText (Compile.template c.delimiters text place.toText).code =
      .ok (Generated.program param body)) :
    ∃ ref v, (load n location).exec w = (.ok ⟨place, Identity.ofPlace place, n⟩, v) ∧
      Holds v n (Identity.ofPlace place) ⟨Generated.loaded (c.store.globals ref) param body⟩
        (.function 0) := by
  obtain ⟨ref, v, -, hload, hholds⟩ := load_of_program_kept h hplace hcode
  exact ⟨ref, v, hload, hholds⟩

/-- Code that is no program makes the load fail. -/
theorem load_of_fault (h : Loadable w n c location place text)
    (hplace : '\x00' ∉ place.toText) {fault : Script.ProgramFault}
    (hcode : Script.Program.ofText (Compile.template c.delimiters text place.toText).code =
      .error fault) :
    ∃ ref v, (load n location).exec w =
      (.error (.load ⟨ref, .ofFault (.program fault)⟩), v) := by
  obtain ⟨ref, u, hpersist, -⟩ := exec_persist_counted h
    (Compile.template c.delimiters text place.toText).code
  have hnull := Store.not_mem_of_persist (Identity.not_mem_ofPlace hplace) hpersist
  have hload : Script.Module.load (c.store.globals ref)
      (Compile.template c.delimiters text place.toText).code = .error (.program fault) := by
    rw [Script.Module.load, Script.Module.loadWithin, hcode]
  obtain ⟨v, hv, hsame⟩ := Store.exec_execute_fault hnull hload (c.store.forget ref u)
  obtain rfl := hsame rfl
  have hinstantiate : (c.store.instantiate ref
      (Compile.template c.delimiters text place.toText).code).exec (c.store.forget ref u) =
      (.error (.load ⟨ref, .ofFault (.program fault)⟩), c.store.forget ref u) := by
    rw [Store.instantiate, exec_bind_error hv]
    rfl
  refine ⟨ref, c.store.forget ref u, ?_⟩
  rw [exec_load h]
  refine exec_bind_error ?_
  rw [Store.install, exec_bind_ok hpersist, exec_bind_ok (Store.exec_unload c.store ref u),
    exec_bind_error hinstantiate]

theorem render_of_call {m : Script.Module} {f : Script.Value} {identity : Text} {context : Data}
    {value : Script.Value} {s : Script.State} (h : Holds w n identity m f)
    (hcall : m.call f [context] = .done value s) :
    ∃ v, (render n identity context).exec w = (.ok (value, s.heap), v) := by
  obtain ⟨c, k, ref, hc, he, hm⟩ := h
  have hrun : (Runnable.call ⟨k, f⟩ [context]).exec w = (.ok (value, s.heap), w.leave k s) := by
    rw [exec_call hm, hcall]
  refine ⟨w.leave k s, ?_⟩
  rw [render, exec_bind_ok (exec_find hc)]
  simp only [he]
  exact hrun

theorem render_of_call_raised {m : Script.Module} {f : Script.Value} {identity : Text}
    {context : Data} {e : Script.Raised} {s : Script.State} (h : Holds w n identity m f)
    (hcall : m.call f [context] = .raised e s) :
    ∃ v, (render n identity context).exec w = (.error (.raised e s.heap), v) := by
  obtain ⟨c, k, ref, hc, he, hm⟩ := h
  have hrun : (Runnable.call ⟨k, f⟩ [context]).exec w =
      (.error (.raised e s.heap), w.leave k s) := by
    rw [exec_call hm, hcall]
  refine ⟨w.leave k s, ?_⟩
  rw [render, exec_bind_ok (exec_find hc)]
  simp only [he]
  exact hrun

end TemplateEngine.Cache
