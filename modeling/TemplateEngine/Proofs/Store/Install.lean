import TemplateEngine.Proofs.Files.Tree
import TemplateEngine.Proofs.Text.Utf8
import TemplateEngine.Proofs.Workspace.Apart
import TemplateEngine.Source
import TemplateEngine.Store.Basic

set_option autoImplicit false

/-!
# Installing code

To keep code, to unload its reference and to load it again is to make a new module of that very code:
whatever was kept or loaded under the reference before, by whomever, is of no account. A store in
files has to read the code back for this.
-/
namespace TemplateEngine

open TemplateEngine.Action

namespace Store

def globals : Store → Text → Table Text Script.Value
  | memory _, ref => MemoryStore.globals ref
  | files _, ref => FileStore.globals (.ofText ref)

def register : Store → Text → Nat → Action Unit
  | memory n, ref, k => MemoryStore.change n fun m => { m with loaded := m.loaded.insert ref k }
  | files _, ref, k => FileStore.register (.ofText ref) k

def abandon : Store → Text → Script.Module → Action Unit
  | memory _, _ => fun _ => return ()
  | files _, ref => fun m => do FileStore.register (.ofText ref) (← add m)

/-- Makes a module of code. Nothing that is kept or loaded is looked at. -/
def instantiate (s : Store) (ref code : Text) : Action Runnable := do
  let k ← execute (s.globals ref) (s.abandon ref) ref code
  s.register ref k
  runnable ref k

def install (s : Store) (identity code : Text) : Action (Text × Runnable) := do
  let ref ← s.persist identity code
  s.unload ref
  return (ref, ← s.instantiate ref code)

def forget (s : Store) (ref : Text) (w : Workspace) : Workspace :=
  match s with
  | memory n =>
    { w with memories := w.memories.modify n fun m => { m with loaded := m.loaded.erase ref } }
  | files _ => { w with imported := w.imported.erase (Artifact.key (.ofText ref)) }

def forgetAll (s : Store) (refs : List Text) (w : Workspace) : Workspace :=
  refs.foldl (fun w ref => s.forget ref w) w

/-- A store that a cache can use: one in memory that was made, or a directory with a proper place. -/
def Ready : Store → Workspace → Prop
  | memory n, w => n < w.memories.size
  | files workArea, _ => workArea.Clean

theorem exec_unload (s : Store) (ref : Text) (w : Workspace) :
    (s.unload ref).exec w = (.ok (), s.forget ref w) := by
  cases s <;> rfl

theorem Ready.keeps {s : Store} {w v : Workspace} (h : s.Ready w) (hk : w.Keeps v) :
    s.Ready v := by
  cases s with
  | memory n => exact Nat.lt_of_lt_of_le h hk.memories
  | files workArea => exact h

end Store

namespace MemoryStore

theorem apart_change (n : Nat) (f : MemoryStore → MemoryStore) : Apart (change n f) :=
  .modify (fun _ _ => rfl) fun w => .of_eq rfl (by simp) rfl

theorem apart_create : Apart create := by
  refine ⟨fun _ _ => rfl, fun w => ⟨rfl, ?_, fun _ m h => ⟨m, h, .refl m⟩⟩⟩
  have : (create.exec w).2.memories = w.memories.push {} := rfl
  simp [this]

theorem apart_persist (n : Nat) (identity code : Text) : Apart (persist n identity code) :=
  .bind (apart_change n _) fun _ =>
    .bind (.modify (fun _ _ => rfl) fun _ => .of_eq rfl rfl rfl) fun _ => .pure _

theorem apart_unload (n : Nat) (ref : Text) : Apart (unload n ref) := apart_change n _

theorem apart_remove (n : Nat) (ref : Text) : Apart (remove n ref) :=
  .bind (apart_unload n ref) fun _ => .bind (apart_change n _) fun _ =>
    .modify (fun _ _ => rfl) fun _ => .of_eq rfl rfl rfl

theorem apart_get (n : Nat) : Apart (MemoryStore.get n) :=
  .get (fun _ => .pure _) fun _ _ => rfl

end MemoryStore

namespace Store

theorem apart_add (m : Script.Module) : Apart (add m) := ⟨fun _ _ => rfl, fun w => .push w m⟩

theorem apart_execute (globals : Table Text Script.Value) {abandon : Script.Module → Action Unit}
    (habandon : ∀ m, Apart (abandon m)) (artifact code : Text) :
    Apart (execute globals abandon artifact code) := by
  unfold execute
  split
  · exact .throw _
  · split
    · exact apart_add _
    · next f _ =>
      refine .bind ?_ fun _ => .throw _
      cases f.abandoned? with
      | none => exact .pure ()
      | some m => exact habandon m

theorem apart_runnable (artifact : Text) (number : Nat) : Apart (runnable artifact number) := by
  refine .get (fun w => ?_) fun _ _ => rfl
  split
  · exact .pure _
  · exact .throw _

theorem apart_resolve (p : Path) : Apart (resolve p) := .get (fun _ => .ofExcept _ _) fun _ _ => rfl

theorem apart_create (p? : Option Path) : Apart (create p?) := by
  cases p? with
  | none => exact MemoryStore.apart_create
  | some p => exact .bind (apart_resolve p) fun _ => .pure _

end Store

namespace MemoryStore

theorem apart_load (n : Nat) (ref : Text) : Apart (load n ref) := by
  refine .bind (apart_get n) fun m => ?_
  split
  · exact Store.apart_runnable _ _
  · split
    · exact .throw _
    · exact .bind (Store.apart_execute _ (fun _ => .pure ()) _ _) fun _ =>
        .bind (apart_change n _) fun _ =>
        Store.apart_runnable _ _

end MemoryStore

namespace FileStore

theorem apart_register (p : Path) (k : Nat) : Apart (register p k) :=
  .modify (fun _ _ => rfl) fun _ => .of_eq rfl rfl rfl

theorem apart_locate (p : Path) : Apart (locate p) := .get (fun _ => .ofExcept _ _) fun _ _ => rfl

theorem apart_prepare (workArea : Place) : Apart (prepare workArea) := by
  refine .get (fun w => ?_) fun _ _ => rfl
  split
  · exact .pure _
  · exact .changeFiles _

theorem apart_persist (workArea : Place) (identity code : Text) :
    Apart (persist workArea identity code) :=
  .bind (apart_prepare workArea) fun _ => .bind (apart_locate _) fun _ =>
    .bind (.changeFiles _) fun _ => .pure _

theorem apart_code (p : Path) : Apart (code p) :=
  .get (fun _ => .bind (.ofExcept _ _) fun _ => .ofExcept _ _) fun _ _ => rfl

theorem apart_unload (p : Path) : Apart (unload p) :=
  .modify (fun _ _ => rfl) fun _ => .of_eq rfl rfl rfl

theorem apart_load (p : Path) : Apart (load p) := by
  refine .get (fun w => ?_) fun _ _ => rfl
  split
  · exact Store.apart_runnable _ _
  · by_cases hx : Artifact.isExtensionPath p = true
    · rw [if_pos hx]
      exact .throw _
    · rw [if_neg hx]
      by_cases hm : Artifact.isModulePath p = true
      · simp only [hm, Bool.not_true, Bool.false_eq_true, if_false]
        have habandon : ∀ m, Apart (do register p (← Store.add m)) := fun m =>
          .bind (Store.apart_add m) (apart_register p)
        exact .bind (apart_code p) fun _ => .bind (Store.apart_execute _ habandon _ _) fun k =>
          .bind (apart_register p k) fun _ => Store.apart_runnable _ _
      · simp only [hm, Bool.not_false, if_true]
        exact .throw _

theorem apart_remove (p : Path) : Apart (remove p) := by
  refine .bind (apart_unload p) fun _ => ⟨fun w cs => ?_, fun w => ?_⟩
  · have hf : (w.withCaches cs).files = w.files := rfl
    have hh : (w.withCaches cs).here = w.here := rfl
    simp only [exec_bind, exec_get, hf, hh]
    generalize (do w.files.delete (← w.files.locate w.here p) : Except FileError FileTree) = r
    cases r with
    | ok t => rfl
    | error e => cases e <;> rfl
  · simp only [exec_bind, exec_get]
    generalize (do w.files.delete (← w.files.locate w.here p) : Except FileError FileTree) = r
    cases r with
    | ok t => exact .of_eq rfl rfl rfl
    | error e => cases e <;> exact .refl w

end FileStore

namespace Store

variable (s : Store) (identity ref code : Text)

theorem apart_persist : Apart (s.persist identity code) := by
  cases s with
  | memory n => exact MemoryStore.apart_persist n identity code
  | files workArea => exact FileStore.apart_persist workArea identity code

theorem apart_load : Apart (s.load ref) := by
  cases s with
  | memory n => exact MemoryStore.apart_load n ref
  | files workArea => exact FileStore.apart_load (.ofText ref)

theorem apart_unload : Apart (s.unload ref) := by
  cases s with
  | memory n => exact MemoryStore.apart_unload n ref
  | files workArea => exact FileStore.apart_unload (.ofText ref)

theorem apart_remove : Apart (s.remove ref) := by
  cases s with
  | memory n => exact MemoryStore.apart_remove n ref
  | files workArea => exact FileStore.apart_remove (.ofText ref)

theorem apart_register (k : Nat) : Apart (s.register ref k) := by
  cases s with
  | memory n => exact MemoryStore.apart_change n _
  | files workArea => exact FileStore.apart_register _ k

theorem apart_abandon (m : Script.Module) : Apart (s.abandon ref m) := by
  cases s with
  | memory n => exact .pure ()
  | files workArea => exact .bind (apart_add m) (FileStore.apart_register _)

theorem apart_instantiate : Apart (s.instantiate ref code) :=
  .bind (apart_execute _ (apart_abandon s ref) _ _) fun k => .bind (apart_register s ref k) fun _ =>
    apart_runnable ref k

theorem apart_install : Apart (s.install identity code) :=
  .bind (apart_persist s identity code) fun ref => .bind (apart_unload s ref) fun _ =>
    .bind (apart_instantiate s ref code) fun _ => .pure _

end Store

namespace MemoryStore

theorem exec_get {n : Nat} {m : MemoryStore} {w : Workspace} (hm : w.memories[n]? = some m) :
    (MemoryStore.get n).exec w = (.ok m, w) := by
  have hget : (MemoryStore.get n).exec w = (.ok (w.memories[n]?.getD {}), w) := rfl
  simpa [hm] using hget

theorem exec_load_of_kept {n : Nat} {ref code : Text} {m : MemoryStore} {w : Workspace}
    (hm : w.memories[n]? = some m) (hl : m.loaded.find? ref = none)
    (hs : m.sources.find? ref = some code) :
    (load n ref).exec w = ((Store.memory n).instantiate ref code).exec w := by
  rw [load, exec_bind_ok (exec_get hm)]
  simp only [hl, hs]
  rfl

theorem exec_persist (n : Nat) (identity code : Text) (w : Workspace) :
    (persist n identity code).exec w = (.ok (Artifact.reference identity), { w with
      memories := w.memories.modify n fun m =>
        { m with sources := m.sources.insert (Artifact.reference identity) code }
      listings := w.listings.insert (Artifact.reference identity) code }) := rfl

end MemoryStore

namespace FileStore

theorem eq_of_prepare {workArea : Place} {r : Except Failure Unit} {w v : Workspace}
    (h : (prepare workArea).exec w = (r, v)) : ∃ t, v = { w with files := t } := by
  rw [prepare, exec_bind, exec_get] at h
  dsimp only at h
  split at h
  · rw [exec_pure, Prod.mk.injEq] at h
    exact ⟨w.files, h.2.symm⟩
  · rw [exec_changeFiles, Prod.mk.injEq] at h
    exact ⟨_, h.2.symm⟩

theorem writes_of_persist {workArea : Place} {identity code ref : Text} {w v : Workspace}
    (h : (persist workArea identity code).exec w = (.ok ref, v)) :
    ref = (Artifact.path workArea identity).toText ∧ ∃ (t₀ : FileTree) (place : Place) (t : FileTree),
      t₀.locate w.here (Artifact.path workArea identity) = .ok place ∧
      t₀.write place (Utf8.encode code) = .ok t ∧ v = { w with files := t } := by
  simp only [persist, exec_bind] at h
  split at h
  · next u hprepare =>
    obtain ⟨t₀, rfl⟩ := eq_of_prepare hprepare
    have hlocate : (locate (Artifact.path workArea identity)).exec { w with files := t₀ } =
        ((t₀.locate w.here (Artifact.path workArea identity)).mapError .file,
          { w with files := t₀ }) := exec_ofExcept _ _ _
    rw [hlocate] at h
    cases hl : t₀.locate w.here (Artifact.path workArea identity) with
    | error e => simp [hl, Except.mapError] at h
    | ok place =>
      simp only [hl, Except.mapError, exec_changeFiles, FileTree.run_changing] at h
      cases hx : t₀.write place (Utf8.encode code) with
      | error e => simp [hx] at h
      | ok t =>
        simp only [hx, exec_pure, Prod.mk.injEq, Except.ok.injEq] at h
        exact ⟨h.1.symm, t₀, place, t, hl, hx, h.2.symm⟩
  · simp at h

/-- Only files are changed, and the code is read back from where the reference leads. -/
theorem eq_of_persist {workArea : Place} {identity code ref : Text} {w v : Workspace}
    (h : (persist workArea identity code).exec w = (.ok ref, v)) :
    ref = (Artifact.path workArea identity).toText ∧
      Source.bytes v.files v.here (Artifact.path workArea identity) = .ok (Utf8.encode code) ∧
      ∃ t, v = { w with files := t } := by
  obtain ⟨rfl, t₀, place, t, hl, hx, rfl⟩ := writes_of_persist h
  refine ⟨rfl, ?_, t, rfl⟩
  simp only [Source.bytes, FileTree.locate_of_write hx hl]
  exact FileTree.read_of_write hx

theorem exec_load_of_kept {workArea : Place} {identity code : Text} {w : Workspace}
    (hw : workArea.Clean) (hl : w.imported.find? (Artifact.key (Artifact.path workArea identity)) = none)
    (hs : Source.bytes w.files w.here (Artifact.path workArea identity) =
      .ok (Utf8.encode code)) :
    (load (Artifact.path workArea identity)).exec w =
      ((Store.files workArea).instantiate (Artifact.path workArea identity).toText code).exec w := by
  have hcode : (FileStore.code (Artifact.path workArea identity)).exec w = (.ok code, w) := by
    rw [FileStore.code, exec_bind, exec_get]
    simp only [hs, exec_bind, exec_ofExcept, Except.mapError, Utf8.decode_encode]
  have hof := Artifact.ofText_toText_path identity hw
  rw [load, exec_bind, exec_get]
  simp only [hl, Artifact.isExtensionPath_path, Artifact.isModulePath_path, Bool.not_true,
    Bool.false_eq_true, if_false]
  rw [exec_bind_ok hcode, Store.instantiate]
  simp only [Store.globals, Store.abandon, Store.register, hof]

end FileStore

theorem Artifact.not_mem_reference {identity : Text} (h : '\x00' ∉ identity) :
    '\x00' ∉ reference identity := by
  have hstart : '\x00' ∉ referenceStart := by decide
  have hend : '\x00' ∉ ['>'] := by decide
  rw [reference, List.mem_append, List.mem_append]
  exact fun hc => hc.elim (fun hc => hc.elim hstart h) hend

namespace Store

theorem not_mem_of_persist {s : Store} {identity code ref : Text} {w v : Workspace}
    (hid : '\x00' ∉ identity) (h : (s.persist identity code).exec w = (.ok ref, v)) :
    '\x00' ∉ ref := by
  cases s with
  | memory n =>
    have hpersist := (MemoryStore.exec_persist n identity code w).symm.trans h
    simp only [Prod.mk.injEq, Except.ok.injEq] at hpersist
    obtain ⟨rfl, -⟩ := hpersist
    exact Artifact.not_mem_reference hid
  | files workArea =>
    obtain ⟨rfl, t₀, place, t, hl, -⟩ := FileStore.writes_of_persist h
    exact FileTree.not_mem_of_locate hl

/-- Keeping code, unloading its reference and loading it is installing the code. -/
theorem exec_install {s : Store} {identity code : Text} {w : Workspace} (hs : s.Ready w) :
    (do
      let ref ← s.persist identity code
      s.unload ref
      return (ref, ← s.load ref)).exec w = (s.install identity code).exec w := by
  have hrest : ∀ ref v, (s.persist identity code).exec w = (.ok ref, v) →
      (s.load ref).exec (s.forget ref v) = (s.instantiate ref code).exec (s.forget ref v) := by
    intro ref v h
    cases s with
    | memory n =>
      have hn : n < w.memories.size := hs
      obtain ⟨rfl, hv⟩ : ref = Artifact.reference identity ∧ v.memories = w.memories.modify n
          fun m => { m with sources := m.sources.insert (Artifact.reference identity) code } := by
        have := (MemoryStore.exec_persist n identity code w).symm.trans h
        simp only [Prod.mk.injEq, Except.ok.injEq] at this
        obtain ⟨rfl, rfl⟩ := this
        exact ⟨rfl, rfl⟩
      have hm : ((memory n).forget (Artifact.reference identity) v).memories[n]? = some
          ⟨w.memories[n].sources.insert (Artifact.reference identity) code,
            w.memories[n].loaded.erase (Artifact.reference identity)⟩ := by
        simp [forget, hv, Array.getElem_modify, hn]
      exact MemoryStore.exec_load_of_kept hm (by simp [Table.find?_erase])
        (by simp [Table.find?_insert])
    | files workArea =>
      obtain ⟨rfl, hb, -⟩ := FileStore.eq_of_persist h
      have hof := Artifact.ofText_toText_path identity hs
      have hread : Source.bytes ((files workArea).forget (Artifact.path workArea identity).toText v).files
          ((files workArea).forget (Artifact.path workArea identity).toText v).here
          (Artifact.path workArea identity) = .ok (Utf8.encode code) := hb
      have := FileStore.exec_load_of_kept hs (by simp [forget, hof, Table.find?_erase]) hread
      simpa only [load, hof] using this
  rw [install, exec_bind, exec_bind]
  cases h : (s.persist identity code).exec w with
  | mk r v =>
    cases r with
    | error e => rfl
    | ok ref =>
      dsimp only
      rw [exec_bind_ok (exec_unload s ref v), exec_bind_ok (exec_unload s ref v), exec_bind,
        exec_bind, hrest ref v h]

variable {s : Store} {identity ref code : Text} {f : Runnable} {w v : Workspace}

theorem exec_register (s : Store) (ref : Text) (k : Nat) (w : Workspace) :
    ∃ v, (s.register ref k).exec w = (.ok (), v) ∧ v.modules = w.modules := by
  cases s with
  | memory n => exact ⟨_, rfl, rfl⟩
  | files workArea => exact ⟨_, rfl, rfl⟩

section

variable {globals : Table Text Script.Value} {abandon : Script.Module → Action Unit}

theorem exec_execute_null (hn : '\x00' ∈ ref) (w : Workspace) :
    (execute globals abandon ref code).exec w = (.error (.load ⟨ref, .nullReference⟩), w) := by
  rw [execute, if_pos hn]
  rfl

theorem exec_execute (hn : '\x00' ∉ ref) {m : Script.Module}
    (hm : Script.Module.load globals code = .ok m) (w : Workspace) :
    (execute globals abandon ref code).exec w =
      (.ok w.modules.size, { w with modules := w.modules.push m }) := by
  rw [execute, if_neg hn, hm]
  rfl

end

theorem exec_abandon (s : Store) (ref : Text) (m : Script.Module) (w : Workspace) :
    ∃ v, (s.abandon ref m).exec w = (.ok (), v) := by
  cases s with
  | memory n => exact ⟨_, rfl⟩
  | files workArea => exact ⟨_, rfl⟩

theorem exec_execute_fault (hn : '\x00' ∉ ref) {fault : Script.LoadFault}
    (hm : Script.Module.load (s.globals ref) code = .error fault) (w : Workspace) :
    ∃ v, (execute (s.globals ref) (s.abandon ref) ref code).exec w =
      (.error (Failure.ofFault ref fault), v) ∧ (fault.abandoned? = none → v = w) := by
  rw [execute, if_neg hn, hm]
  dsimp only
  cases hf : fault.abandoned? with
  | none => exact ⟨w, rfl, fun _ => rfl⟩
  | some m =>
    obtain ⟨v, hv⟩ := exec_abandon s ref m w
    exact ⟨v, exec_bind_ok hv, fun h => by contradiction⟩

theorem exec_instantiate (hn : '\x00' ∉ ref) {m : Script.Module} {value : Script.Value}
    (hm : Script.Module.load (s.globals ref) code = .ok m)
    (hf : m.function? Generated.renderName = some value) (w : Workspace) :
    ∃ v, (s.instantiate ref code).exec w = (.ok ⟨w.modules.size, value⟩, v) ∧
      v.modules[w.modules.size]? = some m := by
  obtain ⟨u, hu, hmodules⟩ := exec_register s ref w.modules.size
    { w with modules := w.modules.push m }
  have hat : u.modules[w.modules.size]? = some m := by simp [hmodules]
  refine ⟨u, ?_, hat⟩
  rw [instantiate, exec_bind_ok (exec_execute hn hm w), exec_bind_ok hu, runnable, exec_bind, exec_get]
  simp only [hat, Option.bind_some, hf, exec_pure]

/-- The function is one of a module that was not there before, and that module is what the code
gives. -/
theorem eq_of_instantiate (h : (s.instantiate ref code).exec w = (.ok f, v)) :
    ∃ m, Script.Module.load (s.globals ref) code = .ok m ∧
      m.function? Generated.renderName = some f.function ∧
      f.owner = w.modules.size ∧ v.modules[f.owner]? = some m := by
  by_cases hn : '\x00' ∈ ref
  · rw [instantiate, exec_bind_error (exec_execute_null hn w)] at h
    simp at h
  cases hm : Script.Module.load (s.globals ref) code with
  | error e =>
    obtain ⟨x, hx, -⟩ := exec_execute_fault hn hm w
    rw [instantiate, exec_bind_error hx] at h
    simp at h
  | ok m =>
    obtain ⟨u, hu, hmodules⟩ := exec_register s ref w.modules.size
      { w with modules := w.modules.push m }
    have hat : u.modules[w.modules.size]? = some m := by simp [hmodules]
    rw [instantiate, exec_bind_ok (exec_execute hn hm w), exec_bind_ok hu, runnable, exec_bind,
      exec_get] at h
    simp only [hat, Option.bind_some] at h
    cases hf : m.function? Generated.renderName with
    | none => simp [hf] at h
    | some value =>
      simp only [hf, exec_pure, Prod.mk.injEq, Except.ok.injEq] at h
      obtain ⟨rfl, rfl⟩ := h
      exact ⟨m, rfl, hf, rfl, hat⟩

theorem eq_of_install (h : (s.install identity code).exec w = (.ok (ref, f), v)) :
    ∃ m, Script.Module.load (s.globals ref) code = .ok m ∧
      m.function? Generated.renderName = some f.function ∧
      w.modules.size ≤ f.owner ∧ v.modules[f.owner]? = some m := by
  have hk := (apart_persist s identity code).keeps w
  rw [install, exec_bind] at h
  cases hp : (s.persist identity code).exec w with
  | mk r u =>
    cases r with
    | error e => simp [hp] at h
    | ok ref' =>
      rw [hp] at hk
      have hk' := hk.trans ((apart_unload s ref').keeps u)
      simp only [hp] at h
      rw [exec_bind_ok (exec_unload s ref' u), exec_bind] at h
      cases hi : (s.instantiate ref' code).exec (s.forget ref' u) with
      | mk r' u' =>
        cases r' with
        | error e => simp [hi] at h
        | ok f' =>
          simp only [hi, exec_pure, Prod.mk.injEq, Except.ok.injEq] at h
          obtain ⟨⟨rfl, rfl⟩, rfl⟩ := h
          obtain ⟨m, hm, hf, ho, hat⟩ := eq_of_instantiate hi
          refine ⟨m, hm, hf, ?_, hat⟩
          rw [ho]
          rw [exec_unload] at hk'
          exact hk'.size_le

end Store
end TemplateEngine
