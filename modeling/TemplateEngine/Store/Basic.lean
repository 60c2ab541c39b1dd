import TemplateEngine.Generated
import TemplateEngine.Store.Artifact
import TemplateEngine.Workspace

set_option autoImplicit false

/-!
# Stores

A store keeps the code of modules under references and loads it. Code is run when it is first
loaded; then the same module is used until the reference is unloaded, also if other code has been
kept since. Stores in memory have their own modules, all stores in files share theirs.

A module starts with the variables that describe it. Left out are `__builtins__` and, for a module of a
file, `__loader__` and `__spec__`, which hold objects of the language itself.
-/
namespace TemplateEngine

namespace Store

def startingWith (es : List (String × Script.Value)) : Table Text Script.Value :=
  ⟨es.map fun e => (e.1.toList, e.2)⟩

def add (m : Script.Module) : Action Nat := do
  let w ← get
  set { w with modules := w.modules.push m }
  return w.modules.size

/-- Runs code, and adds the module that it gives; some variables have values at the start. What becomes of
a module that asks for the end of the program is said by `abandon`. -/
def execute (globals : Table Text Script.Value) (abandon : Script.Module → Action Unit)
    (artifact code : Text) : Action Nat :=
  if '\x00' ∈ artifact then throw (.load ⟨artifact, .nullReference⟩)
  else
    match Script.Module.load globals code with
    | .ok m => add m
    | .error f => do
      f.abandoned?.forM abandon
      throw (Failure.ofFault artifact f)

def runnable (artifact : Text) (number : Nat) : Action Runnable := do
  let w ← get
  match w.modules[number]?.bind fun m => m.function? Generated.renderName with
  | some v => return ⟨number, v⟩
  | none => throw (.load ⟨artifact, .noFunction⟩)

end Store

namespace MemoryStore

def get (n : Nat) : Action MemoryStore := do
  return ((← getThe Workspace).memories[n]?).getD {}

def change (n : Nat) (f : MemoryStore → MemoryStore) : Action Unit :=
  modify fun w => { w with memories := w.memories.modify n f }

def create : Action Store := do
  let w ← getThe Workspace
  set { w with memories := w.memories.push {} }
  return .memory w.memories.size

def persist (n : Nat) (identity code : Text) : Action Text := do
  let ref := Artifact.reference identity
  change n fun m => { m with sources := m.sources.insert ref code }
  modify fun w => { w with listings := w.listings.insert ref code }
  return ref

def globals (ref : Text) : Table Text Script.Value :=
  Store.startingWith [("__name__", .ofText (Artifact.moduleName ref)), ("__doc__", .none),
    ("__package__", .none), ("__loader__", .none), ("__spec__", .none)]

def load (n : Nat) (ref : Text) : Action Runnable := do
  let m ← MemoryStore.get n
  match m.loaded.find? ref with
  | some k => Store.runnable ref k
  | none =>
    match m.sources.find? ref with
    | none => throw (.load ⟨ref, .nothingKept⟩)
    | some code =>
      let k ← Store.execute (globals ref) (fun _ => return ()) ref code
      change n fun m => { m with loaded := m.loaded.insert ref k }
      Store.runnable ref k

def unload (n : Nat) (ref : Text) : Action Unit :=
  change n fun m => { m with loaded := m.loaded.erase ref }

def remove (n : Nat) (ref : Text) : Action Unit := do
  unload n ref
  change n fun m => { m with sources := m.sources.erase ref }
  modify fun w => { w with listings := w.listings.erase ref }

end MemoryStore

namespace FileStore

def locate (p : Path) : Action Place := do
  let w ← get
  Action.ofExcept .file (w.files.locate w.here p)

def prepare (workArea : Place) : Action Unit := do
  if ((← get).files.stat workArea).isOk then return
  Action.changeFiles (FileTree.ensureDirectory workArea)

def persist (workArea : Place) (identity code : Text) : Action Text := do
  prepare workArea
  let path := Artifact.path workArea identity
  let place ← locate path
  Action.changeFiles (FileTree.changing fun t => t.write place (Utf8.encode code))
  return path.toText

def code (p : Path) : Action Text := do
  let w ← get
  let fail (c : LoadCause) : Failure := .load ⟨p.toText, c⟩
  let bs ← Action.ofExcept (fun e => fail (.file e)) (Source.bytes w.files w.here p)
  Action.ofExcept (fun f => fail (.encoding f)) (Utf8.decode bs)

def globals (p : Path) : Table Text Script.Value :=
  let name := Artifact.fileModuleName p
  Store.startingWith [("__name__", .ofText name), ("__doc__", .none),
    ("__package__", .ofText (Artifact.packageName name)), ("__file__", .ofText p.toText),
    ("__cached__", .ofText (Artifact.cachePath p).toText)]

def register (p : Path) (k : Nat) : Action Unit :=
  modify fun w => { w with imported := w.imported.insert (Artifact.key p) k }

/-- Loads the module in the file that a path leads to. One that asks for the end of the program stays in
use as far as it has run. -/
def load (p : Path) : Action Runnable := do
  let artifact := p.toText
  match (← get).imported.find? (Artifact.key p) with
  | some k => Store.runnable artifact k
  | none =>
    if Artifact.isExtensionPath p then throw .extension
    if !Artifact.isModulePath p then throw (.load ⟨artifact, .notAModule artifact⟩)
    let k ← Store.execute (globals p) (fun m => do register p (← Store.add m)) artifact (← code p)
    register p k
    Store.runnable artifact k

def unload (p : Path) : Action Unit :=
  modify fun w => { w with imported := w.imported.erase (Artifact.key p) }

def remove (p : Path) : Action Unit := do
  unload p
  let w ← get
  match (do w.files.delete (← w.files.locate w.here p) : Except FileError FileTree) with
  | .ok t => set { w with files := t }
  | .error .missing => return
  | .error e => throw (.file e)

end FileStore

namespace Store

def persist : Store → (identity code : Text) → Action Text
  | memory n => MemoryStore.persist n
  | files workArea => FileStore.persist workArea

def load : Store → (ref : Text) → Action Runnable
  | memory n, ref => MemoryStore.load n ref
  | files _, ref => FileStore.load (.ofText ref)

def unload : Store → (ref : Text) → Action Unit
  | memory n, ref => MemoryStore.unload n ref
  | files _, ref => FileStore.unload (.ofText ref)

def remove : Store → (ref : Text) → Action Unit
  | memory n, ref => MemoryStore.remove n ref
  | files _, ref => FileStore.remove (.ofText ref)

def resolve (p : Path) : Action Place := do
  Action.ofExcept .location (Identity.placeOf (← get).here p)

def create : Option Path → Action Store
  | none => MemoryStore.create
  | some p => do return files (← resolve p)

end Store
end TemplateEngine
