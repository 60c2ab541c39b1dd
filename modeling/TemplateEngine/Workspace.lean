import TemplateEngine.Source
import TemplateEngine.Table

set_option autoImplicit false

/-!
# Workspaces

A workspace is all that templates share: the files, the modules that have been loaded, the stores of
their code and the caches. Modules, stores in memory and caches are numbered in the order in which
they came. An action changes the workspace, and keeps what it has changed when it fails.
-/
namespace TemplateEngine

structure Runnable where
  /-- The number of the module. -/
  owner : Nat
  function : Script.Value

structure MemoryStore where
  sources : Table Text Text := {}
  loaded : Table Text Nat := {}
  deriving DecidableEq, Repr, Inhabited

inductive Store where
  | memory (number : Nat)
  /-- In the files of a directory. -/
  | files (workArea : Place)
  deriving DecidableEq, Repr

inductive Reader where
  | files
  /-- The text is the same for every location. -/
  | fixed (source : Text)
  deriving DecidableEq, Repr

structure Entry where
  render : Runnable
  /-- The reference of its module. -/
  artifact : Text

structure Cache where
  delimiters : Delimiters
  store : Store
  reader : Reader := .files
  /-- Whether rendering a template that was dropped is an error. -/
  strict : Bool
  entries : Table Text Entry := {}
  /-- How often a template's text was asked for. -/
  reads : Nat := 0
  /-- How often a template was compiled. -/
  compiles : Nat := 0

abbrev ModuleKey := Text × Text

structure Workspace where
  files : FileTree := {}
  /-- Where relative paths start. -/
  here : Place := []
  modules : Array Script.Module := #[]
  /-- The modules loaded from files. -/
  imported : Table ModuleKey Nat := {}
  memories : Array MemoryStore := #[]
  /-- The code last kept in memory, by references, for showing its lines. -/
  listings : Table Text Text := {}
  caches : Array Cache := #[]
  /-- What functions have printed. -/
  printed : Text := []

namespace Workspace

/-- The workspace with what a call leaves of a module. What it has printed is taken from it. -/
def leave (w : Workspace) (owner : Nat) (s : Script.State) : Workspace :=
  { w with
    modules := w.modules.setIfInBounds owner ⟨{ s with printed := [] }⟩
    printed := w.printed ++ s.printed }

end Workspace

abbrev Action (α : Type) := ExceptT Failure (StateM Workspace) α

namespace Action

def ofExcept {ε α : Type} (f : ε → Failure) : Except ε α → Action α
  | .ok a => pure a
  | .error e => throw (f e)

/-- What an action gives, also if it fails. -/
def attempt {α : Type} (x : Action α) : Action (Except Failure α) := ExceptT.lift x.run

def changeFiles (f : FileTree.Change Unit) : Action Unit := do
  let (r, t) := f.run.run (← get).files
  modify fun w => { w with files := t }
  ofExcept .file r

end Action

namespace Runnable

def same (f g : Runnable) : Bool :=
  match f.function, g.function with
  | .function a, .function b => f.owner = g.owner && a = b
  | .builtin a, .builtin b => a = b
  | .type a, .type b => a = b
  | .exceptionClass a, .exceptionClass b => a = b
  | _, _ => false

def call (f : Runnable) (arguments : List Data) : Action (Script.Value × Script.Heap) := do
  let w ← get
  match w.modules[f.owner]? with
  | none => throw .unknownNumber
  | some m =>
    match m.call f.function arguments with
    | .done v s =>
      set (w.leave f.owner s)
      return (v, s.heap)
    | .raised e s =>
      set (w.leave f.owner s)
      throw (.raised e s.heap)
    | .exhausted => throw .endless

end Runnable
end TemplateEngine
