import TemplateEngine.Cache

set_option autoImplicit false

/-!
# Pages

A page is one template of a cache. It may have none yet, and then renders as nothing.
-/
namespace TemplateEngine

structure Page where
  /-- The number of the cache. -/
  cache : Nat
  handle : Option Handle := none
  deriving DecidableEq, Repr

namespace Page

def createCache (s : Settings) : Action Nat := do
  let store ← Store.create s.workArea
  Cache.create { delimiters := s.delimiters, store := store, strict := s.strict }

def load (p : Page) (location : Path) : Action Page := do
  return { p with handle := some (← Cache.load p.cache location) }

def create (s : Settings) (cache : Option Nat) : Action Page := do
  let n ← match cache with
    | some n => pure n
    | none => createCache s
  match s.sourceLocation with
  | none => return ⟨n, none⟩
  | some location => Page.load ⟨n, none⟩ location

def reload (p : Page) : Action Page :=
  match p.handle with
  | none => return p
  | some h => return { p with handle := some (← Cache.reload p.cache h) }

def clear (p : Page) : Action Unit :=
  match p.handle with
  | none => return
  | some h => Cache.invalidate p.cache h.identity

def render (p : Page) (context : Data) : Action (Script.Value × Script.Heap) :=
  match p.handle with
  | none => return (.ofText [], {})
  | some h => Cache.render p.cache h.identity context

def isCached (p : Page) : Action Bool :=
  match p.handle with
  | none => return false
  | some h => Cache.contains p.cache h.identity

def artifact? (p : Page) : Action (Option Text) :=
  match p.handle with
  | none => return none
  | some h => Cache.artifact? p.cache h.identity

end Page
end TemplateEngine
