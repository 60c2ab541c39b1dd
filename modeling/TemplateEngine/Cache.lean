import TemplateEngine.Compile
import TemplateEngine.Store.Basic

set_option autoImplicit false

/-!
# Caches

A cache holds loaded templates by their identities, in the order in which they were loaded. A
template that it holds is neither read nor compiled again until it is dropped.
-/
namespace TemplateEngine

structure Handle where
  location : Place
  identity : Text
  /-- The number of the cache. -/
  cache : Nat
  deriving DecidableEq, Repr

namespace Handle

/-- Whether two handles are for the same template, be it of different caches. -/
def same (h g : Handle) : Bool := h.location = g.location && h.identity = g.identity

end Handle

namespace Cache

def create (c : Cache) : Action Nat := do
  let w ← get
  set { w with caches := w.caches.push c }
  return w.caches.size

def find (n : Nat) : Action Cache := do
  match (← get).caches[n]? with
  | some c => return c
  | none => throw .unknownNumber

def change (n : Nat) (f : Cache → Cache) : Action Unit :=
  modify fun w => { w with caches := w.caches.modify n f }

def handle (n : Nat) (location : Path) : Action Handle := do
  let place ← Store.resolve location
  return ⟨place, Identity.ofPlace place, n⟩

def contains (n : Nat) (identity : Text) : Action Bool := do
  return (← find n).entries.contains identity

def artifact? (n : Nat) (identity : Text) : Action (Option Text) := do
  return ((← find n).entries.find? identity).map Entry.artifact

def source (n : Nat) (place : Place) : Action Text := do
  change n fun c => { c with reads := c.reads + 1 }
  match (← find n).reader with
  | .fixed t => return t
  | .files =>
    let w ← get
    Action.ofExcept id (Source.read w.files w.here place.toPath)

def compile (n : Nat) (source : Text) (place : Place) : Action Text := do
  change n fun c => { c with compiles := c.compiles + 1 }
  return (Compile.template (← find n).delimiters source place.toText).code

/-- Loads a template that the cache does not hold. Code is kept anew, and what another cache may
have loaded under its reference is forgotten. -/
def insert (n : Nat) (h : Handle) : Action Unit := do
  let text ← source n h.location
  let code ← compile n text h.location
  let store := (← find n).store
  let ref ← store.persist h.identity code
  store.unload ref
  let f ← store.load ref
  change n fun c => { c with entries := c.entries.insert h.identity ⟨f, ref⟩ }

def load (n : Nat) (location : Path) : Action Handle := do
  let h ← handle n location
  if !(← contains n h.identity) then insert n h
  return h

def invalidate (n : Nat) (identity : Text) : Action Unit := do
  let c ← find n
  match c.entries.find? identity with
  | none => return
  | some e =>
    change n fun c => { c with entries := c.entries.erase identity }
    c.store.unload e.artifact

def reload (n : Nat) (h : Handle) : Action Handle := do
  invalidate n h.identity
  load n h.location.toPath

def clear (n : Nat) : Action Unit := do
  (← find n).entries.keys.forM (invalidate n)

/-- Renders a template with some data. A template that was dropped is an error for a strict cache
and renders as nothing otherwise. -/
def render (n : Nat) (identity : Text) (context : Data) : Action (Script.Value × Script.Heap) := do
  let c ← find n
  match c.entries.find? identity with
  | some e => e.render.call [context]
  | none => if c.strict then throw (.stale identity) else return (.ofText [], {})

def closing {α : Type} (n : Nat) (use : Action α) : Action α :=
  tryCatch (do let r ← use; clear n; return r) fun e => do clear n; throw e

/-- Loads a template, and what rendering it gives, together with the number of templates that there are
then. All of them are dropped at the end. -/
def visit (n : Nat) (location : Path) (context : Data) :
    Action (Handle × Except Failure ((Script.Value × Script.Heap) × Nat)) :=
  closing n do
    let h ← load n location
    let use := do
      let v ← render n h.identity context
      return (v, (← find n).entries.keys.length)
    return (h, ← Action.attempt use)

end Cache
end TemplateEngine
