import TemplateEngine.Cache
import TemplateEngine.Proofs.Store.Install

set_option autoImplicit false

/-!
# Ledgers

A ledger says what caches are for. Each of its shelves lists snapshots, the earliest first: a source
as it was read, the code compiled from it, and the function which that code gave. How a store finds
the module of a reference plays no part: a load makes a new module of the code that it has compiled.

The requests are what can be asked of caches and stores, in any order and of any number of them; they
are answered by a workspace and by a ledger.
-/
namespace TemplateEngine

open TemplateEngine.Action

structure Snapshot where
  identity : Text
  source : Text
  code : Text
  /-- The reference of the code. -/
  artifact : Text
  /-- What the code gave when it was run. -/
  function : Runnable

/-- A cache as a list of snapshots. -/
structure Shelf where
  delimiters : Delimiters
  store : Store
  reader : Reader
  strict : Bool
  snapshots : List Snapshot := []
  reads : Nat := 0
  compiles : Nat := 0

namespace Shelf

def identities (c : Shelf) : List Text := c.snapshots.map Snapshot.identity

def find? (c : Shelf) (identity : Text) : Option Snapshot :=
  c.snapshots.find? fun s => s.identity = identity

def drop (c : Shelf) (identity : Text) : Shelf :=
  { c with snapshots := c.snapshots.filter fun s => s.identity ≠ identity }

def read (c : Shelf) (w : Workspace) (place : Place) : Except Failure Text :=
  match c.reader with
  | .files => Source.read w.files w.here place.toPath
  | .fixed source => .ok source

def compile (c : Shelf) (source : Text) (place : Place) : Text :=
  (Compile.template c.delimiters source place.toText).code

def toCache (c : Shelf) : Cache where
  delimiters := c.delimiters
  store := c.store
  reader := c.reader
  strict := c.strict
  entries := ⟨c.snapshots.map fun s => (s.identity, ⟨s.function, s.artifact⟩)⟩
  reads := c.reads
  compiles := c.compiles

end Shelf

/-- Shelves, and a workspace whose own caches are of no account. -/
structure Ledger where
  world : Workspace
  shelves : Array Shelf := #[]

namespace Ledger

def toWorkspace (l : Ledger) : Workspace := l.world.withCaches (l.shelves.map Shelf.toCache)

def held (l : Ledger) : Array (List Snapshot) := l.shelves.map Shelf.snapshots

def put (l : Ledger) (n : Nat) (c : Shelf) : Ledger :=
  { l with shelves := l.shelves.setIfInBounds n c }

/-- Does something that has nothing to do with caches. -/
def within {α : Type} (l : Ledger) (x : Action α) : Except Failure α × Ledger :=
  ((x.exec l.world).1, { l with world := (x.exec l.world).2 })

def andThen {α β : Type} (r : Except Failure α × Ledger)
    (f : α → Ledger → Except Failure β × Ledger) : Except Failure β × Ledger :=
  match r with
  | (.ok a, l) => f a l
  | (.error e, l) => (.error e, l)

def onShelf {α : Type} (l : Ledger) (n : Nat) (f : Shelf → Except Failure α × Ledger) :
    Except Failure α × Ledger :=
  match l.shelves[n]? with
  | some c => f c
  | none => (.error .unknownNumber, l)

/-- Loading a template that is not on the shelf: it is read once; if there is a text, that is compiled
once; if there is a function of the code, the snapshot comes last on the shelf. -/
def insert (l : Ledger) (n : Nat) (c : Shelf) (h : Handle) : Except Failure Unit × Ledger :=
  let asked := { c with reads := c.reads + 1 }
  match c.read l.world h.location with
  | .error e => (.error e, l.put n asked)
  | .ok source =>
    let compiled := { asked with compiles := c.compiles + 1 }
    let code := c.compile source h.location
    andThen ((l.put n compiled).within (c.store.install h.identity code)) fun made l =>
      let s : Snapshot := ⟨h.identity, source, code, made.1, made.2⟩
      (.ok (), l.put n { compiled with snapshots := c.snapshots ++ [s] })

def load (l : Ledger) (n : Nat) (location : Path) : Except Failure Handle × Ledger :=
  match Identity.placeOf l.world.here location with
  | .error f => (.error (.location f), l)
  | .ok place =>
    let h : Handle := ⟨place, Identity.ofPlace place, n⟩
    l.onShelf n fun c =>
      match c.find? h.identity with
      | some _ => (.ok h, l)
      | none => andThen (l.insert n c h) fun _ l => (.ok h, l)

def invalidate (l : Ledger) (n : Nat) (identity : Text) : Except Failure Unit × Ledger :=
  l.onShelf n fun c =>
    match c.find? identity with
    | none => (.ok (), l)
    | some s =>
      (.ok (), { l with world := c.store.forget s.artifact l.world }.put n (c.drop identity))

def reload (l : Ledger) (n : Nat) (h : Handle) : Except Failure Handle × Ledger :=
  andThen (l.invalidate n h.identity) fun _ l => l.load n h.location.toPath

def clear (l : Ledger) (n : Nat) : Except Failure Unit × Ledger :=
  l.onShelf n fun c =>
    let world := c.store.forgetAll (c.snapshots.map Snapshot.artifact) l.world
    (.ok (), { l with world := world }.put n { c with snapshots := [] })

def render (l : Ledger) (n : Nat) (identity : Text) (context : Data) :
    Except Failure (Script.Value × Script.Heap) × Ledger :=
  l.onShelf n fun c =>
    match c.find? identity with
    | some s => l.within (s.function.call [context])
    | none => if c.strict then (.error (.stale identity), l) else (.ok (.ofText [], {}), l)

def closing {α : Type} (n : Nat) (r : Except Failure α × Ledger) : Except Failure α × Ledger :=
  andThen (r.2.clear n) fun _ l => (r.1, l)

def visit (l : Ledger) (n : Nat) (location : Path) (context : Data) :
    Except Failure (Handle × Except Failure ((Script.Value × Script.Heap) × Nat)) × Ledger :=
  closing n (andThen (l.load n location) fun h l =>
    let r := andThen (l.render n h.identity context) fun v l =>
      l.onShelf n fun c => (.ok (v, c.identities.length), l)
    (.ok (h, r.1), r.2))

end Ledger

inductive StoreChoice where
  /-- A new one in memory. -/
  | memory
  /-- The one in memory with a number. -/
  | shared (number : Nat)
  /-- The files of a directory. -/
  | files (path : Text)

def StoreChoice.get : StoreChoice → Action Store
  | memory => Store.create none
  | shared n => do
    if n < (← MonadState.get).memories.size then return .memory n else throw .unknownNumber
  | files path => Store.create (some (.ofText path))

inductive Request where
  /-- Files are written and deleted by someone else. -/
  | edit (change : FileTree → FileTree)
  | makeStore (choice : StoreChoice)
  | makeCache (delimiters : Delimiters) (choice : StoreChoice) (reader : Reader) (strict : Bool)
  | load (cache : Nat) (location : Path)
  | reload (cache : Nat) (h : Handle)
  | invalidate (cache : Nat) (identity : Text)
  | clear (cache : Nat)
  | visit (cache : Nat) (location : Path) (context : Data)
  | render (cache : Nat) (identity : Text) (context : Data)
  | persist (store : Store) (identity code : Text)
  | loadFrom (store : Store) (ref : Text)
  | unload (store : Store) (ref : Text)
  | remove (store : Store) (ref : Text)
  | call (f : Runnable) (arguments : List Data)

inductive Reply where
  | nothing
  | store (s : Store)
  | number (n : Nat)
  | handle (h : Handle)
  | reference (t : Text)
  | runnable (f : Runnable)
  | value (v : Script.Value) (h : Script.Heap)
  | visited (h : Handle) (r : Except Failure ((Script.Value × Script.Heap) × Nat))

def Request.perform : Request → Action Reply
  | edit change => do
    modify fun w => { w with files := change w.files }
    return .nothing
  | makeStore choice => return .store (← choice.get)
  | makeCache delimiters choice reader strict => do
    let store ← choice.get
    return .number (← Cache.create { delimiters, store, reader, strict })
  | load n location => return .handle (← Cache.load n location)
  | reload n h => return .handle (← Cache.reload n h)
  | invalidate n identity => do
    Cache.invalidate n identity
    return .nothing
  | clear n => do
    Cache.clear n
    return .nothing
  | visit n location context => do
    let r ← Cache.visit n location context
    return .visited r.1 r.2
  | render n identity context => do
    let r ← Cache.render n identity context
    return .value r.1 r.2
  | persist store identity code => return .reference (← store.persist identity code)
  | loadFrom store ref => return .runnable (← store.load ref)
  | unload store ref => do
    store.unload ref
    return .nothing
  | remove store ref => do
    store.remove ref
    return .nothing
  | call f arguments => do
    let r ← f.call arguments
    return .value r.1 r.2

/-- What a ledger does on a request. Only what is asked of caches is told by the shelves. -/
def Ledger.answer (l : Ledger) : Request → Except Failure Reply × Ledger
  | .makeCache delimiters choice reader strict =>
    andThen (l.within choice.get) fun store l =>
      (.ok (.number l.shelves.size),
        { l with shelves := l.shelves.push { delimiters, store, reader, strict } })
  | .load n location => andThen (l.load n location) fun h l => (.ok (.handle h), l)
  | .reload n h => andThen (l.reload n h) fun h l => (.ok (.handle h), l)
  | .invalidate n identity => andThen (l.invalidate n identity) fun _ l => (.ok .nothing, l)
  | .clear n => andThen (l.clear n) fun _ l => (.ok .nothing, l)
  | .visit n location context =>
    andThen (l.visit n location context) fun r l => (.ok (.visited r.1 r.2), l)
  | .render n identity context =>
    andThen (l.render n identity context) fun r l => (.ok (.value r.1 r.2), l)
  | r => l.within r.perform

def Workspace.run (w : Workspace) : List Request → List (Except Failure Reply) × Workspace
  | [] => ([], w)
  | r :: rs =>
    let (reply, v) := r.perform.exec w
    let (replies, u) := v.run rs
    (reply :: replies, u)

def Ledger.run (l : Ledger) : List Request → List (Except Failure Reply) × Ledger
  | [] => ([], l)
  | r :: rs =>
    let (reply, m) := l.answer r
    let (replies, k) := m.run rs
    (reply :: replies, k)

/-- The code is what the source compiles to for the template's place, and the function is that of a
module which is what this code gave, but for calls since then. -/
structure Snapshot.Sound (c : Shelf) (w : Workspace) (s : Snapshot) : Prop where
  compiled : ∃ place, s.identity = Identity.ofPlace place ∧ s.code = c.compile s.source place
  made : ∃ m n, Script.Module.load (c.store.globals s.artifact) s.code = .ok m ∧
    m.function? Generated.renderName = some s.function.function ∧
    w.modules[s.function.owner]? = some n ∧ m.Evolves n

structure Shelf.Sound (w : Workspace) (c : Shelf) : Prop where
  ready : c.store.Ready w
  nodup : c.identities.Nodup
  snapshots : ∀ s ∈ c.snapshots, s.Sound c w

structure Ledger.Sound (l : Ledger) : Prop where
  here : l.world.here.Clean
  shelves : ∀ (i : Nat) (c : Shelf), l.shelves[i]? = some c → c.Sound l.world
  /-- No two snapshots, on whichever shelves, have a module in common. -/
  apart : ∀ (i j : Nat) (c d : Shelf), l.shelves[i]? = some c → l.shelves[j]? = some d →
    ∀ s ∈ c.snapshots, ∀ t ∈ d.snapshots, s.function.owner = t.function.owner → i = j ∧ s = t

end TemplateEngine
