import TemplateEngine.Text.Basic

set_option autoImplicit false

/-!
# Merging

Two sorted parts that stand behind each other are merged from the start or from the end. First one
item is taken after the other; when one part has won often enough in a row, the number of its items
that come next is searched for instead, in steps that double. Where the order of the items contradicts
itself, what comes out depends on these steps.
-/
namespace TemplateEngine.Script.Merging

variable {α ε : Type}

def halve (test : Nat → Except ε Bool) : Nat → (low high : Nat) → Except ε Nat
  | 0, low, _ => return low
  | n + 1, low, high =>
    if low < high then do
      let middle := low + (high - low) / 2
      if ← test middle then halve test n (middle + 1) high else halve test n low middle
    else return low

/-- The last distance that passes a test and the next one that is tried, of distances that double; the
limit counts as failing. The number bounds the steps. -/
def widen (test : Nat → Except ε Bool) (limit : Nat) :
    Nat → (last next : Nat) → Except ε (Nat × Nat)
  | 0, last, next => return (last, min next limit)
  | n + 1, last, next =>
    if next < limit then do
      if ← test next then widen test limit n next (2 * next + 1) else return (last, next)
    else return (last, limit)

def gallop (test : Nat → Except ε Bool) (size place : Nat) : Except ε Nat := do
  if ← test place then
    let (last, next) ← widen (fun i => test (place + i)) (size - place) size 0 1
    halve test size (place + last + 1) (place + next)
  else
    let (last, next) ← widen (fun i => do return !(← test (place - i))) (place + 1) size 0 1
    halve test size (place + 1 - next) (place - last)

/-- A part of which some items have been taken, from its start or from its end. -/
structure Part (α : Type) where
  items : Array α
  left : Nat
  fromEnd : Bool

namespace Part

def first (p : Part α) : Nat := if p.fromEnd then 0 else p.items.size - p.left

def rest (p : Part α) : List α := (p.items.extract p.first (p.first + p.left)).toList

def next? (p : Part α) : Option α :=
  p.items[if p.fromEnd then p.left - 1 else p.first]?

def take (p : Part α) (n : Nat) : Part α × List α :=
  let start := if p.fromEnd then p.left - n else p.first
  let taken := (p.items.extract start (start + n)).toList
  ({ p with left := p.left - n }, if p.fromEnd then taken.reverse else taken)

/-- How many items come next that are on one side of a test, which those at the start pass. -/
def count (p : Part α) (test : α → Except ε Bool) : Except ε Nat := do
  let passes (i : Nat) : Except ε Bool :=
    match p.items[p.first + i]? with
    | some x => test x
    | none => return false
  let n ← gallop passes p.left (if p.fromEnd then p.left - 1 else 0)
  return if p.fromEnd then p.left - n else n

end Part

structure State (α : Type) where
  front : Part α
  back : Part α
  fromEnd : Bool
  taken : List α := []

namespace State

def takeFront (s : State α) (n : Nat) : State α :=
  let (p, items) := s.front.take n
  { s with front := p, taken := items.reverse ++ s.taken }

def takeBack (s : State α) (n : Nat) : State α :=
  let (p, items) := s.back.take n
  { s with back := p, taken := items.reverse ++ s.taken }

/-- Whether it is decided what becomes of all items that are left: one part is used up, or the other one
has only its last item. -/
def isOver (s : State α) : Bool :=
  if s.fromEnd then s.front.left = 0 || s.back.left ≤ 1
  else s.back.left = 0 || s.front.left ≤ 1

def result (s : State α) : List α :=
  let rest := s.back.rest ++ s.front.rest
  if s.fromEnd then rest ++ s.taken else s.taken.reverse ++ rest

end State

def minWins : Nat := 7

variable (less : α → α → Except ε Bool)

/-- Takes one item after the other, until a part has won so often in a row or it is over. The number
bounds the steps. -/
def takeOneByOne (enough : Nat) : Nat → (frontWins backWins : Nat) → State α → Except ε (State α)
  | 0, _, _, s => return s
  | n + 1, f, b, s =>
    match s.front.next?, s.back.next? with
    | some x, some y => do
      if (← less y x) = s.fromEnd then
        let s := s.takeFront 1
        if s.isOver || enough ≤ f + 1 then return s else takeOneByOne enough n (f + 1) 0 s
      else
        let s := s.takeBack 1
        if s.isOver || enough ≤ b + 1 then return s else takeOneByOne enough n 0 (b + 1) s
    | _, _ => return s

/-- Searches for the items that come next, as long as that finds enough of them, and says how many wins
are enough from then on. The number bounds the steps. -/
def takeSeveral : Nat → (enough : Nat) → State α → Except ε (Nat × State α)
  | 0, enough, s => return (enough, s)
  | n + 1, enough, s => do
    let enough := if 1 < enough then enough - 1 else enough
    let f ← match s.back.next? with
      | some y => s.front.count fun x => do return !(← less y x)
      | none => pure 0
    let s := s.takeFront f
    if s.isOver then return (enough, s)
    let s := s.takeBack 1
    if s.isOver then return (enough, s)
    let b ← match s.front.next? with
      | some x => s.back.count fun y => less y x
      | none => pure 0
    let s := s.takeBack b
    if s.isOver then return (enough, s)
    let s := s.takeFront 1
    if s.isOver then return (enough, s)
    if minWins ≤ f || minWins ≤ b then takeSeveral n enough s else return (enough + 1, s)

def mergeOn : Nat → (enough : Nat) → State α → Except ε (Nat × State α)
  | 0, enough, s => return (enough, s)
  | n + 1, enough, s => do
    let size := s.front.left + s.back.left
    let s ← takeOneByOne less enough size 0 0 s
    if s.isOver then return (enough, s)
    let (enough, s) ← takeSeveral less size (enough + 1) s
    if s.isOver then return (enough, s) else mergeOn n enough s

/-- Two sorted parts in one, and how many wins are enough from then on. Items of the front part that
come before all others stay where they are, as do those of the back part that come behind all others;
the rest is merged from the side of the smaller part. -/
def merge (enough : Nat) (front back : Array α) : Except ε (Nat × Array α) := do
  match back[0]? with
  | none => return (enough, front)
  | some y =>
    let before := fun i =>
      match front[i]? with
      | some x => do return !(← less y x)
      | none => return false
    let n ← gallop before front.size 0
    match front.back? with
    | none => return (enough, back)
    | some x =>
      if n = front.size then return (enough, front ++ back)
      let before := fun i =>
        match back[i]? with
        | some y => less y x
        | none => return false
      let m ← gallop before back.size (back.size - 1)
      if m = 0 then return (enough, front ++ back)
      let fromEnd := m < front.size - n
      let s : State α :=
        { front := ⟨front.extract n front.size, front.size - n, fromEnd⟩
          back := ⟨back.extract 0 m, m, fromEnd⟩
          fromEnd }
      let s := if fromEnd then s.takeFront 1 else s.takeBack 1
      let (enough, s) ←
        if s.isOver then pure (enough, s) else mergeOn less (front.size + m) enough s
      return (enough, front.extract 0 n ++ s.result.toArray ++ back.extract m back.size)

end TemplateEngine.Script.Merging
