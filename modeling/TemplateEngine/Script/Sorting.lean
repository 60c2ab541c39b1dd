import TemplateEngine.Script.Compare
import TemplateEngine.Script.Merging

set_option autoImplicit false

/-!
# Sorting

Values with keys, put in the order of their keys; those with equal keys stay in their order. Stretches
that are in order already are found and, if they are short, made longer by inserting what follows them;
then they are merged, neighbours of like size first. Where keys have no order, all these steps decide
what comes out.
-/
namespace TemplateEngine.Script.Sorting

abbrev Entry := Value × Value

def less (h : Heap) (d e : Entry) : Result Bool := Value.ordered h .less d.1 e.1

/-- How many entries go on in order behind the first one: each is less than the one in front of it, or
none is. -/
def runLength (h : Heap) (falling : Bool) : Entry → List Entry → Result Nat
  | _, [] => return 0
  | d, e :: es => do
    if (← less h e d) = falling then return (← runLength h falling e es) + 1 else return 0

def insert (h : Heap) (sorted : List Entry) (e : Entry) : Result (List Entry) := do
  let known := sorted.toArray
  let stays (i : Nat) : Result Bool :=
    match known[i]? with
    | some d => do return !(← less h e d)
    | none => return false
  let i ← Merging.halve stays known.size 0 known.size
  return sorted.take i ++ e :: sorted.drop i

/-- The sorted stretch at the start of some entries, which has at least so many if there are so many, and
the entries behind it. -/
def stretch (h : Heap) (least : Nat) : List Entry → Result (List Entry × List Entry)
  | [] => return ([], [])
  | [e] => return ([e], [])
  | d :: e :: es => do
    let falling ← less h e d
    let n := (← runLength h falling e es) + 2
    let all := d :: e :: es
    let start := if falling then (all.take n).reverse else all.take n
    let more := (all.drop n).take (least - n)
    return (← more.foldlM (insert h) start, all.drop (max n least))

/-- The least length of a stretch, so that there are about as many as a power of two of them. The number
bounds the steps, and `odd` is 1 if a digit was lost. -/
def leastLength : Nat → (size odd : Nat) → Nat
  | 0, size, odd => size + odd
  | n + 1, size, odd =>
    if size < 64 then size + odd else leastLength n (size / 2) (max odd (size % 2))

/-- A sorted stretch, where it starts, and how deep the border to the next one lies. -/
structure Stretch where
  start : Nat
  entries : Array Entry
  depth : Nat := 0

/-- How deep the border between two neighbours lies: the first place at which the binary fractions of
their middles differ. The number bounds the steps. -/
def borderDepth (size : Nat) : Nat → (a b : Nat) → Nat
  | 0, _, _ => 1
  | n + 1, a, b =>
    if size ≤ a then borderDepth size n (2 * (a - size)) (2 * (b - size)) + 1
    else if size ≤ b then 1
    else borderDepth size n (2 * a) (2 * b) + 1

def join (h : Heap) (enough : Nat) (x y : Stretch) : Result (Nat × Stretch) := do
  let (enough, entries) ← Merging.merge (less h) enough x.entries y.entries
  return (enough, { x with entries })

/-- Stretches, the last one first, of which the last two are joined as long as the border between them
lies deeper than a new one behind the last. -/
def settle (h : Heap) (depth enough : Nat) (last : Stretch) :
    List Stretch → Result (Nat × List Stretch)
  | [] => return (enough, [{ last with depth }])
  | x :: rest => do
    if depth < x.depth then
      let (enough, last) ← join h enough x last
      settle h depth enough last rest
    else return (enough, { last with depth } :: x :: rest)

def joinAll (h : Heap) : Nat → (enough : Nat) → List Stretch → Result (List Entry)
  | n + 1, enough, z :: y :: x :: rest => do
    if x.entries.size < z.entries.size then
      let (enough, w) ← join h enough x y
      joinAll h n enough (z :: w :: rest)
    else
      let (enough, w) ← join h enough y z
      joinAll h n enough (w :: x :: rest)
  | _, enough, [y, x] => do return (← join h enough x y).2.entries.toList
  | _, _, ss => return (ss.reverse.map fun s => s.entries.toList).flatten

def findAll (h : Heap) (size least : Nat) : Nat → (enough start : Nat) → List Stretch →
    List Entry → Result (List Entry)
  | n + 1, enough, start, ss, e :: es => do
    let (found, rest) ← stretch h least (e :: es)
    let new : Stretch := { start, entries := found.toArray }
    let (enough, ss) ←
      match ss with
      | [] => pure (enough, [])
      | s :: before =>
        let a := 2 * s.start + s.entries.size
        let b := a + s.entries.size + found.length
        settle h (borderDepth size (size.log2 + 2) a b) enough s before
    findAll h size least n enough (start + found.length) (new :: ss) rest
  | _, enough, _, ss, _ => joinAll h ss.length enough ss

def all (h : Heap) (es : List Entry) : Result (List Entry) :=
  let size := es.length
  findAll h size (leastLength size.log2 size 0) (size + 1) Merging.minWins 0 [] es

def values (h : Heap) (reverse : Bool) (es : List Entry) : Result (List Value) := do
  let sorted ← all h (if reverse then es.reverse else es)
  let vs := sorted.map Prod.snd
  return if reverse then vs.reverse else vs

end TemplateEngine.Script.Sorting
