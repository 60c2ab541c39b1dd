import TemplateEngine.Script.Display

set_option autoImplicit false

/-!
# Comparing values

Equality, order and membership. Lists and tuples are compared item by item; values of different kinds
are not equal, and have no order. An item counts as equal to itself, whatever it is.
-/
namespace TemplateEngine.Script

namespace Value

def sequence? (h : Heap) : Value → Option (Bool × List Value)
  | list a => some (true, h.items a)
  | tuple items _ => some (false, items)
  | _ => Option.none

def members? (h : Heap) : Value → Option (List Value)
  | frozenset items _ => some items
  | view .keys a _ => some (h.dictionary a).keys
  | view .items a _ => some ((h.entries a).map ViewKind.items.ofEntry)
  | _ => Option.none

def hasItems : Value → Bool
  | list _ | dict _ | tuple _ _ | frozenset _ _ | slice _ _ _ _ | view .keys _ _
  | view .items _ _ => true
  | _ => false

/-- Whether two values are equal, of which one has no items. -/
def equalPlain (v w : Value) : Bool :=
  match v, w with
  | text s _, text t _ => s = t
  | date d _, date e _ => d = e
  | moment m _, moment k _ => m.order? k = some .eq
  | range a b c _, range x y z _ => rangeContent a b c = rangeContent x y z
  | method v m _, method w k _ => m = k && v.same w
  | v, w =>
    match v.number?, w.number? with
    | some x, some y => x.equal y
    | _, _ => v.same w

def allPairs (test : Value → Value → Result Bool) : List Value → List Value → Result Bool
  | [], [] => return true
  | v :: vs, w :: ws => do if ← test v w then allPairs test vs ws else return false
  | _, _ => return false

def anyIs (test : Value → Result Bool) : List Value → Result Bool
  | [] => return false
  | v :: vs => do if ← test v then return true else anyIs test vs

def firstEntry (test : Value → Result Bool) : List (Nat × Item) → Result (Option (Nat × Item))
  | [] => return Option.none
  | e :: es => do if ← test e.2.1 then return some e else firstEntry test es

def allAreKeys (test : Value → Value → Result Bool) (d : Dictionary) : List Value → Result Bool
  | [] => return true
  | v :: vs => do
    match ← firstEntry (test v) (d.candidates v.code) with
    | some _ => allAreKeys test d vs
    | Option.none => return false

def allAmong (test : Value → Value → Result Bool) (others vs : List Value) : Result Bool :=
  allAreKeys test (.ofEntries (others.map fun w => (w, none))) vs

def allEntriesIn (test : Value → Value → Result Bool) (d : Dictionary) :
    List Item → Result Bool
  | [] => return true
  | e :: es => do
    match ← firstEntry (test e.1) (d.candidates e.1.code) with
    | some (_, f) => if ← test e.2 f.2 then allEntriesIn test d es else return false
    | Option.none => return false

/-- Whether two values are equal. The number bounds how deep they may be nested. -/
def equalIn (h : Heap) (room : Nat) (v w : Value) : Result Bool :=
  if v.hasItems && w.hasItems then
    match room with
    | 0 => Result.raise .recursionError
    | n + 1 =>
      let item (x y : Value) : Result Bool := if x.same y then return true else equalIn h n x y
      match v.sequence? h, w.sequence? h, v.members? h, w.members? h with
      | some (k, xs), some (l, ys), _, _ =>
        if k = l && xs.length = ys.length then allPairs item xs ys else return false
      | _, _, some xs, some ys =>
        if xs.length = ys.length then allAmong item ys xs else return false
      | _, _, _, _ =>
        match v, w with
        | dict a, dict b =>
          let d := h.dictionary a
          let e := h.dictionary b
          if d.size = e.size then allEntriesIn item e d.entries else return false
        | slice a b c i, slice x y z j =>
          if (slice a b c i).same (slice x y z j) then return true
          else allPairs item [a, b, c] [x, y, z]
        | _, _ => return false
  else return equalPlain v w
termination_by structural room

def equal (h : Heap) (v w : Value) : Result Bool := equalIn h h.room v w

def isItemIn (h : Heap) (room : Nat) (v w : Value) : Result Bool :=
  if v.same w then return true else equalIn h room v w

def isItem (h : Heap) (v w : Value) : Result Bool := isItemIn h h.room v w

def occurs (h : Heap) (v : Value) (ws : List Value) : Result Bool := anyIs (isItem h v) ws

def truthy (h : Heap) : Value → Bool
  | none => false
  | bool b => b
  | int i _ => i ≠ 0
  | float f _ => !f.isZero
  | complex c _ => !c.isZero
  | text t _ => t ≠ []
  | tuple items _ | frozenset items _ => !items.isEmpty
  | range a b c _ => rangeLength a b c ≠ 0
  | list a => !(h.itemArray a).isEmpty
  | dict a | view _ a _ => (h.dictionary a).size ≠ 0
  | _ => true

inductive Order where
  | less
  | lessEqual
  | greater
  | greaterEqual
  deriving DecidableEq, Repr

def Order.holds : Order → Ordering → Bool
  | less, o => o = .lt
  | lessEqual, o => o ≠ .gt
  | greater, o => o = .gt
  | greaterEqual, o => o ≠ .lt

def firstDifference (test : Value → Value → Result Bool) :
    List Value → List Value → Result (Sum (Value × Value) Ordering)
  | [], [] => return .inr .eq
  | [], _ :: _ => return .inr .lt
  | _ :: _, [] => return .inr .gt
  | x :: xs, y :: ys => do
    if ← test x y then firstDifference test xs ys else return .inl (x, y)

/-- The order of two sets, in which each may have items that the other one lacks. -/
def compareSets (test : Value → Value → Result Bool) (op : Order) (xs ys : List Value) :
    Result Bool := do
  let sub ← allAmong test ys xs
  let super ← allAmong test xs ys
  return match op with
    | .less => sub && !super
    | .lessEqual => sub
    | .greater => super && !sub
    | .greaterEqual => super

/-- The items by which two values are ordered, if they are of one kind that has some. Those of the same
slice are left out. -/
def orderedItems? (h : Heap) (v w : Value) : Option (List Value × List Value) :=
  match v, w with
  | list a, list b => some (h.items a, h.items b)
  | tuple xs _, tuple ys _ => some (xs, ys)
  | slice a b c i, slice x y z j =>
    if (slice a b c i).same (slice x y z j) then some ([], []) else some ([a, b, c], [x, y, z])
  | _, _ => Option.none

def orderedIn (h : Heap) (op : Order) (room : Nat) (v w : Value) : Result Bool :=
  match orderedItems? h v w, room with
  | some _, 0 => Result.raise .recursionError
  | some (xs, ys), n + 1 => do
    match ← firstDifference (isItemIn h n) xs ys with
    | .inr o => return op.holds o
    | .inl (x, y) => orderedIn h op n x y
  | Option.none, _ =>
    match v.number?, w.number?, v.members? h, w.members? h with
    | some x, some y, _, _ =>
      if x.isReal && y.isReal then return (x.compare? y).any op.holds
      else Result.raise .typeError
    | _, _, some xs, some ys => compareSets (isItemIn h (room - 1)) op xs ys
    | _, _, _, _ =>
      match v, w with
      | text s _, text t _ => return op.holds (Str.order s t)
      | date d _, date e _ => return op.holds (d.order e)
      | moment m _, moment k _ =>
        match m.order? k with
        | some o => return op.holds o
        | Option.none => Result.raise .typeError
      | _, _ => Result.raise .typeError
termination_by structural room

def ordered (h : Heap) (op : Order) (v w : Value) : Result Bool := orderedIn h op h.room v w

def checkKey (v : Value) : Result Unit :=
  if v.mayBeKey then return () else Result.raise .typeError

end Value

namespace Dictionary

def find? (h : Heap) (d : Dictionary) (key : Value) : Result (Option (Nat × Item)) :=
  Value.firstEntry (Value.isItem h key) (d.candidates key.code)

def value? (h : Heap) (d : Dictionary) (key : Value) : Result (Option Value) := do
  return (← d.find? h key).map fun e => e.2.2

def insert (h : Heap) (d : Dictionary) (key v : Value) : Result Dictionary := do
  match ← d.find? h key with
  | some (i, _) => return d.setValue i v
  | none => return d.compact.push (key, v)

def insertAll (h : Heap) (d : Dictionary) (es : List Item) : Result Dictionary :=
  es.foldlM (fun d e => d.insert h e.1 e.2) d

def distinctKeys (h : Heap) (keys : List Value) : Result (List Value) := do
  return (← insertAll h {} (keys.map fun k => (k, .none))).keys

end Dictionary
end TemplateEngine.Script
