import TemplateEngine.Script.Value

set_option autoImplicit false

/-!
# Which values are the same one

Two values are the same one if they are one thing and not only equal. A value that has just been made
is settled by giving it a number, unless there is only one of its kind; its items are settled with it.
-/
namespace TemplateEngine.Script.Value

/-- Whether there is only one value of its kind, as long as it is not made apart. -/
def isShared : Value → Bool
  | int i _ => -5 ≤ i && i ≤ 256
  | text [] _ | tuple [] _ => true
  | text [c] _ => c.toNat < 256
  | _ => false

def identity? : Value → Option Identity
  | int _ a | float _ a | complex _ a | text _ a | date _ a | moment _ a | tuple _ a | frozenset _ a
  | range _ _ _ a | slice _ _ _ a | view _ _ a | method _ _ a | exception _ _ a => some a
  | _ => Option.none

def isSettled (v : Value) : Bool :=
  match v.identity? with
  | some a => a.isSettled v.isShared
  | Option.none => true

mutual

def same : Value → Value → Bool
  | none, none | ellipsis, ellipsis => true
  | bool a, bool b => a = b
  | int i a, int j b => a.joins b && i = j
  | float f a, float g b => a.joins b && f = g
  | complex c a, complex d b => a.joins b && c = d
  | text s a, text t b => a.joins b && (a.isNumber || s = t)
  | date d a, date e b => a.joins b && d = e
  | moment m a, moment k b => a.joins b && m = k
  | tuple xs a, tuple ys b => a.joins b && (a.isNumber || sameItems xs ys)
  | frozenset _ a, frozenset _ b | range _ _ _ a, range _ _ _ b | slice _ _ _ a, slice _ _ _ b
  | view _ _ a, view _ _ b | method _ _ a, method _ _ b
  | exception _ _ a, exception _ _ b => a.isNumber && a.joins b
  | list a, list b | dict a, dict b | iterator _ a, iterator _ b | function a, function b => a = b
  | builtin a, builtin b => a = b
  | unbound t m, unbound u k => t = u && m = k
  | type a, type b => a = b
  | exceptionClass a, exceptionClass b => a = b
  | _, _ => false

def sameItems : List Value → List Value → Bool
  | [], [] => true
  | v :: vs, w :: ws => same v w && sameItems vs ws
  | _, _ => false

end

def withIdentity (a : Identity) : Value → Value
  | int i _ => int i a
  | float f _ => float f a
  | complex c _ => complex c a
  | text t _ => text t a
  | date d _ => date d a
  | moment m _ => moment m a
  | tuple items _ => tuple items a
  | frozenset items _ => frozenset items a
  | range x y z _ => range x y z a
  | slice x y z _ => slice x y z a
  | view k d _ => view k d a
  | method v m _ => method v m a
  | exception c arguments _ => exception c arguments a
  | v => v

mutual

/-- A settled value, and the first number that is free then, of those from `n` on. -/
def settle (n : Nat) : Value → Value × Nat
  | tuple items a =>
    if (tuple items a).isSettled then (tuple items a, n)
    else
      let (items, n) := settleAll n [] items
      (tuple items (.number n), n + 1)
  | frozenset items a =>
    if (frozenset items a).isSettled then (frozenset items a, n)
    else
      let (items, n) := settleAll n [] items
      (frozenset items (.number n), n + 1)
  | v => if v.isSettled then (v, n) else (v.withIdentity (.number n), n + 1)

/-- Settled values behind those of `done`, which are the other way round, and the first number that is
free then, of those from `n` on. -/
def settleAll (n : Nat) (done : List Value) : List Value → List Value × Nat
  | [] => (done.reverse, n)
  | v :: vs =>
    let (v, n) := settle n v
    settleAll n (v :: done) vs

end

end TemplateEngine.Script.Value
