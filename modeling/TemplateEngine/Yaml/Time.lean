import TemplateEngine.Yaml.Fault

set_option autoImplicit false

/-!
# Dates and times as they are written

A time is a date, perhaps with a clock time behind it and a distance from universal time behind that.
The parts are looked for first; whether they make a date is another question.
-/
namespace TemplateEngine.Yaml

structure ClockText where
  hour : Nat
  minute : Nat
  second : Nat
  /-- The digits behind the point. -/
  fraction : Text
  /-- By how many minutes the clock is ahead of universal time, if that is said. -/
  ahead : Option Int
  deriving DecidableEq, Repr

structure TimeText where
  year : Nat
  month : Nat
  day : Nat
  clock : Option ClockText
  deriving DecidableEq, Repr

namespace TimeText

def number? (least most : Nat) (t : Text) : Option (Nat × Text) :=
  let ds := (t.take most).takeWhile Char.isDigit
  if least ≤ ds.length then some (Numeral.value 10 ds, t.drop ds.length) else none

def mark? (c : Char) : Text → Option Text
  | d :: t => if d = c then some t else none
  | [] => none

def dropGap (t : Text) : Text := t.dropWhile fun c => c = ' ' || c = '\t'

def clockStart? (t : Text) : Option Text :=
  match t with
  | 'T' :: u | 't' :: u => some u
  | t => if (dropGap t).length < t.length then some (dropGap t) else none

def ahead? (t : Text) : Option (Option Int) :=
  match t, dropGap t with
  | [], _ => some none
  | _, ['Z'] => some (some 0)
  | _, s :: u =>
    if s = '+' || s = '-' then do
      let (hours, u) ← number? 1 2 u
      let minutes ← match u with
        | [] => some 0
        | u => do
          let (minutes, u) ← number? 2 2 (← mark? ':' u)
          if u = [] then some minutes else none
      let n : Int := hours * 60 + minutes
      some (some (if s = '-' then -n else n))
    else none
  | _, [] => none

def clock? (t : Text) : Option ClockText := do
  let (hour, t) ← number? 1 2 t
  let (minute, t) ← number? 2 2 (← mark? ':' t)
  let (second, t) ← number? 2 2 (← mark? ':' t)
  let (fraction, t) := match t with
    | '.' :: u => (u.takeWhile Char.isDigit, u.dropWhile Char.isDigit)
    | t => ([], t)
  some ⟨hour, minute, second, fraction, ← ahead? t⟩

def ofText? (t : Text) : Option TimeText := do
  let (year, t) ← number? 4 4 t
  let (month, t) ← number? 1 2 (← mark? '-' t)
  let (day, t) ← number? 1 2 (← mark? '-' t)
  match t with
  | [] => some ⟨year, month, day, none⟩
  | t => some ⟨year, month, day, some (← clock? (← clockStart? t))⟩

/-- A time by a text that needs no tag to be one: a date alone has two digits each for month and
day. -/
def ofPlain? (t : Text) : Option TimeText :=
  (ofText? t).filter fun p => p.clock.isSome || t.length = 10

def microseconds (fraction : Text) : Nat :=
  let ds := fraction.take 6
  Numeral.value 10 (ds ++ List.replicate (6 - ds.length) '0')

def data (p : TimeText) : Except CalendarFault (Date ⊕ Moment) :=
  match p.clock with
  | none => Sum.inl <$> Date.ofParts p.year p.month p.day
  | some c =>
    Sum.inr <$> Moment.ofParts p.year p.month p.day c.hour c.minute c.second
      (microseconds c.fraction) c.ahead

end TimeText
end TemplateEngine.Yaml
