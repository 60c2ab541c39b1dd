import TemplateEngine.Number.Binary64
import TemplateEngine.Text.Basic

set_option autoImplicit false

/-!
# Dates and times

Dates of the Gregorian calendar, and moments of a day with a microsecond and perhaps a distance from
universal time. A moment with such a distance has a place on the one line of time, so two of them can
be compared wherever they are from.
-/
namespace TemplateEngine

inductive CalendarFault where
  | year (n : Nat)
  | month
  | day
  | hour
  | minute
  | second
  /-- A distance of so many minutes is a day or more. -/
  | distance (minutes : Int)
  deriving DecidableEq, Repr

structure Date where
  year : Nat
  month : Nat
  day : Nat
  deriving DecidableEq, Repr

structure Moment where
  date : Date
  hour : Nat
  minute : Nat
  second : Nat
  microsecond : Nat
  /-- By how many minutes the clock is ahead of universal time, if that is known. -/
  ahead : Option Int
  deriving DecidableEq, Repr

namespace Date

def isLeap (year : Nat) : Bool := year % 4 = 0 && (year % 100 ≠ 0 || year % 400 = 0)

def daysIn (year month : Nat) : Nat :=
  if month = 2 then (if isLeap year then 29 else 28)
  else if month = 4 || month = 6 || month = 9 || month = 11 then 30
  else 31

def ofParts (year month day : Nat) : Except CalendarFault Date :=
  if year < 1 || 9999 < year then .error (.year year)
  else if month < 1 || 12 < month then .error .month
  else if day < 1 || daysIn year month < day then .error .day
  else .ok ⟨year, month, day⟩

def daysBefore (d : Date) : Nat :=
  let y := d.year - 1
  let months := (List.range (d.month - 1)).foldl (fun n m => n + daysIn d.year (m + 1)) 0
  y * 365 + y / 4 - y / 100 + y / 400 + months + (d.day - 1)

def padded (width n : Nat) : Text :=
  let ds := Text.ofNat n
  List.replicate (width - ds.length) '0' ++ ds

def parts (d : Date) : List Nat := [d.year, d.month, d.day]

def text (d : Date) : Text :=
  padded 4 d.year ++ '-' :: padded 2 d.month ++ '-' :: padded 2 d.day

def listed (ns : List Nat) : Text := Text.join ", ".toList (ns.map Text.ofNat)

def literal (d : Date) : Text := "datetime.date(".toList ++ listed d.parts ++ [')']

def order (a b : Date) : Ordering := compare a.daysBefore b.daysBefore

end Date

namespace Moment

def dayMinutes : Nat := 1440

def ofParts (year month day hour minute second microsecond : Nat) (ahead : Option Int) :
    Except CalendarFault Moment :=
  match ahead.filter fun n => dayMinutes ≤ n.natAbs with
  | some n => .error (.distance n)
  | none => do
    let date ← Date.ofParts year month day
    if 23 < hour then .error .hour
    else if 59 < minute then .error .minute
    else if 59 < second then .error .second
    else .ok ⟨date, hour, minute, second, microsecond, ahead⟩

def elapsed (m : Moment) : Int :=
  (((m.date.daysBefore * 24 + m.hour) * 60 + m.minute) * 60 + m.second) * 1000000 + m.microsecond

/-- The microseconds in front of a moment by universal time. -/
def instant (m : Moment) : Int := m.elapsed - m.ahead.getD 0 * 60000000

/-- The order of two moments, of which both or neither must have a known distance from universal
time. -/
def order? (a b : Moment) : Option Ordering :=
  if a.ahead.isSome = b.ahead.isSome then some (compare a.instant b.instant) else none

def distanceText (minutes : Int) : Text :=
  let n := minutes.natAbs
  (if minutes < 0 then '-' else '+') :: Date.padded 2 (n / 60) ++ ':' :: Date.padded 2 (n % 60)

def textWith (between : Char) (m : Moment) : Text :=
  m.date.text ++ between :: Date.padded 2 m.hour ++ ':' :: Date.padded 2 m.minute
    ++ ':' :: Date.padded 2 m.second
    ++ (if m.microsecond = 0 then [] else '.' :: Date.padded 6 m.microsecond)
    ++ (m.ahead.map distanceText).getD []

def text (m : Moment) : Text := m.textWith ' '

def standardText (m : Moment) : Text := m.textWith 'T'

def distanceLiteral (minutes : Int) : Text :=
  let days := minutes.fdiv dayMinutes
  let seconds := (minutes - days * dayMinutes) * 60
  let named (n : String) (i : Int) : List Text :=
    if i = 0 then [] else [n.toList ++ '=' :: Text.ofInt i]
  "datetime.timedelta(".toList
    ++ Text.join ", ".toList (named "days" days ++ named "seconds" seconds) ++ [')']

def clockLiteral (ahead : Int) : Text :=
  if ahead = 0 then "datetime.timezone.utc".toList
  else "datetime.timezone(".toList ++ distanceLiteral ahead ++ [')']

/-- A moment as an expression. Seconds are left out if they and the microseconds are zero. -/
def literal (m : Moment) : Text :=
  let fine :=
    if m.microsecond ≠ 0 then [m.second, m.microsecond]
    else if m.second ≠ 0 then [m.second]
    else []
  "datetime.datetime(".toList ++ Date.listed (m.date.parts ++ [m.hour, m.minute] ++ fine)
    ++ (m.ahead.map fun n => ", tzinfo=".toList ++ clockLiteral n).getD [] ++ [')']

end Moment

namespace CalendarFault

def message : CalendarFault → Text
  | year n => "year ".toList ++ Text.ofNat n ++ " is out of range".toList
  | month => "month must be in 1..12".toList
  | day => "day is out of range for month".toList
  | hour => "hour must be in 0..23".toList
  | minute => "minute must be in 0..59".toList
  | second => "second must be in 0..59".toList
  | distance minutes =>
    ("offset must be a timedelta strictly between -timedelta(hours=24) and "
      ++ "timedelta(hours=24), not ").toList ++ Moment.distanceLiteral minutes ++ ['.']

end CalendarFault
end TemplateEngine
