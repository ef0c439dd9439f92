/-!
# Instants

A day of the Gregorian calendar and a time of that day in UTC, down to the nanosecond. A leap
second is second 60 of its minute. Moving a local time to UTC changes the day by at most one.
-/
namespace AddressPlan

def isLeapYear (year : Int) : Bool :=
  year % 4 == 0 && (year % 100 != 0 || year % 400 == 0)

def daysInMonth (year : Int) (month : Nat) : Nat :=
  if month = 2 then if isLeapYear year then 29 else 28
  else if month = 4 ∨ month = 6 ∨ month = 9 ∨ month = 11 then 30
  else 31

def isDate (year : Int) (month day : Nat) : Bool :=
  decide (-262143 ≤ year) && decide (year ≤ 262142) &&
  1 ≤ month && month ≤ 12 && 1 ≤ day && day ≤ daysInMonth year month

structure Date where
  year : Int
  month : Nat
  day : Nat
  valid : isDate year month day = true
deriving DecidableEq

namespace Date

def of? (year : Int) (month day : Nat) : Option Date :=
  if h : isDate year month day then some ⟨year, month, day, h⟩ else none

def next? (d : Date) : Option Date :=
  if d.day < daysInMonth d.year d.month then of? d.year d.month (d.day + 1)
  else if d.month < 12 then of? d.year (d.month + 1) 1
  else of? (d.year + 1) 1 1

def previous? (d : Date) : Option Date :=
  if 1 < d.day then of? d.year d.month (d.day - 1)
  else if 1 < d.month then of? d.year (d.month - 1) (daysInMonth d.year (d.month - 1))
  else of? (d.year - 1) 12 31

end Date

structure Instant where
  date : Date
  hour : Nat
  minute : Nat
  second : Nat
  nanosecond : Nat
  hour_lt : hour < 24
  minute_lt : minute < 60
  second_le : second ≤ 60
  nanosecond_lt : nanosecond < 1000000000
deriving DecidableEq

namespace Instant

def epoch : Instant where
  date := ⟨1970, 1, 1, by decide⟩
  hour := 0
  minute := 0
  second := 0
  nanosecond := 0
  hour_lt := by decide
  minute_lt := by decide
  second_le := by decide
  nanosecond_lt := by decide

instance : Inhabited Instant := ⟨epoch⟩

def of? (date : Date) (hour minute second nanosecond : Nat) : Option Instant :=
  if h : hour < 24 ∧ minute < 60 ∧ second ≤ 60 ∧ nanosecond < 1000000000 then
    some ⟨date, hour, minute, second, nanosecond, h.1, h.2.1, h.2.2.1, h.2.2.2⟩
  else none

/-- The instant at which a clock that is `offset` minutes ahead of UTC shows `t`. -/
def ahead? (t : Instant) (offset : Int) : Option Instant := do
  let minutes : Int := t.hour * 60 + t.minute - offset
  if minutes < 0 then
    let date ← t.date.previous?
    let m := (minutes + 1440).toNat
    of? date (m / 60) (m % 60) t.second t.nanosecond
  else if 1440 ≤ minutes then
    let date ← t.date.next?
    let m := (minutes - 1440).toNat
    of? date (m / 60) (m % 60) t.second t.nanosecond
  else of? t.date (minutes.toNat / 60) (minutes.toNat % 60) t.second t.nanosecond

end Instant
end AddressPlan
