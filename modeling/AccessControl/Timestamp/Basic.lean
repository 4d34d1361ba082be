/-!
# Points in time

A timestamp is a date and a time of day as a clock shows them somewhere, together with the offset of
that clock from universal time.  Two timestamps with different offsets may mean the same `instant`;
they are still different timestamps.
-/

namespace AccessControl

/-- what clock and calendar show; `offset` in seconds, positive to the east -/
structure ClockReading where
  year : Int
  month : Nat
  day : Nat
  hour : Nat
  minute : Nat
  second : Nat
  nanosecond : Nat
  offset : Int
  deriving DecidableEq, Repr

namespace ClockReading

def isLeapYear (year : Int) : Bool := year % 4 = 0 && (year % 100 ≠ 0 || year % 400 = 0)

def monthLength (year : Int) (month : Nat) : Nat :=
  if month = 2 then if isLeapYear year then 29 else 28
  else if month = 4 ∨ month = 6 ∨ month = 9 ∨ month = 11 then 30
  else 31

/-- years have up to four digits, offsets stay below 26 hours -/
def Valid (c : ClockReading) : Prop :=
  -9999 ≤ c.year ∧ c.year ≤ 9999 ∧ 1 ≤ c.month ∧ c.month ≤ 12
    ∧ 1 ≤ c.day ∧ c.day ≤ monthLength c.year c.month
    ∧ c.hour < 24 ∧ c.minute < 60 ∧ c.second < 60 ∧ c.nanosecond < 1000000000
    ∧ -93600 < c.offset ∧ c.offset < 93600

instance (c : ClockReading) : Decidable c.Valid := by unfold Valid; infer_instance

/-- days before a year since the first of March of the year 0; leap days fall at the end of the year
when it starts in March -/
def daysBeforeYear (year : Int) : Int := 365 * year + year / 4 - year / 100 + year / 400

/-- days before a month in a year that starts in March: 153 days in five months -/
def daysBeforeMonth (monthFromMarch : Nat) : Int := (153 * monthFromMarch + 2) / 5

/-- a count of days that grows by one from each date to the next -/
def dayNumber (year : Int) (month day : Nat) : Int :=
  let year := if month ≤ 2 then year - 1 else year
  daysBeforeYear year + daysBeforeMonth ((month + 9) % 12) + day

/-- seconds since midnight -/
def secondOfDay (c : ClockReading) : Int := (c.hour * 60 + c.minute) * 60 + c.second

/-- nanoseconds of universal time, counted from a fixed day -/
def instant (c : ClockReading) : Int :=
  (dayNumber c.year c.month c.day * 86400 + c.secondOfDay - c.offset) * 1000000000 + c.nanosecond

/-- universal time shows the last second of a month -/
def endsMonth (c : ClockReading) : Bool :=
  let universal := c.secondOfDay - c.offset
  let length := monthLength c.year c.month
  if universal = 86399 then c.day = length
  else if universal = -1 then c.day = 1
  else if universal = 2 * 86400 - 1 then c.day + 1 = length
  else false

end ClockReading

structure Timestamp where
  reading : ClockReading
  valid : reading.Valid
  deriving DecidableEq

namespace Timestamp

def ofReading? (c : ClockReading) : Option Timestamp :=
  if h : c.Valid then some ⟨c, h⟩ else none

def instant (t : Timestamp) : Int := t.reading.instant

end Timestamp
end AccessControl
