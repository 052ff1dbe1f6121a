/-! Moments in UTC and the calendar that names them. -/

namespace RegistryOperator

/-- A moment: seconds since the start of 1970 and the nanoseconds after them. A leap second is the
second before it with nanoseconds from `10 ^ 9` on. -/
structure Timestamp where
  seconds : Int
  nanos : Nat
deriving DecidableEq, Repr, Inhabited

/-- A date and a time of day. -/
structure Calendar where
  year : Int
  month : Nat
  day : Nat
  hour : Nat
  minute : Nat
  second : Nat
  nanos : Nat
deriving DecidableEq, Repr

namespace Calendar

/-- Whether a year has a 29th of February. -/
def isLeap (year : Int) : Bool := year % 4 = 0 && (year % 100 ≠ 0 || year % 400 = 0)

def daysIn (year : Int) (month : Nat) : Nat :=
  if month = 2 then (if isLeap year then 29 else 28)
  else if month = 4 ∨ month = 6 ∨ month = 9 ∨ month = 11 then 30
  else 31

/-- The days from the start of 1970 to a date. Years are counted from March, so that a leap day is
the last of its year. -/
def daysSince1970 (year : Int) (month day : Nat) : Int :=
  let y := if month ≤ 2 then year - 1 else year
  let era := y / 400
  let yearOfEra := y - era * 400
  let monthFromMarch : Int := if 2 < month then (month : Int) - 3 else month + 9
  let dayOfYear := (153 * monthFromMarch + 2) / 5 + day - 1
  let dayOfEra := yearOfEra * 365 + yearOfEra / 4 - yearOfEra / 100 + dayOfYear
  era * 146097 + dayOfEra - 719468

/-- The date so many days after the start of 1970. -/
def dateOfDays (days : Int) : Int × Nat × Nat :=
  let z := days + 719468
  let era := z / 146097
  let dayOfEra := z - era * 146097
  let yearOfEra := (dayOfEra - dayOfEra / 1460 + dayOfEra / 36524 - dayOfEra / 146096) / 365
  let dayOfYear := dayOfEra - (365 * yearOfEra + yearOfEra / 4 - yearOfEra / 100)
  let monthFromMarch := (5 * dayOfYear + 2) / 153
  let day := dayOfYear - (153 * monthFromMarch + 2) / 5 + 1
  let month := if monthFromMarch < 10 then monthFromMarch + 3 else monthFromMarch - 9
  let year := yearOfEra + era * 400 + (if month ≤ 2 then 1 else 0)
  (year, month.toNat, day.toNat)

end Calendar

namespace Timestamp

/-- The moment that a clock `offset` seconds ahead of UTC shows as `c`. -/
def ofCalendar (c : Calendar) (offset : Int) : Timestamp :=
  let days := Calendar.daysSince1970 c.year c.month c.day
  let second := min c.second 59
  ⟨days * 86400 + c.hour * 3600 + c.minute * 60 + second - offset,
    c.nanos + (if c.second = 60 then 10 ^ (9 : Nat) else 0)⟩

def calendar (t : Timestamp) : Calendar :=
  let days := t.seconds / 86400
  let rest := (t.seconds - days * 86400).toNat
  let (year, month, day) := Calendar.dateOfDays days
  let leap := if 10 ^ (9 : Nat) ≤ t.nanos then 1 else 0
  ⟨year, month, day, rest / 3600, rest / 60 % 60, rest % 60 + leap, t.nanos - leap * 10 ^ (9 : Nat)⟩

end Timestamp
end RegistryOperator
