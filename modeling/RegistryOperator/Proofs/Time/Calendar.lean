import Mathlib.Tactic.IntervalCases
import RegistryOperator.Time.Timestamp

/-! The calendar names days: the date of a day is in the calendar, and counting the days to that
date gives the day back. Both are read off the place that a day has in years counted from March, in
eras of four hundred years, centuries, spans of four years and single years. -/

namespace RegistryOperator
namespace Calendar

/-- Whether the calendar has such a date. -/
def IsDate (year : Int) (month day : Nat) : Prop :=
  1 ≤ month ∧ month ≤ 12 ∧ 1 ≤ day ∧ day ≤ daysIn year month

/-- A date by the eras before it, the centuries of its era, the spans of four years, the years, the
months since March and the day of its month. -/
structure MarchDate where
  era : Int
  century : Int
  span : Int
  year : Int
  month : Int
  day : Int

namespace MarchDate

variable {p : MarchDate}

def yearOfEra (p : MarchDate) : Int := 100 * p.century + 4 * p.span + p.year

def dayOfYear (p : MarchDate) : Int := (153 * p.month + 2) / 5 + p.day - 1

def dayOfEra (p : MarchDate) : Int :=
  36524 * p.century + 1461 * p.span + 365 * p.year + p.dayOfYear

/-- The days from the start of 1970. -/
def days (p : MarchDate) : Int := 146097 * p.era + p.dayOfEra - 719468

/-- The year that starts in January. January and February are the months 10 and 11. -/
def civilYear (p : MarchDate) : Int :=
  p.yearOfEra + 400 * p.era + (if p.month < 10 then 0 else 1)

def civilMonth (p : MarchDate) : Int := if p.month < 10 then p.month + 3 else p.month - 9

/-- The months have their lengths. The leap day ends the last year of a span; of the spans that end
a century only that of the fourth century has one. -/
structure Proper (p : MarchDate) : Prop where
  century : 0 ≤ p.century ∧ p.century ≤ 3
  span : 0 ≤ p.span ∧ p.span ≤ 24
  year : 0 ≤ p.year ∧ p.year ≤ 3
  month : 0 ≤ p.month ∧ p.month ≤ 11
  day : 1 ≤ p.day ∧ p.day ≤ 31
  short : p.month = 1 ∨ p.month = 3 ∨ p.month = 6 ∨ p.month = 8 → p.day ≤ 30
  february : p.month = 11 → p.day ≤ 29
  leap : p.month = 11 → p.day = 29 → p.year = 3 ∧ (p.span = 24 → p.century = 3)

theorem Proper.dayOfYear (h : p.Proper) : 0 ≤ p.dayOfYear ∧ p.dayOfYear ≤ 365 ∧
    (p.dayOfYear = 365 → p.year = 3 ∧ (p.span = 24 → p.century = 3)) := by
  obtain ⟨-, -, -, hmonth, hday, hshort, hfebruary, hleap⟩ := h
  simp only [MarchDate.dayOfYear]
  omega

theorem Proper.yearOfEra (h : p.Proper) : 0 ≤ p.yearOfEra ∧ p.yearOfEra < 400 := by
  obtain ⟨hcentury, hspan, hyear, -⟩ := h
  simp only [MarchDate.yearOfEra]
  omega

theorem Proper.dayOfEra (h : p.Proper) : 0 ≤ p.dayOfEra ∧ p.dayOfEra < 146097 := by
  have hyear := h.dayOfYear
  obtain ⟨hcentury, hspan, hyears, -⟩ := h
  simp only [MarchDate.dayOfEra]
  omega

/-- The years before a day of an era. The first quotient counts the leap days, the others correct it
for the centuries; of the leap days too many are counted at most one, and only late in a year. -/
theorem Proper.yearOfEra_eq (h : p.Proper) :
    (p.dayOfEra - p.dayOfEra / 1460 + p.dayOfEra / 36524 - p.dayOfEra / 146096) / 365 =
      p.yearOfEra := by
  obtain ⟨hday, hlast, hleap⟩ := h.dayOfYear
  obtain ⟨hcentury, hspan, hyear, -⟩ := h
  simp only [MarchDate.dayOfEra, MarchDate.yearOfEra]
  generalize p.dayOfYear = r at *
  generalize hd : 36524 * p.century + 1461 * p.span + 365 * p.year + r = d
  have hcenturies : d / 36524 - d / 146096 = p.century := by
    by_cases hend : d = 146096
    · omega
    · have hera : d / 146096 = 0 := by omega
      omega
  have hleaps : d / 1460 =
      25 * p.century + p.span + (24 * p.century + p.span + 365 * p.year + r) / 1460 := by omega
  have hsurplus : 0 ≤ r - (24 * p.century + p.span + 365 * p.year + r) / 1460 ∧
      r - (24 * p.century + p.span + 365 * p.year + r) / 1460 < 365 := by omega
  omega

theorem yearOfEra_days (h : p.Proper) :
    365 * p.yearOfEra + p.yearOfEra / 4 - p.yearOfEra / 100 + p.dayOfYear = p.dayOfEra := by
  obtain ⟨hcentury, hspan, hyear, -⟩ := h
  simp only [MarchDate.dayOfEra, MarchDate.yearOfEra]
  omega

/-- Every day has its place. -/
theorem exists_days (days : Int) : ∃ p : MarchDate, p.Proper ∧ p.days = days := by
  let z := days + 719468
  let d := z % 146097
  let c := min (d / 36524) 3
  let q := (d - 36524 * c) / 1461
  let k := min ((d - 36524 * c - 1461 * q) / 365) 3
  let r := d - 36524 * c - 1461 * q - 365 * k
  let m := (5 * r + 2) / 153
  refine ⟨⟨z / 146097, c, q, k, m, r - (153 * m + 2) / 5 + 1⟩, ?_, ?_⟩
  · constructor <;> dsimp only <;> omega
  · simp only [MarchDate.days, MarchDate.dayOfEra, MarchDate.dayOfYear]
    omega

theorem Proper.dateOfDays (h : p.Proper) :
    dateOfDays p.days = (p.civilYear, p.civilMonth.toNat, p.day.toNat) := by
  have hera : (p.days + 719468) / 146097 = p.era := by
    have hday := h.dayOfEra
    simp only [MarchDate.days]
    omega
  have hday : p.days + 719468 - p.era * 146097 = p.dayOfEra := by
    simp only [MarchDate.days]
    omega
  have hyear : p.dayOfEra - (365 * p.yearOfEra + p.yearOfEra / 4 - p.yearOfEra / 100) =
      p.dayOfYear := by
    have hdays := yearOfEra_days h
    omega
  have hmonth : (5 * p.dayOfYear + 2) / 153 = p.month := by
    obtain ⟨-, -, -, ⟨hlow, hhigh⟩, hday, hshort, hfebruary, -⟩ := h
    simp only [MarchDate.dayOfYear]
    interval_cases p.month <;> omega
  have hof : p.dayOfYear - (153 * p.month + 2) / 5 + 1 = p.day := by
    simp only [MarchDate.dayOfYear]
    omega
  have hcivil : p.civilMonth ≤ 2 ↔ ¬p.month < 10 := by
    have hmonths := h.month
    simp only [civilMonth]
    split_ifs <;> omega
  simp only [Calendar.dateOfDays, hera, hday, h.yearOfEra_eq, hyear, hmonth, hof]
  change (_ + if p.civilMonth ≤ 2 then 1 else 0, p.civilMonth.toNat, _) = _
  simp only [hcivil, ite_not, civilYear, mul_comm p.era]

theorem Proper.daysSince1970 (h : p.Proper) :
    daysSince1970 p.civilYear p.civilMonth.toNat p.day.toNat = p.days := by
  have hyear := h.yearOfEra
  have hdays := yearOfEra_days h
  obtain ⟨-, -, -, hmonth, hday, -⟩ := h
  have hmarch : (if p.civilMonth.toNat ≤ 2 then p.civilYear - 1 else p.civilYear) =
      p.yearOfEra + 400 * p.era := by
    simp only [civilYear, civilMonth]
    split_ifs <;> omega
  have hera : (p.yearOfEra + 400 * p.era) / 400 = p.era := by omega
  have hrest : p.yearOfEra + 400 * p.era - p.era * 400 = p.yearOfEra := by omega
  have hmonths : (if 2 < p.civilMonth.toNat then (p.civilMonth.toNat : Int) - 3
      else p.civilMonth.toNat + 9) = p.month := by
    simp only [civilMonth]
    split_ifs <;> omega
  simp only [Calendar.daysSince1970, hmarch, hera, hrest, hmonths, MarchDate.days, ← hdays,
    MarchDate.dayOfYear]
  omega

/-- A 29th of February is in a leap year: the last of its span, and not the last of its century
unless the century is the last of its era. -/
theorem Proper.isLeap (h : p.Proper) (hmonth : p.month = 11) (hday : p.day = 29) :
    isLeap p.civilYear = true := by
  obtain ⟨hyear, hcentury⟩ := h.leap hmonth hday
  have hcenturies := h.century
  have hspans := h.span
  have hcivil : p.civilYear = 400 * p.era + 100 * p.century + 4 * p.span + 4 := by
    rw [civilYear, if_neg (by omega), MarchDate.yearOfEra, hyear]
    omega
  have hfour : p.civilYear % 4 = 0 := by omega
  have hhundred : p.civilYear % 100 ≠ 0 ∨ p.civilYear % 400 = 0 := by omega
  rw [Calendar.isLeap, decide_eq_true hfour, Bool.true_and, Bool.or_eq_true]
  exact hhundred.imp decide_eq_true decide_eq_true

theorem Proper.isDate (h : p.Proper) : IsDate p.civilYear p.civilMonth.toNat p.day.toNat := by
  have hleap := h.isLeap
  obtain ⟨-, -, -, hmonth, hday, hshort, hfebruary, -⟩ := h
  have hmonths : p.month < 10 ∧ (p.civilMonth.toNat : Int) = p.month + 3 ∨
      10 ≤ p.month ∧ (p.civilMonth.toNat : Int) = p.month - 9 := by
    rw [civilMonth]
    split_ifs <;> omega
  refine ⟨by omega, by omega, by omega, ?_⟩
  rw [daysIn]
  split_ifs with hsecond hyear hthirty
  · have hlast : p.month = 11 := by omega
    have := hfebruary hlast
    omega
  · have hlast : p.month = 11 := by omega
    have hcommon : p.day ≠ 29 := fun hd => hyear (hleap hlast hd)
    have := hfebruary hlast
    omega
  · have := hshort (by omega)
    omega
  · omega

end MarchDate

theorem daysSince1970_dateOfDays (days : Int) :
    daysSince1970 (dateOfDays days).1 (dateOfDays days).2.1 (dateOfDays days).2.2 = days := by
  obtain ⟨p, hp, rfl⟩ := MarchDate.exists_days days
  rw [hp.dateOfDays, hp.daysSince1970]

theorem dateOfDays_isDate (days : Int) :
    IsDate (dateOfDays days).1 (dateOfDays days).2.1 (dateOfDays days).2.2 := by
  obtain ⟨p, hp, rfl⟩ := MarchDate.exists_days days
  rw [hp.dateOfDays]
  exact hp.isDate

/-- A day is not in a year before one that has begun. -/
theorem le_year {year days : Int} (h : daysSince1970 year 1 1 ≤ days) :
    year ≤ (dateOfDays days).1 := by
  obtain ⟨p, hp, rfl⟩ := MarchDate.exists_days days
  rw [hp.dateOfDays]
  have hday := hp.dayOfYear
  obtain ⟨hcentury, hspan, hyear, hmonth, hof, -⟩ := hp
  simp only [daysSince1970, MarchDate.days, MarchDate.dayOfEra, MarchDate.dayOfYear,
    MarchDate.civilYear, MarchDate.yearOfEra] at h hday ⊢
  by_contra hlt
  split_ifs at * <;> omega

/-- A day is not in a year after one that has not ended. -/
theorem year_le {year days : Int} (h : days ≤ daysSince1970 year 12 31) :
    (dateOfDays days).1 ≤ year := by
  obtain ⟨p, hp, rfl⟩ := MarchDate.exists_days days
  rw [hp.dateOfDays]
  have hday := hp.dayOfYear
  obtain ⟨hcentury, hspan, hyear, hmonth, hof, -⟩ := hp
  simp only [daysSince1970, MarchDate.days, MarchDate.dayOfEra, MarchDate.dayOfYear,
    MarchDate.civilYear, MarchDate.yearOfEra] at h hday ⊢
  by_contra hlt
  split_ifs at * <;> omega

end Calendar
end RegistryOperator
