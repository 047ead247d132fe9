/-!
# The calendar

Days are counted from 1 January 1970 in the Gregorian calendar, extended to all years. A year is an
integer: year 0 precedes year 1.

* `yearOfDay_spec`: the year found for a day is the one whose days hold it.
* `dayOfDate_dateOfDay`: the date found for a day is the date of that day.
* `dateOfDay_valid`: it names a month of the year and a day of that month.
-/

namespace Handoff.Calendar

/-- A day by year, month and day of the month. -/
structure Date where
  year : Int
  month : Nat
  day : Nat
  deriving DecidableEq

/-- Every fourth year is a leap year, every hundredth is not, every four-hundredth is. -/
def isLeap (year : Int) : Bool :=
  year % 4 == 0 && (year % 100 != 0 || year % 400 == 0)

/-- The lengths of the months of a year. -/
def monthLengths (year : Int) : List Nat :=
  [31, if isLeap year then 29 else 28, 31, 30, 31, 30, 31, 31, 30, 31, 30, 31]

/-- How many days months of these lengths have together. -/
def totalDays : List Nat → Nat
  | [] => 0
  | length :: lengths => length + totalDays lengths

/-- The length of a month, none outside `1 .. 12`. -/
def monthLength? (year : Int) (month : Nat) : Option Nat :=
  if month = 0 then none else (monthLengths year)[month - 1]?

/-- The number of the first day of a year. -/
def firstDayOfYear (year : Int) : Int :=
  let p := year - 1
  365 * p + p / 4 - p / 100 + p / 400 - 719162

/-- The number of a date's day. -/
def dayOfDate (d : Date) : Int :=
  firstDayOfYear d.year + totalDays ((monthLengths d.year).take (d.month - 1)) + d.day - 1

/-- The year that holds a day: the mean length of a year gives a guess that is at most one off. -/
def yearOfDay (day : Int) : Int :=
  let guess := 400 * (day + 719162) / 146097 + 1
  if day < firstDayOfYear guess then guess - 1
  else if firstDayOfYear (guess + 1) ≤ day then guess + 1
  else guess

/-- Month and day of the month for the day of the year (from 0), given the lengths of the months to
come and the number of the first of them. -/
def monthAndDay : Nat → List Nat → Nat → Nat × Nat
  | month, [], rest => (month, rest + 1)
  | month, length :: lengths, rest =>
    if rest < length then (month, rest + 1) else monthAndDay (month + 1) lengths (rest - length)

/-- The date of a day. -/
def dateOfDay (day : Int) : Date :=
  let year := yearOfDay day
  let md := monthAndDay 1 (monthLengths year) (day - firstDayOfYear year).toNat
  ⟨year, md.1, md.2⟩

/-- Month and day exist in the year. -/
def Date.Valid (d : Date) : Prop :=
  ∃ length, monthLength? d.year d.month = some length ∧ 1 ≤ d.day ∧ d.day ≤ length

theorem firstDayOfYear_succ (year : Int) :
    firstDayOfYear (year + 1) = firstDayOfYear year + totalDays (monthLengths year) := by
  have hs : (totalDays (monthLengths year) : Int) = if isLeap year then 366 else 365 := by
    unfold monthLengths
    split <;> rfl
  rw [hs]
  simp only [firstDayOfYear, isLeap]
  by_cases h4 : year % 4 = 0 <;> by_cases h100 : year % 100 = 0 <;>
    by_cases h400 : year % 400 = 0 <;> simp [h4, h100, h400] <;> omega

/-- The year found for a day is the one whose days hold it. -/
theorem yearOfDay_spec (day : Int) :
    firstDayOfYear (yearOfDay day) ≤ day ∧ day < firstDayOfYear (yearOfDay day + 1) := by
  simp only [yearOfDay]
  split
  · next h => simp only [firstDayOfYear] at h ⊢; omega
  · split
    · next h1 h => simp only [firstDayOfYear] at h h1 ⊢; omega
    · next h1 h => omega

theorem monthAndDay_sum (lengths : List Nat) (month rest : Nat) (hm : 1 ≤ month) :
    month ≤ (monthAndDay month lengths rest).1 ∧
      (totalDays (lengths.take ((monthAndDay month lengths rest).1 - month))
        + (monthAndDay month lengths rest).2 = rest + 1) := by
  induction lengths generalizing month rest with
  | nil => simp [monthAndDay, totalDays]
  | cons length lengths ih =>
    simp only [monthAndDay]
    split
    · simp [totalDays]
    · next h =>
      obtain ⟨h1, h2⟩ := ih (month + 1) (rest - length) (by omega)
      refine ⟨by omega, ?_⟩
      have : (monthAndDay (month + 1) lengths (rest - length)).1 - month
          = (monthAndDay (month + 1) lengths (rest - length)).1 - (month + 1) + 1 := by omega
      rw [this, List.take_succ_cons, totalDays]
      omega

theorem monthAndDay_valid (lengths : List Nat) (month rest : Nat) (h : rest < totalDays lengths) :
    ∃ length, lengths[(monthAndDay month lengths rest).1 - month]? = some length ∧
      1 ≤ (monthAndDay month lengths rest).2 ∧ (monthAndDay month lengths rest).2 ≤ length ∧
      month ≤ (monthAndDay month lengths rest).1 := by
  induction lengths generalizing month rest with
  | nil => simp [totalDays] at h
  | cons length lengths ih =>
    simp only [monthAndDay]
    split
    · next hl => exact ⟨length, by simp, by simp, Nat.succ_le_of_lt hl, by simp⟩
    · next hl =>
      rw [totalDays] at h
      obtain ⟨n, h1, h2, h3, h4⟩ := ih (month + 1) (rest - length) (by omega)
      refine ⟨n, ?_, h2, h3, by omega⟩
      have : (monthAndDay (month + 1) lengths (rest - length)).1 - month
          = (monthAndDay (month + 1) lengths (rest - length)).1 - (month + 1) + 1 := by omega
      rw [this, List.getElem?_cons_succ, h1]

/-- The date found for a day is the date of that day. -/
theorem dayOfDate_dateOfDay (day : Int) : dayOfDate (dateOfDay day) = day := by
  have hy := yearOfDay_spec day
  have hm := monthAndDay_sum (monthLengths (yearOfDay day)) 1
    (day - firstDayOfYear (yearOfDay day)).toNat (by omega)
  simp only [dayOfDate, dateOfDay]
  omega

/-- The date found for a day names a month of the year and a day of that month. -/
theorem dateOfDay_valid (day : Int) : (dateOfDay day).Valid := by
  have hy := yearOfDay_spec day
  rw [firstDayOfYear_succ] at hy
  obtain ⟨n, h1, h2, h3, h4⟩ := monthAndDay_valid (monthLengths (yearOfDay day)) 1
    (day - firstDayOfYear (yearOfDay day)).toNat (by omega)
  refine ⟨n, ?_, h2, h3⟩
  have h0 : ¬ (monthAndDay 1 (monthLengths (yearOfDay day))
    (day - firstDayOfYear (yearOfDay day)).toNat).1 = 0 := by omega
  simp only [monthLength?, dateOfDay, h0, if_false, h1]

end Handoff.Calendar
