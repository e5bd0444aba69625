import Changefeed.Text.Digit

/-!
# Dates of the Gregorian calendar

Days are numbered from 1970-01-01.  `Date.ofDay?` finds the date of a day between 0001-01-01 and
9999-12-31 and `Date.toDay` the day of a date.
-/

namespace Changefeed

/-- A date; years start with 1, and so do months and days. -/
structure Date where
  year : Nat
  month : Nat
  day : Nat
deriving DecidableEq, Repr, Inhabited

namespace Date

/-- Every fourth year, not those of full centuries, but every fourth of these. -/
def isLeap (year : Nat) : Bool :=
  year % 4 = 0 && (year % 100 ≠ 0 || year % 400 = 0)

/-- The lengths of the months of a year. -/
def monthLengths (year : Nat) : List Nat :=
  [31, if isLeap year then 29 else 28, 31, 30, 31, 30, 31, 31, 30, 31, 30, 31]

/-- The number of days of a year. -/
def yearLength (year : Nat) : Nat :=
  if isLeap year then 366 else 365

/-- The number of days from 0001-01-01 to the first day of a year. -/
def daysBeforeYear (year : Nat) : Nat :=
  365 * (year - 1) + (year - 1) / 4 - (year - 1) / 100 + (year - 1) / 400

/-- The number of days of a year before a month of it. -/
def daysBeforeMonth (year month : Nat) : Nat :=
  ((monthLengths year).take (month - 1)).foldl (· + ·) 0

/-- The year that holds the `n`-th day after 0001-01-01.  A mean year gives the year or one of its
neighbours. -/
def yearOf (n : Nat) : Nat :=
  let guess := 400 * n / 146097 + 1
  if n < daysBeforeYear guess then guess - 1
  else if daysBeforeYear (guess + 1) ≤ n then guess + 1
  else guess

/-- The month and the day of the month of the `n`-th day after the first of the month `m`, when
the months from `m` on have the given lengths. -/
def monthDay : (lengths : List Nat) → (m n : Nat) → Nat × Nat
  | [], m, n => (m, n + 1)
  | length :: rest, m, n => if n < length then (m, n + 1) else monthDay rest (m + 1) (n - length)

/-- The `n`-th day after 0001-01-01. -/
def ofOrdinal (n : Nat) : Date :=
  let year := yearOf n
  let (month, day) := monthDay (monthLengths year) 1 (n - daysBeforeYear year)
  ⟨year, month, day⟩

/-- The day number of 0001-01-01. -/
def firstDay : Int := -719162

/-- The day number of 9999-12-31. -/
def lastDay : Int := 2932896

/-- The date of a day number, within the years 1 to 9999. -/
def ofDay? (n : Int) : Option Date :=
  if firstDay ≤ n ∧ n ≤ lastDay then some (ofOrdinal (n - firstDay).toNat) else none

/-- Whether a date is one of the calendar, within the years 1 to 9999. -/
def IsValid (d : Date) : Prop :=
  1 ≤ d.year ∧ d.year ≤ 9999 ∧ 1 ≤ d.month ∧ d.month ≤ 12 ∧ 1 ≤ d.day ∧
    d.day ≤ (monthLengths d.year)[d.month - 1]?.getD 0

instance (d : Date) : Decidable d.IsValid := by
  unfold IsValid; infer_instance

/-- The date with these parts, if the calendar has it. -/
def ofParts? (year month day : Nat) : Option Date :=
  let d : Date := ⟨year, month, day⟩
  if d.IsValid then some d else none

/-- The day number of a date. -/
def toDay (d : Date) : Int :=
  firstDay + (daysBeforeYear d.year + daysBeforeMonth d.year d.month + d.day : Nat) - 1

/-- The date as YYYY-MM-DD. -/
def toText (d : Date) : List Char :=
  Text.padded 4 d.year ++ '-' :: Text.padded 2 d.month ++ '-' :: Text.padded 2 d.day

end Date
end Changefeed
