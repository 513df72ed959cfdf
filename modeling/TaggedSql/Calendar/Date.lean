/-
  Dates of the proleptic Gregorian calendar, years 1 to 9999.

  `Date.ordinal` counts days, 1 January of year 1 being day 1, and `Date.ofOrdinal?` undoes it by
  cycles of 400, 100, 4 and 1 years.  `Date.next?` and `Date.previous?` step by one day and fail
  at the two ends of the calendar.
-/
import TaggedSql.Number.Digits

namespace TaggedSql.Calendar

/-- Whether 29 February exists in the year. -/
def isLeap (year : Nat) : Bool :=
  year % 4 == 0 && (year % 100 != 0 || year % 400 == 0)

/-- The number of days of a month, 0 when there is no such month. -/
def daysInMonth (year month : Nat) : Nat :=
  match month with
  | 1 | 3 | 5 | 7 | 8 | 10 | 12 => 31
  | 4 | 6 | 9 | 11 => 30
  | 2 => if isLeap year then 29 else 28
  | _ => 0

/-- A calendar day. -/
structure Date where
  year : Nat
  month : Nat
  day : Nat
  deriving DecidableEq, Repr

namespace Date

/-- Whether the day exists. -/
def isValid (d : Date) : Bool :=
  decide (1 ≤ d.year ∧ d.year ≤ 9999 ∧ 1 ≤ d.month ∧ d.month ≤ 12 ∧
    1 ≤ d.day ∧ d.day ≤ daysInMonth d.year d.month)

/-- The day, when it exists. -/
def ofFields? (year month day : Nat) : Option Date :=
  let d : Date := ⟨year, month, day⟩
  if d.isValid then some d else none

/-- The days of the years before `year`. -/
def daysBeforeYear (year : Nat) : Nat :=
  let y := year - 1
  365 * y + y / 4 - y / 100 + y / 400

/-- The days of the year before `month`. -/
def daysBeforeMonth (year : Nat) : Nat → Nat
  | 0 => 0
  | m + 1 => daysBeforeMonth year m + daysInMonth year m

/-- The number of the day, 1 January of year 1 being 1. -/
def ordinal (d : Date) : Nat := daysBeforeYear d.year + daysBeforeMonth d.year d.month + d.day

/-- Finds the month of a day of the year that is counted from 0: months from `month` on are tried,
    `fuel` of them. -/
def monthOf (year : Nat) : Nat → Nat → Nat → Nat × Nat
  | 0, month, day => (month, day + 1)
  | fuel + 1, month, day =>
    if day < daysInMonth year month then (month, day + 1)
    else monthOf year fuel (month + 1) (day - daysInMonth year month)

/-- The day with the number, when it lies in the calendar. -/
def ofOrdinal? (n : Int) : Option Date :=
  if n < 1 then none
  else
    let k := n.toNat - 1
    let r400 := k % 146097
    let c := min (r400 / 36524) 3
    let r100 := r400 - c * 36524
    let q := r100 / 1461
    let r4 := r100 - q * 1461
    let y := min (r4 / 365) 3
    let year := (k / 146097) * 400 + c * 100 + q * 4 + y + 1
    let m := monthOf year 11 1 (r4 - y * 365)
    ofFields? year m.1 m.2

/-- The day after, when the calendar has one. -/
def next? (d : Date) : Option Date :=
  if d.day < daysInMonth d.year d.month then some ⟨d.year, d.month, d.day + 1⟩
  else if d.month < 12 then some ⟨d.year, d.month + 1, 1⟩
  else if d.year < 9999 then some ⟨d.year + 1, 1, 1⟩
  else none

/-- The day before, when the calendar has one. -/
def previous? (d : Date) : Option Date :=
  if 1 < d.day then some ⟨d.year, d.month, d.day - 1⟩
  else if 1 < d.month then some ⟨d.year, d.month - 1, daysInMonth d.year (d.month - 1)⟩
  else if 1 < d.year then some ⟨d.year - 1, 12, 31⟩
  else none

/-- The year, month and day with dashes between them. -/
def text (d : Date) : String :=
  Number.padded 4 d.year ++ "-" ++ Number.padded 2 d.month ++ "-" ++ Number.padded 2 d.day

end Date

end TaggedSql.Calendar
