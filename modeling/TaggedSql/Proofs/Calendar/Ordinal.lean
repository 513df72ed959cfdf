/-
  Days by their numbers.

  1. **Years and months** — a year has the days of its twelve months, and the days before a year or
     a month grow with it.

  2. **Order** (`ordinal_lt`) — a later day has a greater number, so a day is known by its number
     (`ordinal_injective`).

  3. **Neighbours** (`next?_cases`, `previous?_cases`) — the day after has the next number and the
     day before the previous one; only the two ends of the calendar have no such day.
-/
import Mathlib.Algebra.Order.Group.Nat
import Mathlib.Data.Nat.ModEq
import Mathlib.Order.Monotone.Basic
import Mathlib.Tactic.IntervalCases
import TaggedSql.Calendar.Date

namespace TaggedSql.Calendar.Date

/-! ## Years and months -/

theorem isValid_iff (d : Date) : d.isValid ↔ 1 ≤ d.year ∧ d.year ≤ 9999 ∧ 1 ≤ d.month ∧
    d.month ≤ 12 ∧ 1 ≤ d.day ∧ d.day ≤ daysInMonth d.year d.month := by
  rw [isValid, decide_eq_true_iff]

theorem isLeap_iff (year : Nat) : isLeap year ↔ 4 ∣ year ∧ (¬ 100 ∣ year ∨ 400 ∣ year) := by
  simp [isLeap, Nat.dvd_iff_mod_eq_zero]

/-- The number of days of a year. -/
def daysInYear (year : Nat) : Nat := if isLeap year then 366 else 365

theorem daysBeforeYear_succ {year : Nat} (h : 1 ≤ year) :
    daysBeforeYear (year + 1) = daysBeforeYear year + daysInYear year := by
  obtain ⟨y, rfl⟩ := Nat.exists_eq_add_of_le' h
  have hsmall : y / 100 ≤ y := Nat.div_le_self y 100
  simp only [daysBeforeYear, daysInYear, isLeap_iff, Nat.add_sub_cancel, Nat.succ_div]
  split_ifs <;> omega

/-- The months make up the year. -/
theorem daysBeforeMonth_thirteen (year : Nat) : daysBeforeMonth year 13 = daysInYear year := by
  simp only [daysBeforeMonth, daysInMonth, daysInYear]
  split <;> rfl

theorem daysBeforeYear_mono {y z : Nat} (h : 1 ≤ y) (hyz : y ≤ z) :
    daysBeforeYear y ≤ daysBeforeYear z := by
  induction z, hyz using Nat.le_induction with
  | base => exact Nat.le_refl _
  | succ z hyz ih =>
    rw [daysBeforeYear_succ (by omega)]
    exact Nat.le_add_right_of_le ih

theorem daysBeforeMonth_mono (year : Nat) : Monotone (daysBeforeMonth year) :=
  monotone_nat_of_le_succ fun _ => Nat.le_add_right _ _

theorem daysInMonth_pos {year month : Nat} (h : 1 ≤ month) (h' : month ≤ 12) :
    1 ≤ daysInMonth year month := by
  interval_cases month <;> simp only [daysInMonth] <;> (try split) <;> omega

/-! ## Order -/

/-- The first day is the earlier one. -/
def Precedes (d e : Date) : Prop :=
  d.year < e.year ∨ d.year = e.year ∧ (d.month < e.month ∨ d.month = e.month ∧ d.day < e.day)

/-- The days of a month lie between those before it and those before the next. -/
theorem ordinal_le_of_month {d : Date} (hd : d.isValid) {month : Nat} (h : d.month < month) :
    d.ordinal ≤ daysBeforeYear d.year + daysBeforeMonth d.year month := by
  obtain ⟨-, -, -, -, -, hday⟩ := (isValid_iff d).mp hd
  have hmonth : daysBeforeMonth d.year (d.month + 1) ≤ daysBeforeMonth d.year month :=
    daysBeforeMonth_mono d.year h
  rw [daysBeforeMonth] at hmonth
  rw [ordinal]
  omega

/-- The days of a year lie between those before it and those before the next. -/
theorem ordinal_le_of_year {d : Date} (hd : d.isValid) {year : Nat} (h : d.year < year) :
    d.ordinal ≤ daysBeforeYear year := by
  obtain ⟨hyear, -, -, hmonth, -, -⟩ := (isValid_iff d).mp hd
  have hlast : d.ordinal ≤ daysBeforeYear d.year + daysBeforeMonth d.year 13 :=
    ordinal_le_of_month hd (by omega)
  rw [daysBeforeMonth_thirteen, ← daysBeforeYear_succ hyear] at hlast
  exact hlast.trans (daysBeforeYear_mono (by omega) h)

theorem daysBeforeYear_lt_ordinal {d : Date} (hd : d.isValid) :
    daysBeforeYear d.year < d.ordinal := by
  obtain ⟨-, -, -, -, hday, -⟩ := (isValid_iff d).mp hd
  rw [ordinal]
  omega

/-- **A later day has a greater number.** -/
theorem ordinal_lt {d e : Date} (hd : d.isValid) (he : e.isValid) (h : d.Precedes e) :
    d.ordinal < e.ordinal := by
  obtain ⟨-, -, -, -, hday, -⟩ := (isValid_iff e).mp he
  rcases h with hyear | ⟨hyear, hmonth | ⟨hmonth, hlt⟩⟩
  · exact (ordinal_le_of_year hd hyear).trans_lt (daysBeforeYear_lt_ordinal he)
  · have hle := ordinal_le_of_month hd hmonth
    rw [hyear] at hle
    exact hle.trans_lt (Nat.lt_add_of_pos_right hday)
  · rw [ordinal, ordinal, hyear, hmonth]
    omega

theorem precedes_or_eq (d e : Date) : d.Precedes e ∨ d = e ∨ e.Precedes d := by
  obtain ⟨y, m, n⟩ := d
  obtain ⟨y', m', n'⟩ := e
  simp only [Precedes, mk.injEq]
  omega

/-- **A day is known by its number.** -/
theorem ordinal_injective {d e : Date} (hd : d.isValid) (he : e.isValid)
    (h : d.ordinal = e.ordinal) : d = e := by
  rcases precedes_or_eq d e with hlt | heq | hlt
  · exact absurd h (ordinal_lt hd he hlt).ne
  · exact heq
  · exact absurd h (ordinal_lt he hd hlt).ne'

/-! ## Neighbours -/

/-- The number of the last day of the calendar. -/
def lastOrdinal : Nat := 3652059

theorem ordinal_bounds {d : Date} (hd : d.isValid) : 1 ≤ d.ordinal ∧ d.ordinal ≤ lastOrdinal := by
  obtain ⟨hyear, hyear', -⟩ := (isValid_iff d).mp hd
  refine ⟨?_, ?_⟩
  · have := daysBeforeYear_lt_ordinal hd
    omega
  · exact ordinal_le_of_year hd (show d.year < 10000 by omega)

/-- **The day after** has the next number, and only the last day has none. -/
theorem next?_cases {d : Date} (hd : d.isValid) :
    (∃ e, d.next? = some e ∧ e.isValid ∧ e.ordinal = d.ordinal + 1) ∨
      d.next? = none ∧ d.ordinal = lastOrdinal := by
  obtain ⟨hyear, hyear', hmonth, hmonth', hday, hday'⟩ := (isValid_iff d).mp hd
  rw [next?]
  split_ifs with hinmonth hinyear hbefore
  · refine .inl ⟨_, rfl, (isValid_iff _).mpr ⟨hyear, hyear', hmonth, hmonth',
      Nat.le_add_left 1 d.day, hinmonth⟩, ?_⟩
    simp only [ordinal]
    omega
  · have hpos : 1 ≤ daysInMonth d.year (d.month + 1) := daysInMonth_pos (by omega) (by omega)
    refine .inl ⟨_, rfl, (isValid_iff _).mpr ⟨hyear, hyear', by simp, hinyear, le_refl 1, hpos⟩, ?_⟩
    simp only [ordinal, daysBeforeMonth]
    omega
  · have hdecember : d.month = 12 := by omega
    have hyeardays : daysBeforeMonth d.year 12 + daysInMonth d.year 12 = daysInYear d.year :=
      daysBeforeMonth_thirteen d.year
    refine .inl ⟨_, rfl, (isValid_iff _).mpr ⟨by simp, hbefore, le_refl 1, by simp, le_refl 1,
      daysInMonth_pos (le_refl 1) (by simp)⟩, ?_⟩
    simp only [ordinal, daysBeforeYear_succ hyear, daysBeforeMonth, daysInMonth]
    rw [hdecember] at hinmonth hday' ⊢
    omega
  · have hlast : d = ⟨9999, 12, 31⟩ := by
      obtain ⟨y, m, n⟩ := d
      obtain rfl : y = 9999 := by simp only at *; omega
      obtain rfl : m = 12 := by simp only at *; omega
      simp only [daysInMonth] at hinmonth hday'
      simp only [mk.injEq, true_and]
      omega
    refine .inr ⟨rfl, ?_⟩
    rw [hlast]
    decide

/-- **The day before** has the previous number, and only the first day has none. -/
theorem previous?_cases {d : Date} (hd : d.isValid) :
    (∃ e, d.previous? = some e ∧ e.isValid ∧ e.ordinal + 1 = d.ordinal) ∨
      d.previous? = none ∧ d.ordinal = 1 := by
  obtain ⟨hyear, hyear', hmonth, hmonth', hday, hday'⟩ := (isValid_iff d).mp hd
  rw [previous?]
  split_ifs with hinmonth hinyear hafter
  · refine .inl ⟨_, rfl, (isValid_iff _).mpr ⟨hyear, hyear', hmonth, hmonth', ?_, ?_⟩, ?_⟩
    · show 1 ≤ d.day - 1
      omega
    · show d.day - 1 ≤ daysInMonth d.year d.month
      omega
    · simp only [ordinal]
      omega
  · obtain ⟨m, hm⟩ := Nat.exists_eq_add_of_le' hmonth
    rw [hm, Nat.add_sub_cancel]
    refine .inl ⟨_, rfl, (isValid_iff _).mpr ⟨hyear, hyear', ?_, ?_,
      daysInMonth_pos (by omega) (by omega), le_refl _⟩, ?_⟩
    · show 1 ≤ m
      omega
    · show m ≤ 12
      omega
    · simp only [ordinal, hm, daysBeforeMonth]
      omega
  · obtain ⟨y, hy⟩ := Nat.exists_eq_add_of_le' hyear
    have hyeardays : daysBeforeMonth y 12 + 31 = daysInYear y := daysBeforeMonth_thirteen y
    rw [hy, Nat.add_sub_cancel]
    refine .inl ⟨_, rfl, (isValid_iff _).mpr
      ⟨?_, ?_, by simp, by simp, by simp, by simp [daysInMonth]⟩, ?_⟩
    · show 1 ≤ y
      omega
    · show y ≤ 9999
      omega
    · have hfirst : d.month = 1 := by omega
      have hsum : d.ordinal = daysBeforeYear (y + 1) + 0 + d.day := by
        rw [ordinal, hy, hfirst]
        rfl
      show daysBeforeYear y + daysBeforeMonth y 12 + 31 + 1 = d.ordinal
      rw [hsum, daysBeforeYear_succ (by omega)]
      omega
  · have hfirst : d = ⟨1, 1, 1⟩ := by
      obtain ⟨y, m, n⟩ := d
      simp only at *
      simp only [mk.injEq]
      omega
    refine .inr ⟨rfl, ?_⟩
    rw [hfirst]
    decide

end TaggedSql.Calendar.Date
