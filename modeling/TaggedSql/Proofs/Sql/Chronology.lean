/-
  The order of bound timestamps.

  Texts are compared character by character, so a column of texts is sorted by time as long as the
  texts of earlier timestamps come first.

  1. **Fields** — months, days, hours, minutes and seconds are padded, so within a year the text of
     an earlier second comes first whatever follows it (`wallClock_append_lt`), and within a second
     so does the smaller fraction (`Clock.fraction_lt`).

  2. **Years** — a year is not padded.  The hyphen behind it is below every digit, so the texts of
     two years are ordered as the years are written (`wallClock_append_lt_iff`): 999 comes after
     1000.

  3. **The statement** (`timestamp_texts_follow_years`) — of two timestamps outside PostgreSQL, the
     text of the earlier one comes first or is the same exactly when the year of the earlier one,
     as it is written, comes first or is the same; from year 1000 on this is always so.
-/
import TaggedSql.Proofs.Number.Ordering
import TaggedSql.Proofs.Sql.Timestamps

namespace TaggedSql.Calendar

open TaggedSql

/-! ## Fields -/

/-- A field behind its separator: the smaller number comes first, and with equal numbers what
    follows decides. -/
theorem field_lt_field {separator : Char} {width m n : Nat} (hw : 0 < width)
    (hm : m < Nat.pow 10 width) (hn : n < Nat.pow 10 width) {s s' : List Char}
    (h : m < n ∨ m = n ∧ s < s') :
    separator :: ((Number.padded width m).toList ++ s) <
      separator :: ((Number.padded width n).toList ++ s') :=
  List.cons_lt_cons_iff.mpr (.inr ⟨rfl, Number.padded_append_lt hw hm hn h⟩)

namespace Clock

theorem toList_hms (t : Clock) :
    t.hms.toList = (Number.padded 2 t.hour).toList ++ ':' :: ((Number.padded 2 t.minute).toList ++
      ':' :: (Number.padded 2 t.second).toList) := by
  simp [hms]

/-- An earlier second of the day is written as a text that comes first, whatever follows it. -/
theorem hms_append_lt {t u : Clock} (ht : t.IsValid) (hu : u.IsValid)
    (h : t.secondOfDay < u.secondOfDay) (s s' : List Char) :
    t.hms.toList ++ s < u.hms.toList ++ s' := by
  have hfields : t.hour < u.hour ∨ t.hour = u.hour ∧
      (t.minute < u.minute ∨ t.minute = u.minute ∧ t.second < u.second) := by
    have := ht.minute
    have := ht.second
    have := hu.minute
    have := hu.second
    rw [secondOfDay, secondOfDay] at h
    omega
  obtain ⟨hhour, hminute, hsecond⟩ := two_digits ht
  obtain ⟨hhour', hminute', hsecond'⟩ := two_digits hu
  rw [toList_hms, toList_hms]
  simp only [List.append_assoc, List.cons_append]
  refine Number.padded_append_lt (by decide) hhour hhour' (hfields.imp_right ?_)
  refine And.imp_right fun hlater => field_lt_field (by decide) hminute hminute' ?_
  refine hlater.imp_right (And.imp_right fun hlast => ?_)
  exact field_lt_field (by decide) hsecond hsecond' (.inl hlast)

/-- Clocks that agree to the second are written alike up to the second. -/
theorem hms_congr {t u : Clock} (ht : t.IsValid) (hu : u.IsValid)
    (h : t.secondOfDay = u.secondOfDay) : t.hms = u.hms := by
  have hfields : t.hour = u.hour ∧ t.minute = u.minute ∧ t.second = u.second := by
    have := ht.minute
    have := ht.second
    have := hu.minute
    have := hu.second
    rw [secondOfDay, secondOfDay] at h
    omega
  rw [hms, hms, hfields.1, hfields.2.1, hfields.2.2]

theorem toList_fraction_of_ne {t : Clock} (h : t.microsecond ≠ 0) :
    t.fraction.toList = '.' :: (Number.padded 6 t.microsecond).toList := by
  rw [fraction, if_neg h]
  simp

/-- The smaller fraction of a second comes first, none before all others. -/
theorem fraction_lt {t u : Clock} (ht : t.IsValid) (hu : u.IsValid)
    (h : t.microsecond < u.microsecond) : t.fraction.toList < u.fraction.toList := by
  rw [toList_fraction_of_ne (t := u) (Nat.ne_of_gt (Nat.zero_lt_of_lt h))]
  by_cases hzero : t.microsecond = 0
  · rw [fraction, if_pos hzero]
    exact List.nil_lt_cons _ _
  · rw [toList_fraction_of_ne hzero, ← List.append_nil (Number.padded 6 t.microsecond).toList,
      ← List.append_nil (Number.padded 6 u.microsecond).toList]
    exact field_lt_field (by decide) ht.microsecond hu.microsecond (.inl h)

end Clock

/-- Of two timestamps on one wall clock, the earlier one has the earlier day, or the earlier second
    of the same day, or the smaller fraction of the same second. -/
theorem Timestamp.earlier_cases {t u : Timestamp} (ht : t.IsValid) (hu : u.IsValid)
    (hnaive : t.clock.offset = none) (hnaive' : u.clock.offset = none)
    (h : t.instant < u.instant) :
    (t.date.Precedes u.date ∨ t.date = u.date ∧ t.clock.secondOfDay < u.clock.secondOfDay) ∨
      t.date = u.date ∧ t.clock.secondOfDay = u.clock.secondOfDay ∧
        t.clock.microsecond < u.clock.microsecond := by
  have hn := Clock.microsecondOfDay_lt ht.clock
  have hn' := Clock.microsecondOfDay_lt hu.clock
  have hmicrosecond := ht.clock.microsecond
  have hmicrosecond' := hu.clock.microsecond
  simp only [instant, Clock.instant, hnaive, hnaive', Option.elim_none] at h
  rcases Date.precedes_or_eq t.date u.date with hbefore | heq | hafter
  · exact .inl (.inl hbefore)
  · rw [heq] at h
    rw [Clock.microsecondOfDay, Clock.microsecondOfDay] at h
    rcases Nat.lt_trichotomy t.clock.secondOfDay u.clock.secondOfDay with hlt | hsecond | hgt
    · exact .inl (.inr ⟨heq, hlt⟩)
    · exact .inr ⟨heq, hsecond, by omega⟩
    · omega
  · have hday := Date.ordinal_lt hu.date ht.date hafter
    omega

/-- A timestamp that is naive or whose instant lies in the calendar has one on the UTC wall
    clock. -/
theorem Timestamp.exists_toUtc? {t : Timestamp} (h : t.IsValid)
    (hin : t.clock.offset ≠ none → InCalendar t.instant) :
    ∃ u, t.toUtc? = some u ∧ u.IsValid ∧ u.clock.offset = none ∧ u.instant = t.instant := by
  refine (toUtc?_cases h).resolve_right fun hout => hout.2 ?_
  by_cases hnaive : t.clock.offset = none
  · exact inCalendar_of_naive h hnaive
  · exact hin hnaive

/-- The earlier one of two timestamps on one wall clock has no later year. -/
theorem Timestamp.year_le_year {t u : Timestamp} (ht : t.IsValid) (hu : u.IsValid)
    (hnaive : t.clock.offset = none) (hnaive' : u.clock.offset = none)
    (h : t.instant < u.instant) : t.date.year ≤ u.date.year := by
  rcases earlier_cases ht hu hnaive hnaive' h with
    ((hlt | ⟨heq, -⟩) | ⟨hdate, -⟩) | ⟨hdate, -⟩
  · exact hlt.le
  · exact heq.le
  · exact (congrArg Date.year hdate).le
  · exact (congrArg Date.year hdate).le

end TaggedSql.Calendar

namespace TaggedSql.Sql.Dialect

open TaggedSql.Calendar

theorem toList_wallClock (t : Timestamp) :
    (wallClock t).toList = (Number.ofInt t.date.year).toList ++
      '-' :: ((Number.padded 2 t.date.month).toList ++
      '-' :: ((Number.padded 2 t.date.day).toList ++ ' ' :: t.clock.hms.toList)) := by
  simp [wallClock]

/-- **Within a year** the text of an earlier second comes first, whatever follows it. -/
theorem wallClock_append_lt {t u : Timestamp} (ht : t.IsValid) (hu : u.IsValid)
    (hyear : t.date.year = u.date.year)
    (h : t.date.Precedes u.date ∨ t.date = u.date ∧ t.clock.secondOfDay < u.clock.secondOfDay)
    (s s' : List Char) : (wallClock t).toList ++ s < (wallClock u).toList ++ s' := by
  have hfields : t.date.month < u.date.month ∨ t.date.month = u.date.month ∧
      (t.date.day < u.date.day ∨ t.date.day = u.date.day ∧
        t.clock.secondOfDay < u.clock.secondOfDay) := by
    rcases h with (hlt | ⟨-, hlt⟩) | ⟨heq, hlt⟩
    · exact absurd hyear hlt.ne
    · exact hlt.imp_right (And.imp_right Or.inl)
    · exact .inr ⟨congrArg Date.month heq, .inr ⟨congrArg Date.day heq, hlt⟩⟩
  obtain ⟨hmonth, hday⟩ := Date.two_digits ht.date
  obtain ⟨hmonth', hday'⟩ := Date.two_digits hu.date
  rw [toList_wallClock, toList_wallClock, hyear]
  simp only [List.append_assoc, List.cons_append]
  refine List.append_left_lt (field_lt_field (by decide) hmonth hmonth' (hfields.imp_right ?_))
  refine And.imp_right fun hlater => field_lt_field (by decide) hday hday' ?_
  refine hlater.imp_right (And.imp_right fun hlast => ?_)
  exact List.cons_lt_cons_iff.mpr (.inr ⟨rfl, Clock.hms_append_lt ht.clock hu.clock hlast s s'⟩)

/-- **Texts of different years** are ordered as the years are written. -/
theorem wallClock_append_lt_iff {t u : Timestamp} (hyear : t.date.year ≠ u.date.year)
    (s s' : List Char) : (wallClock t).toList ++ s < (wallClock u).toList ++ s' ↔
      Number.ofInt t.date.year < Number.ofInt u.date.year := by
  rw [toList_wallClock, toList_wallClock, List.append_assoc, List.append_assoc,
    String.lt_iff_toList_lt]
  exact Number.append_cons_lt_append_cons_iff (by decide)
    (fun c hc => Number.isDigit_of_mem_ofInt (Int.natCast_nonneg _) hc)
    (fun c hc => Number.isDigit_of_mem_ofInt (Int.natCast_nonneg _) hc)
    (fun h => hyear (Number.ofInt_injective h)) _ _

/-! ## Texts of the UTC wall clock -/

/-- What a dialect without offsets writes for a timestamp of the UTC wall clock. -/
def utcText (d : Dialect) (t : Timestamp) : String :=
  wallClock t ++ if d = mysql then t.clock.fraction else ""

theorem timestampText?_eq_map {d : Dialect} (hd : d ≠ postgres) (t : Timestamp) :
    d.timestampText? t = t.toUtc?.map d.utcText := by
  have hwhole : ∀ e : Dialect, e ≠ mysql → e.utcText = wallClock := by
    intro e he
    funext u
    rw [utcText, if_neg he, String.append_empty]
  cases d with
  | postgres => exact absurd rfl hd
  | mysql => rfl
  | _ => rw [hwhole _ (by decide), timestampText?]

/-- Within a year, the text of an earlier timestamp comes first, or is the same when only the
    fraction differs and is not written. -/
theorem utcText_le_of_year (d : Dialect) {t u : Timestamp} (ht : t.IsValid) (hu : u.IsValid)
    (hnaive : t.clock.offset = none) (hnaive' : u.clock.offset = none)
    (h : t.instant < u.instant) (hyear : t.date.year = u.date.year) :
    d.utcText t ≤ d.utcText u := by
  rw [utcText, utcText]
  rcases Timestamp.earlier_cases ht hu hnaive hnaive' h with hlt | ⟨hdate, hsecond, hfraction⟩
  · refine le_of_lt (String.lt_iff_toList_lt.mpr ?_)
    rw [String.toList_append, String.toList_append]
    exact wallClock_append_lt ht hu hyear hlt _ _
  · have hequal : wallClock t = wallClock u := by
      rw [wallClock, wallClock, hdate, Clock.hms_congr ht.clock hu.clock hsecond]
    rw [hequal]
    split_ifs
    · refine le_of_lt (String.lt_iff_toList_lt.mpr ?_)
      rw [String.toList_append, String.toList_append]
      exact List.append_left_lt (Clock.fraction_lt ht.clock hu.clock hfraction)
    · exact le_refl _

/-- **The text of an earlier timestamp** comes first or is the same exactly when its year does, as
    it is written. -/
theorem utcText_le_iff (d : Dialect) {t u : Timestamp} (ht : t.IsValid) (hu : u.IsValid)
    (hnaive : t.clock.offset = none) (hnaive' : u.clock.offset = none)
    (h : t.instant < u.instant) :
    d.utcText t ≤ d.utcText u ↔ Number.ofInt t.date.year ≤ Number.ofInt u.date.year := by
  by_cases hyear : t.date.year = u.date.year
  · exact iff_of_true (utcText_le_of_year d ht hu hnaive hnaive' h hyear) (by rw [hyear])
  · rw [← not_lt, ← not_lt, String.lt_iff_toList_lt, utcText, utcText, String.toList_append,
      String.toList_append, wallClock_append_lt_iff (Ne.symm hyear)]

/-- From year 1000 to the last one, years are written in order. -/
theorem ofInt_year_le {y z : Nat} (hyear : 1000 ≤ y) (hle : y ≤ z) (hlast : z ≤ 9999) :
    Number.ofInt y ≤ Number.ofInt z := by
  have hfour : ∀ n : Nat, 1000 ≤ n → n ≤ 9999 → (Nat.toDigits 10 n).length = 4 :=
    fun n hlow hhigh =>
      Number.length_toDigits_eq (by decide) hlow (Nat.lt_succ_of_le hhigh)
  rcases hle.lt_or_eq with hlt | rfl
  · exact le_of_lt (Number.ofInt_lt_ofInt
      ((hfour y hyear (hle.trans hlast)).trans (hfour z (hyear.trans hle) hlast).symm) hlt)
  · exact le_refl _

/-- **The texts of bound timestamps follow the years.**  Outside PostgreSQL, two timestamps whose
    instants lie in the calendar, as those of naive ones always do, are bound as texts.  The texts
    are the same only when no fraction is written and the instants agree to the second.  The text of
    the earlier one comes first or is the same exactly when the year it has in UTC comes first or is
    the same as it is written, which is always so from year 1000 on. -/
theorem timestamp_texts_follow_years {d : Dialect} (hd : d ≠ postgres) {t u : Timestamp}
    (ht : t.IsValid) (hu : u.IsValid)
    (htime : t.clock.offset ≠ none → Timestamp.InCalendar t.instant)
    (htime' : u.clock.offset ≠ none → Timestamp.InCalendar u.instant)
    (h : t.instant < u.instant) :
    ∃ v w a b, t.toUtc? = some v ∧ u.toUtc? = some w ∧
      d.timestampText? t = some a ∧ d.timestampText? u = some b ∧
      (a = b ↔ d ≠ mysql ∧ t.instant / 1000000 = u.instant / 1000000) ∧
      (a ≤ b ↔ Number.ofInt v.date.year ≤ Number.ofInt w.date.year) ∧
      (1000 ≤ v.date.year → a ≤ b) := by
  obtain ⟨v, hv, hvalid, hnaive, hinstant⟩ := Timestamp.exists_toUtc? ht htime
  obtain ⟨w, hw, hvalid', hnaive', hinstant'⟩ := Timestamp.exists_toUtc? hu htime'
  have ha : d.timestampText? t = some (d.utcText v) := by rw [timestampText?_eq_map hd, hv]; rfl
  have hb : d.timestampText? u = some (d.utcText w) := by rw [timestampText?_eq_map hd, hw]; rfl
  have hlt : v.instant < w.instant := by rwa [hinstant, hinstant']
  have hyears := utcText_le_iff d hvalid hvalid' hnaive hnaive' hlt
  have hle : v.date.year ≤ w.date.year :=
    Timestamp.year_le_year hvalid hvalid' hnaive hnaive' hlt
  have hlast : w.date.year ≤ 9999 := ((Date.isValid_iff w.date).mp hvalid'.date).2.1
  refine ⟨v, w, _, _, hv, hw, ha, hb, ?_, hyears, fun hyear =>
    hyears.mpr (ofInt_year_le hyear hle hlast)⟩
  rw [timestampText?_eq_iff hd ht hu ha hb, kept_eq_iff]
  split_ifs with hmysql
  · exact iff_of_false h.ne fun hne => hne.1 hmysql
  · exact (and_iff_right hmysql).symm

/-- Half past eleven in the evening of a leap day, an hour and a half behind UTC, is bound for MySQL
    as a text in front of that of one o'clock in UTC the next morning, two microseconds later. -/
theorem microseconds_are_ordered :
    let t : Timestamp := ⟨⟨2024, 2, 29⟩, ⟨23, 30, 0, 5, some ⟨-5400000000⟩⟩⟩
    let u : Timestamp := ⟨⟨2024, 3, 1⟩, ⟨1, 0, 0, 7, some .utc⟩⟩
    t.IsValid ∧ u.IsValid ∧ t.instant < u.instant ∧
      ∃ a b, mysql.timestampText? t = some a ∧ mysql.timestampText? u = some b ∧ a < b := by
  intro t u
  have ht : t.IsValid := ⟨by decide, by decide, by decide, by decide, by decide, by decide⟩
  have hu : u.IsValid := ⟨by decide, by decide, by decide, by decide, by decide, by decide⟩
  have hlt : t.instant < u.instant := by decide
  obtain ⟨v, w, a, b, hv, -, ha, hb, hequal, -, hordered⟩ :=
    timestamp_texts_follow_years (d := mysql) (by decide) ht hu
      (fun _ => ⟨by decide, by decide⟩) (fun _ => ⟨by decide, by decide⟩) hlt
  obtain rfl : ⟨⟨2024, 3, 1⟩, ⟨1, 0, 0, 5, none⟩⟩ = v := Option.some.inj (Eq.trans (by decide) hv)
  refine ⟨ht, hu, hlt, a, b, ha, hb, lt_of_le_of_ne (hordered (by decide)) ?_⟩
  exact fun heq => (hequal.mp heq).1 rfl

/-- The last second of year 999 is bound as a text behind that of the first second of year 1000. -/
theorem year_999_after_year_1000 :
    let t : Timestamp := ⟨⟨999, 12, 31⟩, ⟨23, 59, 59, 0, none⟩⟩
    let u : Timestamp := ⟨⟨1000, 1, 1⟩, ⟨0, 0, 0, 0, none⟩⟩
    t.IsValid ∧ u.IsValid ∧ t.instant < u.instant ∧
      sqlite.timestampText? t = some "999-12-31 23:59:59" ∧
      sqlite.timestampText? u = some "1000-01-01 00:00:00" ∧
      "1000-01-01 00:00:00" < "999-12-31 23:59:59" :=
  ⟨⟨by decide, by decide, by decide, by decide, by decide, by decide⟩,
    ⟨by decide, by decide, by decide, by decide, by decide, by decide⟩, by decide, rfl, rfl,
    by decide⟩

end TaggedSql.Sql.Dialect
