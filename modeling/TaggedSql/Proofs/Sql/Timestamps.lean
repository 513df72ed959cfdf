/-
  What binding a timestamp preserves.

  1. **Truncation** — the dialects that write no fraction bind a timestamp truncated to the second,
     whose instant is the truncated instant (`instant_truncated`); MySQL binds it to the
     microsecond.

  2. **UTC** (`timestampText?_cases`) — outside PostgreSQL an aware timestamp is bound as the text
     of the naive timestamp at its truncated instant, and not at all when UTC takes it out of the
     calendar.

  3. **The statement** (`timestamp_texts_preserve_instants`) — the texts spell what they are bound
     for, so two of them are equal exactly when the instants are, as far as they are kept;
     PostgreSQL's are equal exactly when the timestamps are.
-/
import TaggedSql.Proofs.Calendar.Spelling
import TaggedSql.Sql.Dialect

namespace TaggedSql.Calendar

open TaggedSql

namespace Timestamp

/-- The timestamp at the beginning of its second. -/
def truncated (t : Timestamp) : Timestamp := { t with clock := { t.clock with microsecond := 0 } }

theorem isValid_truncated {t : Timestamp} (h : t.IsValid) : t.truncated.IsValid where
  date := h.date
  clock := ⟨h.clock.hour, h.clock.minute, h.clock.second, by simp [truncated], h.clock.offset⟩

/-- On a wall clock in UTC, truncating a timestamp truncates its instant. -/
theorem instant_truncated {t : Timestamp} (h : t.IsValid) (hnaive : t.clock.offset = none) :
    t.truncated.instant = t.instant / 1000000 * 1000000 := by
  have hmicrosecond := h.clock.microsecond
  simp only [instant, Clock.instant, Clock.microsecondOfDay, Clock.secondOfDay, truncated, hnaive,
    Option.elim_none]
  omega

/-- What is bound for a naive timestamp is its text with the year as short as it is. -/
theorem spelled?_wallClock {t : Timestamp} (h : t.IsValid) (hnaive : t.clock.offset = none) :
    Timestamp.spelled? (Sql.Dialect.wallClock t ++ t.clock.fraction).toList = some t := by
  have hdigits : ∀ c ∈ (Number.ofInt t.date.year).toList, c.isDigit :=
    fun c hc => Number.isDigit_of_mem_ofInt (Int.natCast_nonneg t.date.year) hc
  have hread : Number.read? (Number.ofInt t.date.year).toList = some t.date.year := by
    rw [Number.toList_ofInt (Int.natCast_nonneg t.date.year)]
    exact Number.read?_toDigits t.date.year
  rw [← spelled?_of_year h hdigits hread]
  simp [Sql.Dialect.wallClock, Clock.text, hnaive]

end Timestamp

end TaggedSql.Calendar

namespace TaggedSql.Sql.Dialect

open TaggedSql.Calendar

/-- What is left of an instant when a dialect without offsets binds it. -/
def kept (d : Dialect) (instant : Int) : Int :=
  if d = mysql then instant else instant / 1000000 * 1000000

theorem kept_eq_iff (d : Dialect) (m n : Int) :
    d.kept m = d.kept n ↔ if d = mysql then m = n else m / 1000000 = n / 1000000 := by
  simp only [kept]
  split_ifs
  · exact Iff.rfl
  · omega

/-- **UTC.**  Outside PostgreSQL, what is bound for a timestamp of the calendar is written for the
    naive timestamp at the instant that is kept; outside the calendar nothing is bound. -/
theorem timestampText?_cases {d : Dialect} (hd : d ≠ postgres) {t : Timestamp} (h : t.IsValid) :
    (Timestamp.InCalendar t.instant ∧ ∃ u : Timestamp, u.IsValid ∧ u.clock.offset = none ∧
        u.instant = d.kept t.instant ∧
        d.timestampText? t = some (wallClock u ++ u.clock.fraction)) ∨
      ¬Timestamp.InCalendar t.instant ∧ d.timestampText? t = none := by
  rcases Timestamp.toUtc?_cases h with ⟨u, hu, hvalid, hnaive, hinstant⟩ | ⟨hnone, hout⟩
  · have hin : Timestamp.InCalendar t.instant :=
      hinstant ▸ Timestamp.inCalendar_of_naive hvalid hnaive
    have htruncated : d ≠ mysql → d.timestampText? t = some (wallClock u) →
        ∃ u : Timestamp, u.IsValid ∧ u.clock.offset = none ∧ u.instant = d.kept t.instant ∧
          d.timestampText? t = some (wallClock u ++ u.clock.fraction) := by
      intro hm htext
      refine ⟨u.truncated, Timestamp.isValid_truncated hvalid, hnaive, ?_, ?_⟩
      · rw [Timestamp.instant_truncated hvalid hnaive, hinstant, kept, if_neg hm]
      · rw [htext]
        simp [wallClock, Timestamp.truncated, Clock.hms, Clock.fraction]
    refine Or.inl ⟨hin, ?_⟩
    cases d with
    | postgres => exact absurd rfl hd
    | mysql => exact ⟨u, hvalid, hnaive, hinstant, by rw [timestampText?, hu]; rfl⟩
    | _ => exact htruncated (by decide) (by rw [timestampText?, hu]; rfl)
  · refine Or.inr ⟨hout, ?_⟩
    cases d with
    | postgres => exact absurd rfl hd
    | _ => rw [timestampText?, hnone]; rfl

/-- What is bound for a timestamp spells the naive timestamp at the instant that is kept. -/
theorem spelled?_timestampText {d : Dialect} (hd : d ≠ postgres) {t : Timestamp} (h : t.IsValid)
    {text : String} (htext : d.timestampText? t = some text) :
    ∃ u : Timestamp, u.IsValid ∧ u.clock.offset = none ∧ u.instant = d.kept t.instant ∧
      text = wallClock u ++ u.clock.fraction ∧ Timestamp.spelled? text.toList = some u := by
  rcases timestampText?_cases hd h with ⟨-, u, hvalid, hnaive, hinstant, hu⟩ | ⟨-, hnone⟩
  · obtain rfl : wallClock u ++ u.clock.fraction = text := Option.some.inj (hu.symm.trans htext)
    exact ⟨u, hvalid, hnaive, hinstant, rfl, Timestamp.spelled?_wallClock hvalid hnaive⟩
  · rw [hnone] at htext
    cases htext

/-- There is a text exactly for the instants of the calendar. -/
theorem timestampText?_eq_none_iff {d : Dialect} (hd : d ≠ postgres) {t : Timestamp}
    (h : t.IsValid) : d.timestampText? t = none ↔ ¬Timestamp.InCalendar t.instant := by
  rcases timestampText?_cases hd h with ⟨hin, u, -, -, -, hu⟩ | ⟨hout, hnone⟩
  · simp [hu, hin]
  · simp [hnone, hout]

/-- Texts are equal exactly when the instants are, as far as they are kept. -/
theorem timestampText?_eq_iff {d : Dialect} (hd : d ≠ postgres) {t t' : Timestamp} (h : t.IsValid)
    (h' : t'.IsValid) {text text' : String} (htext : d.timestampText? t = some text)
    (htext' : d.timestampText? t' = some text') :
    text = text' ↔ d.kept t.instant = d.kept t'.instant := by
  obtain ⟨u, hu, hnaive, hinstant, hwritten, hspelled⟩ := spelled?_timestampText hd h htext
  obtain ⟨u', hu', hnaive', hinstant', hwritten', hspelled'⟩ :=
    spelled?_timestampText hd h' htext'
  constructor
  · rintro rfl
    obtain rfl : u = u' := Option.some.inj (hspelled.symm.trans hspelled')
    exact hinstant.symm.trans hinstant'
  · intro hkept
    obtain rfl : u = u' := Timestamp.eq_of_instant_eq hu hu' (hnaive.trans hnaive'.symm)
      (hinstant.trans (hkept.trans hinstant'.symm))
    exact hwritten.trans hwritten'.symm

/-- **Binding timestamps preserves instants.**  Outside PostgreSQL a timestamp is bound unless its
    instant lies outside the calendar, and the text spells the fields that a wall clock in UTC
    shows at this instant, truncated to the second, or for MySQL to the microsecond.  So the texts
    of two timestamps are equal exactly when their truncated instants are.  PostgreSQL binds every
    timestamp, and the texts of two are equal exactly when the timestamps are, offsets included. -/
theorem timestamp_texts_preserve_instants :
    (∀ (d : Dialect) (t : Timestamp), d ≠ postgres → t.IsValid →
      (d.timestampText? t = none ↔ ¬Timestamp.InCalendar t.instant) ∧
      ∀ text, d.timestampText? t = some text →
        ∃ u : Timestamp, u.IsValid ∧ u.clock.offset = none ∧
          u.instant = (if d = mysql then t.instant else t.instant / 1000000 * 1000000) ∧
          text = wallClock u ++ u.clock.fraction ∧ Timestamp.spelled? text.toList = some u) ∧
    (∀ (d : Dialect) (t t' : Timestamp) (text text' : String), d ≠ postgres → t.IsValid →
      t'.IsValid → d.timestampText? t = some text → d.timestampText? t' = some text' →
      (text = text' ↔
        if d = mysql then t.instant = t'.instant
        else t.instant / 1000000 = t'.instant / 1000000)) ∧
    ∀ t t' : Timestamp, t.IsValid → t'.IsValid →
      ∃ text text', postgres.timestampText? t = some text ∧
        postgres.timestampText? t' = some text' ∧ (text = text' ↔ t = t') := by
  refine ⟨fun d t hd h => ⟨timestampText?_eq_none_iff hd h, fun text htext =>
      spelled?_timestampText hd h htext⟩,
    fun d t t' text text' hd h h' htext htext' =>
      (timestampText?_eq_iff hd h h' htext htext').trans (kept_eq_iff d _ _), ?_⟩
  intro t t' h h'
  refine ⟨t.text, t'.text, rfl, rfl, ?_, fun heq => by rw [heq]⟩
  intro htext
  have hspelled := Timestamp.spelled?_text h
  rw [htext, Timestamp.spelled?_text h'] at hspelled
  exact (Option.some.inj hspelled).symm

/-- Half past eleven in the evening of a leap day, an hour and a half behind UTC, and one o'clock in
    UTC the next morning, less than a second later, are bound alike but for MySQL. -/
theorem timestamps_of_one_second :
    let t : Timestamp := ⟨⟨2024, 2, 29⟩, ⟨23, 30, 0, 5, some ⟨-5400000000⟩⟩⟩
    let t' : Timestamp := ⟨⟨2024, 3, 1⟩, ⟨1, 0, 0, 7, some .utc⟩⟩
    t.IsValid ∧ t'.IsValid ∧
      (∃ text, ansi.timestampText? t = some text ∧ ansi.timestampText? t' = some text) ∧
      mysql.timestampText? t ≠ mysql.timestampText? t' := by
  intro t t'
  have ht : t.IsValid := ⟨by decide, by decide, by decide, by decide, by decide, by decide⟩
  have ht' : t'.IsValid := ⟨by decide, by decide, by decide, by decide, by decide, by decide⟩
  obtain ⟨hbound, hequal, -⟩ := timestamp_texts_preserve_instants
  have hin : Timestamp.InCalendar t.instant := ⟨by decide, by decide⟩
  have hin' : Timestamp.InCalendar t'.instant := ⟨by decide, by decide⟩
  have hexists : ∀ d : Dialect, d ≠ postgres → ∃ text text', d.timestampText? t = some text ∧
      d.timestampText? t' = some text' := by
    intro d hd
    obtain ⟨text, htext⟩ := Option.ne_none_iff_exists'.mp fun hnone =>
      (hbound d t hd ht).1.mp hnone hin
    obtain ⟨text', htext'⟩ := Option.ne_none_iff_exists'.mp fun hnone =>
      (hbound d t' hd ht').1.mp hnone hin'
    exact ⟨text, text', htext, htext'⟩
  refine ⟨ht, ht', ?_, ?_⟩
  · obtain ⟨text, text', htext, htext'⟩ := hexists ansi (by decide)
    have hsecond := (hequal ansi t t' text text' (by decide) ht ht' htext htext').mpr (by decide)
    exact ⟨text, htext, hsecond ▸ htext'⟩
  · obtain ⟨text, text', htext, htext'⟩ := hexists mysql (by decide)
    have hmicrosecond := hequal mysql t t' text text' (by decide) ht ht' htext htext'
    rw [htext, htext']
    exact fun heq => absurd (hmicrosecond.mp (Option.some.inj heq)) (by decide)

end TaggedSql.Sql.Dialect
