/-
  Coercing what has been coerced.

  This asks of the readers that they yield what they are asked for, keep what is of the type
  already, and read the texts of times and timestamps.

  1. **Kinds** — a text, a byte string, a number and a truth value are bound as they are
     (`coerce_of_binds`).

  2. **Times and timestamps** — their texts are read as what they spell, and this is written alike
     (`toTimestampText_again`, `toTimeText_again`), provided that the text can be read at all
     (`Rereadable`): its offset has no seconds, and its year takes four digits.

  3. **The statement** (`coerce_again`) — every other result of a coercion is its own result.  What
     a constant holds is the one exception: read as an integer, it may be bound unseen
     (`coerce_constant_again`).
-/
import TaggedSql.Proofs.Sql.Timestamps
import TaggedSql.Proofs.Value.CoercionKinds

namespace TaggedSql

open TaggedSql.Calendar TaggedSql.Sql TaggedSql.Coercion

/-! ## Kinds -/

/-- A value of the kind that a type binds is bound as it is, unless it is a text to be read. -/
theorem coerce_of_binds {r : Readers} (hr : r.KeepsTargets) (d : Dialect) (drained : List Nat)
    {type : BindType} {w : Value} (h : type.Binds w) (htimestamp : type ≠ .timestamp)
    (htime : type ≠ .time) : r.coerce d drained type w = .ok w := by
  cases h with
  | text | illFormed | blob => rfl
  | int n =>
    show orRefuse _ (r.int (.int n)) = _
    rw [hr.int]
    rfl
  | float x =>
    show orRefuse _ ((r.float (.float x)).map .float) = _
    rw [hr.float]
    rfl
  | bool b =>
    show orRefuse _ ((r.bool (.bool b)).map .bool) = _
    rw [hr.bool]
    rfl
  | timestamp s => exact absurd rfl htimestamp
  | time s => exact absurd rfl htime

/-! ## Times and timestamps -/

namespace Coercion

/-- Whether a text that is bound as a timestamp or a time can be read: the offset that it shows is a
    whole number of minutes, and the year takes four digits where it is not padded. -/
def Rereadable (d : Dialect) : BindType → Value → Prop
  | .timestamp, .text s => ∀ t, Timestamp.spelled? s.toList = some t →
      (∀ o ∈ t.clock.offset, o.IsWhole) ∧ (d ≠ .postgres → 1000 ≤ t.date.year)
  | .time, .text s => ∀ t, Clock.spelled? s.toList = some t → ∀ o ∈ t.offset, o.IsWhole
  | _, _ => True

end Coercion

/-- A number that fills the width is not padded. -/
theorem Number.padded_eq_ofInt {width n : Nat} (h : width ≤ (Nat.toDigits 10 n).length) :
    Number.padded width n = Number.ofInt n := by
  rw [← String.toList_inj, Number.toList_padded, Number.toList_ofInt_natCast,
    Nat.sub_eq_zero_of_le h]
  rfl

/-- From the year 1000 on, what is bound without an offset is the text of the timestamp. -/
theorem Calendar.Timestamp.wallClock_eq_text {t : Timestamp} (h : t.IsValid)
    (hnaive : t.clock.offset = none) (hyear : 1000 ≤ t.date.year) :
    Dialect.wallClock t ++ t.clock.fraction = t.text := by
  have hlast : t.date.year < Nat.pow 10 4 :=
    ((Date.isValid_iff t.date).mp h.date).2.1.trans_lt (by decide)
  have hdigits := Number.length_toDigits_eq (k := 3) (by decide) hyear hlast
  rw [text, Date.text, Number.padded_eq_ofInt hdigits.ge, Dialect.wallClock, Clock.text, hnaive]
  simp [String.append_assoc]

namespace Coercion

variable {r : Readers} {d : Dialect}

/-- **Timestamps.**  A text that can be read is read as a timestamp that is written alike. -/
theorem timestampText?_again (hr : r.ReadsIso) {t : Timestamp} (h : t.IsValid) {s : String}
    (hs : d.timestampText? t = some s) (hread : Rereadable d .timestamp (.text s)) :
    ∃ u, r.timestamp (.text s) = some u ∧ d.timestampText? u = some s := by
  by_cases hd : d = .postgres
  · subst hd
    obtain rfl : t.text = s := Option.some.inj hs
    obtain ⟨hwhole, -⟩ := hread t (Timestamp.spelled?_text h)
    exact ⟨t, hr.timestamp h hwhole, rfl⟩
  · obtain ⟨u, hu, hnaive, hinstant, hwritten, hspelled⟩ := Dialect.spelled?_timestampText hd h hs
    obtain ⟨-, hyear⟩ := hread u hspelled
    have htext : s = u.text := hwritten.trans (Timestamp.wallClock_eq_text hu hnaive (hyear hd))
    have hnone : ∀ o ∈ u.clock.offset, o.IsWhole := by
      rw [hnaive]
      nofun
    refine ⟨u, by rw [htext, hr.timestamp hu hnone], ?_⟩
    -- what is kept of an instant is kept of it again
    have hin := Timestamp.inCalendar_of_naive hu hnaive
    obtain ⟨s', hs'⟩ := Option.ne_none_iff_exists'.mp fun hnone =>
      (Dialect.timestampText?_eq_none_iff hd hu).mp hnone hin
    have hkept : d.kept t.instant = d.kept u.instant := by
      rw [hinstant]
      unfold Dialect.kept
      split_ifs
      · rfl
      · omega
    rw [hs', (Dialect.timestampText?_eq_iff hd h hu hs hs').mpr hkept]

/-- **Times.**  A text that can be read is read as a time that is written alike. -/
theorem timeText_again (hr : r.ReadsIso) {t : Clock} (h : t.IsValid)
    (hread : Rereadable d .time (.text (d.timeText t))) :
    ∃ u, r.clock (.text (d.timeText t)) = some u ∧ d.timeText u = d.timeText t := by
  by_cases hd : d = .postgres
  · subst hd
    have hwhole := hread t (Clock.spelled?_text h)
    exact ⟨t, hr.clock h hwhole, rfl⟩
  · -- a time without fraction and offset
    have hplain : (⟨t.hour, t.minute, t.second, 0, none⟩ : Clock).IsValid :=
      ⟨h.hour, h.minute, h.second, Nat.zero_lt_succ _, nofun⟩
    have htext : d.timeText t = (⟨t.hour, t.minute, t.second, 0, none⟩ : Clock).text := by
      cases d with
      | postgres => exact absurd rfl hd
      | _ => simp [Dialect.timeText, Clock.text, Clock.hms, Clock.fraction]
    refine ⟨_, by rw [htext, hr.clock hplain nofun], ?_⟩
    cases d with
    | postgres => exact absurd rfl hd
    | _ => rfl

/-! ## The statement -/

variable {v w : Value}

/-- A date that exists has a midnight that exists. -/
theorem isValid_atMidnight (hv : v.IsValid) : (atMidnight v).IsValid := by
  cases v with
  | date day => exact ⟨hv, Clock.isValid_midnight⟩
  | _ => exact hv

/-- The time of day of a timestamp that exists exists. -/
theorem isValid_timeOfDay (hv : v.IsValid) : (timeOfDay v).IsValid := by
  cases v with
  | timestamp t => exact hv.clock
  | _ => exact hv

theorem toTimestampText_again (hr : r.YieldsTargets) (hiso : r.ReadsIso) (hv : v.IsValid)
    (h : toTimestampText r d v = .ok w) (hread : Rereadable d .timestamp w) :
    toTimestampText r d w = .ok w := by
  simp only [toTimestampText] at h
  split at h
  · cases h
  · next t ht =>
    split at h
    · cases h
    · next s hs =>
      cases h
      have ht' := hr.timestamp (isValid_atMidnight hv) ht
      obtain ⟨u, hu, hagain⟩ := timestampText?_again hiso ht' hs hread
      simp only [toTimestampText, atMidnight, hu, hagain]

theorem toTimeText_again (hr : r.YieldsTargets) (hiso : r.ReadsIso) (hv : v.IsValid)
    (h : toTimeText r d v = .ok w) (hread : Rereadable d .time w) :
    toTimeText r d w = .ok w := by
  simp only [toTimeText] at h
  cases ht : r.clock (timeOfDay v) with
  | none =>
    rw [ht] at h
    cases h
  | some t =>
    rw [ht] at h
    cases h
    have ht' := hr.clock (isValid_timeOfDay hv) ht
    obtain ⟨u, hu, hagain⟩ := timeText_again hiso ht' hread
    show orRefuse _ ((r.clock (.text (d.timeText t))).map _) = _
    rw [hu, Option.map_some, hagain]
    rfl

end Coercion

/-- **Coercion is idempotent.**  What a value is bound as is bound as itself again, if a time or a
    timestamp in it can be read; only what a constant holds may be bound as an integer without being
    looked into, so that it may yet change. -/
theorem coerce_again {r : Readers} (hr : r.YieldsTargets) (hkeeps : r.KeepsTargets)
    (hiso : r.ReadsIso) (d : Dialect) (drained drained' : List Nat) {type : BindType} {v w : Value}
    (hv : v.IsValid) (h : r.coerce d drained type v = .ok w) (hread : Rereadable d type w) :
    r.coerce d drained' type w = .ok w ∨ type = .int ∧ ∃ m, v = .constant m w := by
  by_cases hnull : v = .null
  · subst hnull
    cases h
    exact .inl rfl
  rw [coerce_eq_convert r d drained type hnull] at h
  by_cases htimestamp : type = .timestamp
  · subst htimestamp
    have hagain : toTimestampText r d w = .ok w := toTimestampText_again hr hiso hv h hread
    cases w with
    | null => exact .inl rfl
    | _ => exact .inl hagain
  by_cases htime : type = .time
  · subst htime
    have hagain : toTimeText r d w = .ok w := toTimeText_again hr hiso hv h hread
    cases w with
    | null => exact .inl rfl
    | _ => exact .inl hagain
  -- what is bound has not escaped
  have hescapes : ∀ f, ¬v.Escapes r d type f := by
    intro f hf
    rw [convert_of_escapes hf] at h
    cases h
  have hends := convert_ends hr d drained hnull hescapes
  rw [h] at hends
  rcases hends with hends | ⟨m, u, hint, hconstant, hu⟩
  · cases hends with
    | bound hbinds => exact .inl (coerce_of_binds hkeeps d drained' hbinds htimestamp htime)
  · obtain rfl : w = u := Except.ok.inj hu
    exact .inr ⟨hint, m, hconstant⟩

/-- Half past eleven in the evening of a leap day, an hour and a half behind UTC, is bound as two
    texts by two dialects, and each text as itself; the readers are the standard ones. -/
theorem coerce_leap_day_again :
    let r := Readers.standard
    let v : Value := .timestamp ⟨⟨2024, 2, 29⟩, ⟨23, 30, 0, 5, some ⟨-5400000000⟩⟩⟩
    (r.YieldsTargets ∧ r.KeepsTargets ∧ r.ReadsIso) ∧ v.IsValid ∧
      r.coerce .postgres [] .timestamp v = .ok (.text "2024-02-29 23:30:00.000005-01:30") ∧
      r.coerce .mysql [] .timestamp v = .ok (.text "2024-03-01 01:00:00.000005") ∧
      r.coerce .postgres [] .timestamp (.text "2024-02-29 23:30:00.000005-01:30") =
        .ok (.text "2024-02-29 23:30:00.000005-01:30") ∧
      r.coerce .mysql [] .timestamp (.text "2024-03-01 01:00:00.000005") =
        .ok (.text "2024-03-01 01:00:00.000005") := by
  intro r v
  have hr : r.YieldsTargets := Readers.yieldsTargets_standard
  have hkeeps : r.KeepsTargets := Readers.keepsTargets_standard
  have hiso : r.ReadsIso := Readers.readsIso_standard
  have hv : v.IsValid := ⟨by decide, by decide, by decide, by decide, by decide, by decide⟩
  have hpostgres : r.coerce .postgres [] .timestamp v =
      .ok (.text "2024-02-29 23:30:00.000005-01:30") := rfl
  have hmysql : r.coerce .mysql [] .timestamp v = .ok (.text "2024-03-01 01:00:00.000005") := rfl
  have hread : Rereadable .postgres .timestamp (.text "2024-02-29 23:30:00.000005-01:30") := by
    have hspelled : Timestamp.spelled? "2024-02-29 23:30:00.000005-01:30".toList =
        some ⟨⟨2024, 2, 29⟩, ⟨23, 30, 0, 5, some ⟨-5400000000⟩⟩⟩ := rfl
    intro t ht
    cases hspelled.symm.trans ht
    exact ⟨by decide, by decide⟩
  have hread' : Rereadable .mysql .timestamp (.text "2024-03-01 01:00:00.000005") := by
    have hspelled : Timestamp.spelled? "2024-03-01 01:00:00.000005".toList =
        some ⟨⟨2024, 3, 1⟩, ⟨1, 0, 0, 5, none⟩⟩ := rfl
    intro t ht
    cases hspelled.symm.trans ht
    exact ⟨by decide, by decide⟩
  refine ⟨⟨hr, hkeeps, hiso⟩, hv, hpostgres, hmysql, ?_, ?_⟩
  · exact (coerce_again hr hkeeps hiso .postgres [] [] hv hpostgres hread).resolve_right nofun
  · exact (coerce_again hr hkeeps hiso .mysql [] [] hv hmysql hread').resolve_right nofun

/-- The digits that a constant holds are bound as a text, and that text as an integer. -/
theorem coerce_constant_again :
    coerce .ansi [] .int (.constant ⟨"E", "X", 0⟩ (.text "42")) = .ok (.text "42") ∧
      coerce .ansi [] .int (.text "42") ≠ .ok (.text "42") := by
  refine ⟨rfl, ?_⟩
  have hread : coerce .ansi [] .int (.text "42") = .ok (.int 42) := by
    rfl
  rw [hread]
  nofun

end TaggedSql
