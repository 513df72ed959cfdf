/-
  Times and timestamps that are read back from their own text.

  1. **Whole minutes** — an offset is read by its hours and minutes only, so the text of an offset
     is read back when the offset has no seconds (`readOffset?_text`).

  2. **Fields** — a fraction of six digits is read back and so is one that is left out
     (`readAfterSeconds?_text`); with the other fields, so is a time (`Clock.read?_text`) and a
     timestamp whose year takes four digits (`Timestamp.read?_text`).

  3. **What is read** is a time of day or a timestamp that exists (`Clock.isValid_of_read?`,
     `Timestamp.isValid_of_read?`), and so is what a count since 1970 amounts to
     (`Timestamp.isValid_of_ofEpoch?`).
-/
import Mathlib.Data.List.TakeWhile
import TaggedSql.Proofs.Calendar.Spelling
import TaggedSql.Proofs.Number.Ordering

namespace TaggedSql.Calendar

open TaggedSql

/-! ## Offsets -/

/-- Whether an offset is a whole number of minutes. -/
def Offset.IsWhole (o : Offset) : Prop := o.microseconds % 60000000 = 0

instance (o : Offset) : Decidable o.IsWhole := inferInstanceAs (Decidable (_ = _))

/-- The text of an offset without seconds: its sign, hours and minutes. -/
theorem Offset.toList_text {o : Offset} (h : o.IsWhole) :
    o.text.toList = (if o.microseconds < 0 then '-' else '+') ::
      ((Number.padded 2 (o.microseconds.natAbs / 3600000000)).toList ++ (':' ::
        (Number.padded 2 (o.microseconds.natAbs / 60000000 % 60)).toList)) := by
  have hminutes : o.microseconds.natAbs % 60000000 = 0 := by
    unfold IsWhole at h
    omega
  simp only [text, secondsText, hminutes]
  split_ifs <;> simp

/-- A sign, hours and minutes are read as the offset of so many minutes. -/
theorem readOffset?_fields {sign : Char} (hsign : sign = '+' ∨ sign = '-') {hours minutes : Nat}
    (hhours : hours ≤ 23) (hminutes : minutes ≤ 59) :
    readOffset? (sign :: ((Number.padded 2 hours).toList ++
        (':' :: (Number.padded 2 minutes).toList))) =
      some (some (.ofSeconds (if sign = '+' then (hours : Int) * 3600 + minutes * 60
        else -((hours : Int) * 3600 + minutes * 60)))) := by
  have hread := Number.digits?_padded (by decide) (hhours.trans_lt (by decide : 23 < Nat.pow 10 2))
    (':' :: (Number.padded 2 minutes).toList)
  have hread' := Number.digits?_padded (by decide)
    (hminutes.trans_lt (by decide : 59 < Nat.pow 10 2)) []
  rw [List.append_nil] at hread'
  rcases hsign with rfl | rfl
  · simp [readOffset?, hread, hread', hhours, hminutes]
  · simp [readOffset?, hread, hread', hhours, hminutes]

/-- An offset without seconds is read back from its text. -/
theorem readOffset?_text {o : Offset} (hwhole : o.IsWhole)
    (h : -86400000000 < o.microseconds ∧ o.microseconds < 86400000000) :
    readOffset? o.text.toList = some (some o) := by
  have hminutes : o.microseconds % 60000000 = 0 := hwhole
  have hvalue : ∀ n : Int, n * 1000000 = o.microseconds → Offset.ofSeconds n = o := by
    rintro n hn
    rw [Offset.ofSeconds, hn]
  rw [Offset.toList_text hwhole]
  by_cases hneg : o.microseconds < 0
  · rw [if_pos hneg, readOffset?_fields (.inr rfl) (by omega) (by omega), if_neg (by decide),
      hvalue _ (by omega)]
  · rw [if_neg hneg, readOffset?_fields (.inl rfl) (by omega) (by omega), if_pos rfl,
      hvalue _ (by omega)]

/-- An offset or none is read back, and does not start like a fraction or a digit. -/
theorem readOffset?_offsetText {t : Clock} (h : t.IsValid) (hwhole : ∀ o ∈ t.offset, o.IsWhole) :
    readOffset? (offsetText t.offset).toList = some t.offset := by
  cases ho : t.offset with
  | none => rfl
  | some o => exact readOffset?_text (hwhole o ho) (h.offset o ho)

/-- Nothing that belongs to a fraction begins the text of an offset. -/
theorem head?_offsetText {o : Option Offset} {c : Char} (h : (offsetText o).toList.head? = some c) :
    c = '+' ∨ c = '-' := by
  cases o with
  | none => cases h
  | some o =>
    simp only [offsetText, Option.elim_some, Offset.text, String.toList_append] at h
    split_ifs at h
    · exact .inr (Option.some.inj h).symm
    · exact .inl (Option.some.inj h).symm

/-! ## Times -/

/-- Six digits are read as the number that is padded. -/
theorem readFraction_padded {n : Nat} (h : n < 1000000) :
    readFraction (Number.padded 6 n).toList = n := by
  have hlength : (Number.padded 6 n).toList.length = 6 := Number.length_padded (by decide) h
  have htake : (Number.padded 6 n).toList.take 6 = (Number.padded 6 n).toList :=
    List.take_of_length_le hlength.le
  rw [readFraction, htake, hlength, Nat.sub_self, List.replicate_zero, List.append_nil,
    Number.ofDigitChars_padded]

/-- The fraction and the offset are read back. -/
theorem readAfterSeconds?_text {t : Clock} (h : t.IsValid) (hwhole : ∀ o ∈ t.offset, o.IsWhole) :
    readAfterSeconds? (t.fraction.toList ++ (offsetText t.offset).toList) =
      some (t.microsecond, t.offset) := by
  have hoffset := readOffset?_offsetText h hwhole
  have hhead : ∀ c, (offsetText t.offset).toList.head? = some c → c = '+' ∨ c = '-' :=
    fun c => head?_offsetText
  rw [Clock.fraction]
  by_cases hzero : t.microsecond = 0
  · rw [if_pos hzero, hzero]
    show readAfterSeconds? (offsetText t.offset).toList = _
    cases htext : (offsetText t.offset).toList with
    | nil =>
      rw [htext] at hoffset
      rw [← Option.some.inj hoffset]
      rfl
    | cons c rest =>
      rw [htext] at hoffset hhead
      have hc : ¬(c = '.' || c = ',') = true := by
        rcases hhead c rfl with rfl | rfl <;> decide
      simp only [readAfterSeconds?, hc, hoffset]
      rfl
  · have hdigits : ∀ c ∈ (Number.padded 6 t.microsecond).toList, c.isDigit :=
      fun c hc => Number.isDigit_of_mem_padded hc
    have hrest : (offsetText t.offset).toList.takeWhile Char.isDigit = [] ∧
        (offsetText t.offset).toList.dropWhile Char.isDigit = (offsetText t.offset).toList := by
      cases htext : (offsetText t.offset).toList with
      | nil => exact ⟨rfl, rfl⟩
      | cons c rest =>
        rw [htext] at hhead
        rcases hhead c rfl with rfl | rfl <;> exact ⟨rfl, rfl⟩
    have hne : (Number.padded 6 t.microsecond).toList.isEmpty = false := by
      rw [List.isEmpty_eq_false_iff, ← List.length_pos_iff,
        Number.length_padded (by decide) h.microsecond]
      decide
    have htext : ("." ++ Number.padded 6 t.microsecond).toList ++ (offsetText t.offset).toList =
        '.' :: ((Number.padded 6 t.microsecond).toList ++ (offsetText t.offset).toList) := by
      simp
    rw [if_neg hzero, htext]
    simp only [readAfterSeconds?, List.takeWhile_append_of_pos hdigits,
      List.dropWhile_append_of_pos hdigits, hrest, List.append_nil, hne, hoffset,
      readFraction_padded h.microsecond]
    rfl

/-- **The text of a time** is read as the time when its offset has no seconds. -/
theorem Clock.read?_text {t : Clock} (h : t.IsValid) (hwhole : ∀ o ∈ t.offset, o.IsWhole) :
    Clock.read? t.text.toList = some t := by
  obtain ⟨hhour, hminute, hsecond⟩ := Clock.two_digits h
  have hafter := readAfterSeconds?_text h hwhole
  have htext : t.text.toList = (Number.padded 2 t.hour).toList ++ (':' ::
      ((Number.padded 2 t.minute).toList ++ (':' :: ((Number.padded 2 t.second).toList ++
        (t.fraction.toList ++ (offsetText t.offset).toList))))) := by
    simp [text, hms, offsetText]
  have hhour' : ¬23 < t.hour := by
    have := h.hour
    omega
  have hminute' : ¬59 < t.minute := by
    have := h.minute
    omega
  have hsecond' : ¬59 < t.second := by
    have := h.second
    omega
  rw [htext, read?, Number.digits?_padded (by decide) hhour]
  simp only [Option.bind_some, Number.digits?_padded (by decide) hminute,
    Number.digits?_padded (by decide) hsecond, hafter, Option.map_some, hhour', hminute', hsecond',
    decide_false, Bool.or_false, Bool.false_eq_true, if_false]

/-! ## Timestamps -/

/-- The day at the front of a text is read back. -/
theorem Date.readFront?_text {d : Date} (h : d.isValid) (rest : List Char) :
    Date.readFront? (d.text.toList ++ rest) = some (d, rest) := by
  obtain ⟨hmonth, hday⟩ := Date.two_digits h
  have hyear : d.year < Nat.pow 10 4 := ((Date.isValid_iff d).mp h).2.1.trans_lt (by decide)
  have htext : d.text.toList ++ rest = (Number.padded 4 d.year).toList ++ ('-' ::
      ((Number.padded 2 d.month).toList ++ ('-' :: ((Number.padded 2 d.day).toList ++ rest)))) := by
    simp [text]
  have hfields : Date.ofFields? d.year d.month d.day = some d := if_pos h
  rw [htext, readFront?, Number.digits?_padded (by decide) hyear]
  simp only [Option.bind_some, Number.digits?_padded (by decide) hmonth,
    Number.digits?_padded (by decide) hday, hfields, Option.map_some]

/-- **The text of a timestamp** is read as the timestamp when its offset has no seconds. -/
theorem Timestamp.read?_text {t : Timestamp} (h : t.IsValid)
    (hwhole : ∀ o ∈ t.clock.offset, o.IsWhole) : Timestamp.read? t.text.toList = some t := by
  have htext : t.text.toList = t.date.text.toList ++ (' ' :: t.clock.text.toList) := by
    simp [text]
  rw [htext, read?, Date.readFront?_text h.date]
  simp only [Option.bind_some, Clock.read?_text h.clock hwhole]
  rfl

/-! ## What is read -/

/-- What is read as an offset is less than a day. -/
theorem offset_lt_of_readOffset? {s : List Char} {o : Option Offset}
    (h : readOffset? s = some o) :
    ∀ p ∈ o, -86400000000 < p.microseconds ∧ p.microseconds < 86400000000 := by
  unfold readOffset? at h
  split at h
  · cases h
    nofun
  · cases h
    rintro p hp
    cases hp
    decide
  · cases h
    rintro p hp
    cases hp
    decide
  · split at h
    · obtain ⟨hours, -, h⟩ := Option.bind_eq_some_iff.mp h
      obtain ⟨minutes, -, h⟩ := Option.bind_eq_some_iff.mp h
      split at h
      · next hbounds =>
        simp only [Bool.and_eq_true, decide_eq_true_eq] at hbounds
        cases h
        rintro p hp
        cases hp
        simp only [Offset.ofSeconds]
        split <;> omega
      · cases h
    · cases h

/-- What is read as a fraction is less than a second. -/
theorem readFraction_lt {ds : List Char} (h : ∀ c ∈ ds, c.isDigit) : readFraction ds < 1000000 := by
  have hdigits : ∀ c ∈ ds.take 6 ++ List.replicate (6 - (ds.take 6).length) '0', c.isDigit := by
    intro c hc
    rcases List.mem_append.mp hc with hc | hc
    · exact h c (List.mem_of_mem_take hc)
    · rw [(List.mem_replicate.mp hc).2]
      rfl
  have hlength : (ds.take 6 ++ List.replicate (6 - (ds.take 6).length) '0').length = 6 := by
    rw [List.length_append, List.length_replicate]
    have := List.length_take_le 6 ds
    omega
  have hlt := Number.ofDigitChars_lt hdigits
  rwa [hlength] at hlt

/-- What is read behind the seconds is a fraction of a second and an offset of less than a day. -/
theorem valid_of_readAfterSeconds? {s : List Char} {r : Nat × Option Offset}
    (h : readAfterSeconds? s = some r) :
    r.1 < 1000000 ∧ ∀ o ∈ r.2, -86400000000 < o.microseconds ∧ o.microseconds < 86400000000 := by
  unfold readAfterSeconds? at h
  split at h
  · split at h
    · dsimp only at h
      split at h
      · cases h
      · obtain ⟨o, ho, rfl⟩ := Option.map_eq_some_iff.mp h
        refine ⟨readFraction_lt fun c hc => ?_, offset_lt_of_readOffset? ho⟩
        exact List.mem_takeWhile_imp hc
    · obtain ⟨o, ho, rfl⟩ := Option.map_eq_some_iff.mp h
      exact ⟨Nat.zero_lt_succ _, offset_lt_of_readOffset? ho⟩
  · cases h
    exact ⟨Nat.zero_lt_succ _, nofun⟩

/-- What is read as a time of day is one. -/
theorem Clock.isValid_of_read? {s : List Char} {t : Clock} (h : Clock.read? s = some t) :
    t.IsValid := by
  unfold Clock.read? at h
  obtain ⟨hour, -, h⟩ := Option.bind_eq_some_iff.mp h
  split at h
  · obtain ⟨minute, -, h⟩ := Option.bind_eq_some_iff.mp h
    split at h
    · cases h
    · next hbounds =>
      simp only [Bool.or_eq_true, decide_eq_true_eq, not_or, Nat.not_lt] at hbounds
      split at h
      · obtain ⟨second, -, h⟩ := Option.bind_eq_some_iff.mp h
        split at h
        · cases h
        · next hsecond =>
          obtain ⟨r, hr, rfl⟩ := Option.map_eq_some_iff.mp h
          obtain ⟨hfraction, hoffset⟩ := valid_of_readAfterSeconds? hr
          exact ⟨Nat.lt_succ_of_le hbounds.1, Nat.lt_succ_of_le hbounds.2,
            Nat.lt_succ_of_le (Nat.not_lt.mp hsecond), hfraction, hoffset⟩
      · obtain ⟨o, ho, rfl⟩ := Option.map_eq_some_iff.mp h
        exact ⟨Nat.lt_succ_of_le hbounds.1, Nat.lt_succ_of_le hbounds.2, Nat.zero_lt_succ _,
          Nat.zero_lt_succ _, offset_lt_of_readOffset? ho⟩
  · cases h

/-- What is made of fields is a day of the calendar. -/
theorem Date.isValid_of_ofFields? {year month day : Nat} {d : Date}
    (h : Date.ofFields? year month day = some d) : d.isValid := by
  simp only [ofFields?] at h
  split at h
  · next hvalid =>
    cases h
    exact hvalid
  · cases h

/-- Midnight is a time of day. -/
theorem Clock.isValid_midnight : Clock.midnight.IsValid :=
  ⟨by decide, by decide, by decide, by decide, nofun⟩

/-- What is read as a timestamp is one. -/
theorem Timestamp.isValid_of_read? {s : List Char} {t : Timestamp}
    (h : Timestamp.read? s = some t) : t.IsValid := by
  have hdate : ∀ {s : List Char} {r : Date × List Char}, Date.readFront? s = some r →
      r.1.isValid := by
    intro s r hr
    unfold Date.readFront? at hr
    obtain ⟨year, -, hr⟩ := Option.bind_eq_some_iff.mp hr
    split at hr
    · obtain ⟨month, -, hr⟩ := Option.bind_eq_some_iff.mp hr
      split at hr
      · obtain ⟨day, -, hr⟩ := Option.bind_eq_some_iff.mp hr
        obtain ⟨d, hd, rfl⟩ := Option.map_eq_some_iff.mp hr
        exact Date.isValid_of_ofFields? hd
      · cases hr
    · cases hr
  unfold Timestamp.read? at h
  obtain ⟨r, hr, h⟩ := Option.bind_eq_some_iff.mp h
  split at h
  · cases h
    exact ⟨hdate hr, Clock.isValid_midnight⟩
  · split at h
    · obtain ⟨clock, hclock, rfl⟩ := Option.map_eq_some_iff.mp h
      exact ⟨hdate hr, Clock.isValid_of_read? hclock⟩
    · cases h

/-- A time of the day in UTC is one. -/
theorem Clock.isValid_ofMicrosecond_utc {n : Nat} (h : n < 86400000000) :
    (Clock.ofMicrosecond n (some .utc)).IsValid := by
  obtain ⟨hhour, hminute, hsecond, hmicrosecond, -⟩ := Clock.isValid_ofMicrosecond h
  refine ⟨hhour, hminute, hsecond, hmicrosecond, ?_⟩
  rintro o ho
  cases ho
  decide

/-- What a count since 1970 amounts to is a timestamp. -/
theorem Timestamp.isValid_of_ofEpoch? {n : Int} {t : Timestamp} (h : ofEpoch? n = some t) :
    t.IsValid := by
  obtain ⟨day, hday, rfl⟩ := Option.map_eq_some_iff.mp h
  have hrest : (n - Int.fdiv n 86400000000 * 86400000000).toNat < 86400000000 := by
    rw [Int.fdiv_eq_ediv_of_nonneg _ (by decide)]
    omega
  refine ⟨?_, Clock.isValid_ofMicrosecond_utc hrest⟩
  unfold Date.ofOrdinal? at hday
  split at hday
  · cases hday
  · exact Date.isValid_of_ofFields? hday

end TaggedSql.Calendar
