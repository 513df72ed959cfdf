/-
  What the texts of times and timestamps spell.

  1. **Reading** — `Timestamp.spelled?` reads a year of any width, the other fields by their
     separators and widths, and a fraction and an offset only where they are written.

  2. **Fields** — a padded number behind its separator is read back (`field?_padded`); a field that
     is left out when it is zero is read back either way (`optionalField?_fraction`).

  3. **The statements** — what is read in the text of an offset, a time or a timestamp is that
     offset, time or timestamp (`Offset.spelled?_text`, `Clock.spelled?_text`,
     `Timestamp.spelled?_text`), so two of them have the same text only when they are equal.
-/
import TaggedSql.Proofs.Calendar.Instant
import TaggedSql.Proofs.Number.Padded

namespace TaggedSql.Calendar

open TaggedSql

/-! ## Reading -/

/-- What follows a character at the front of a text. -/
def after? (c : Char) : List Char → Option (List Char)
  | [] => none
  | d :: s => if d = c then some s else none

/-- A separator and a number of exactly `width` digits, and what follows them. -/
def field? (separator : Char) (width : Nat) (s : List Char) : Option (Nat × List Char) :=
  (after? separator s).bind (digits? width)

/-- A field that is zero where its separator does not stand. -/
def optionalField? (separator : Char) (width : Nat) (s : List Char) :
    Option (Nat × List Char) :=
  if s.head? = some separator then field? separator width s else some (0, s)

/-- The offset that a text spells: none when it is empty, otherwise a sign, hours and minutes, and
    seconds and their fraction where they are written. -/
def Offset.spelled? : List Char → Option (Option Offset)
  | [] => some none
  | sign :: s =>
    (digits? 2 s).bind fun hours =>
    (field? ':' 2 hours.2).bind fun minutes =>
    (optionalField? ':' 2 minutes.2).bind fun seconds =>
    (optionalField? '.' 6 seconds.2).bind fun fraction =>
      let n : Int := (hours.1 * 3600000000 + minutes.1 * 60000000 + seconds.1 * 1000000 +
        fraction.1 : Nat)
      if !fraction.2.isEmpty then none
      else if sign = '+' then some (some ⟨n⟩)
      else if sign = '-' then some (some ⟨-n⟩)
      else none

/-- The time of day that a text spells. -/
def Clock.spelled? (s : List Char) : Option Clock :=
  (digits? 2 s).bind fun hour =>
  (field? ':' 2 hour.2).bind fun minute =>
  (field? ':' 2 minute.2).bind fun second =>
  (optionalField? '.' 6 second.2).bind fun fraction =>
  (Offset.spelled? fraction.2).map fun offset =>
    ⟨hour.1, minute.1, second.1, fraction.1, offset⟩

/-- The timestamp that a text spells. -/
def Timestamp.spelled? (s : List Char) : Option Timestamp :=
  (Number.read? (s.takeWhile Char.isDigit)).bind fun year =>
  (field? '-' 2 (s.dropWhile Char.isDigit)).bind fun month =>
  (field? '-' 2 month.2).bind fun day =>
  (after? ' ' day.2).bind fun rest =>
  (Clock.spelled? rest).map fun clock => ⟨⟨year, month.1, day.1⟩, clock⟩

/-! ## Fields -/

theorem field?_padded {separator : Char} {width n : Nat} (hw : 0 < width)
    (h : n < Nat.pow 10 width) (rest : List Char) :
    field? separator width (separator :: ((Number.padded width n).toList ++ rest)) =
      some (n, rest) := by
  rw [field?, after?, if_pos rfl]
  exact Number.digits?_padded hw h rest

theorem optionalField?_padded {separator : Char} {width n : Nat} (hw : 0 < width)
    (h : n < Nat.pow 10 width) (rest : List Char) :
    optionalField? separator width (separator :: ((Number.padded width n).toList ++ rest)) =
      some (n, rest) := by
  rw [optionalField?, List.head?_cons, if_pos rfl]
  exact field?_padded hw h rest

theorem optionalField?_absent {separator : Char} {width : Nat} {s : List Char}
    (h : s.head? ≠ some separator) : optionalField? separator width s = some (0, s) := by
  rw [optionalField?, if_neg h]

/-- A fraction that is written only when it is not zero is read back. -/
theorem optionalField?_fraction {n : Nat} (h : n < 1000000) {rest : List Char}
    (hrest : rest.head? ≠ some '.') :
    optionalField? '.' 6
        ((if n = 0 then "" else "." ++ Number.padded 6 n).toList ++ rest) = some (n, rest) := by
  by_cases hn : n = 0
  · rw [if_pos hn, hn]
    exact optionalField?_absent hrest
  · rw [if_neg hn, String.toList_append]
    exact optionalField?_padded (by decide) h rest

/-! ## Texts -/

/-- The seconds of an offset and their fraction, each written only when needed. -/
theorem Offset.fields_secondsText (n : Nat) :
    ∃ rest, optionalField? ':' 2 (secondsText n).toList = some (n / 1000000 % 60, rest) ∧
      optionalField? '.' 6 rest = some (n % 1000000, []) := by
  rw [secondsText]
  split_ifs with hminutes hseconds
  · have hs : n / 1000000 % 60 = 0 := by omega
    have hf : n % 1000000 = 0 := by omega
    rw [hs, hf]
    exact ⟨[], rfl, rfl⟩
  all_goals
    have hs : n / 1000000 % 60 < Nat.pow 10 2 := show _ < 100 by omega
    refine ⟨_, by
      rw [String.toList_append, String.toList_append]
      exact optionalField?_padded (by decide) hs _, ?_⟩
  · rw [hseconds]
    rfl
  · have hf : n % 1000000 < Nat.pow 10 6 := show _ < 1000000 by omega
    have hfraction : optionalField? '.' 6 ('.' :: ((Number.padded 6 (n % 1000000)).toList ++ [])) =
        some (n % 1000000, []) := optionalField?_padded (by decide) hf []
    simpa using hfraction

/-- **The text of an offset spells the offset.** -/
theorem Offset.spelled?_text {o : Offset}
    (h : -86400000000 < o.microseconds ∧ o.microseconds < 86400000000) :
    Offset.spelled? o.text.toList = some (some o) := by
  generalize hn : o.microseconds.natAbs = n
  have hlt : n < 86400000000 := by omega
  have hhours : n / 3600000000 < Nat.pow 10 2 := show _ < 100 by omega
  have hminutes : n / 60000000 % 60 < Nat.pow 10 2 := show _ < 100 by omega
  obtain ⟨rest, hseconds, hfraction⟩ := Offset.fields_secondsText n
  have htext : o.text.toList = (if o.microseconds < 0 then '-' else '+') ::
      ((Number.padded 2 (n / 3600000000)).toList ++ (':' ::
        ((Number.padded 2 (n / 60000000 % 60)).toList ++ (secondsText n).toList))) := by
    simp only [text, hn]
    split_ifs <;> simp
  rw [htext, spelled?, Number.digits?_padded (by decide) hhours]
  simp only [Option.bind_some, field?_padded (by decide) hminutes, hseconds, hfraction]
  have htotal : n / 3600000000 * 3600000000 + n / 60000000 % 60 * 60000000 +
      n / 1000000 % 60 * 1000000 + n % 1000000 = n := by omega
  rw [htotal]
  by_cases hneg : o.microseconds < 0
  · have hvalue : -(n : Int) = o.microseconds := by omega
    simp [hneg, hvalue]
  · have hvalue : (n : Int) = o.microseconds := by omega
    simp [hneg, hvalue]

/-- What is written for an offset or none. -/
def offsetText (o : Option Offset) : String := o.elim "" Offset.text

/-- The text of an offset or none spells it, and does not start like a fraction. -/
theorem spelled?_offsetText {t : Clock} (h : t.IsValid) :
    Offset.spelled? (offsetText t.offset).toList = some t.offset ∧
      (offsetText t.offset).toList.head? ≠ some '.' := by
  cases ho : t.offset with
  | none => exact ⟨rfl, by simp [offsetText]⟩
  | some o =>
    refine ⟨Offset.spelled?_text (h.offset o ho), ?_⟩
    simp only [offsetText, Option.elim_some, Offset.text, String.toList_append]
    split_ifs <;> simp

/-- The hour, the minute and the second take two digits. -/
theorem Clock.two_digits {t : Clock} (h : t.IsValid) :
    t.hour < Nat.pow 10 2 ∧ t.minute < Nat.pow 10 2 ∧ t.second < Nat.pow 10 2 :=
  ⟨h.hour.trans (by decide), h.minute.trans (by decide), h.second.trans (by decide)⟩

/-- **The text of a time spells the time.** -/
theorem Clock.spelled?_text {t : Clock} (h : t.IsValid) :
    Clock.spelled? t.text.toList = some t := by
  obtain ⟨hhour, hminute, hsecond⟩ := Clock.two_digits h
  obtain ⟨hoffset, hhead⟩ := spelled?_offsetText h
  have hfraction := optionalField?_fraction h.microsecond hhead
  have htext : t.text.toList = (Number.padded 2 t.hour).toList ++ (':' ::
      ((Number.padded 2 t.minute).toList ++ (':' :: ((Number.padded 2 t.second).toList ++
        (t.fraction.toList ++ (offsetText t.offset).toList))))) := by
    simp [text, hms, offsetText]
  rw [htext, spelled?, Number.digits?_padded (by decide) hhour]
  simp only [Option.bind_some, field?_padded (by decide) hminute,
    field?_padded (by decide) hsecond]
  rw [fraction, hfraction]
  simp only [Option.bind_some, hoffset, Option.map_some]

theorem daysInMonth_le (year month : Nat) : daysInMonth year month ≤ 31 := by
  unfold daysInMonth
  split <;> (try split) <;> decide

/-- The month and the day take two digits. -/
theorem Date.two_digits {d : Date} (h : d.isValid) :
    d.month < Nat.pow 10 2 ∧ d.day < Nat.pow 10 2 := by
  obtain ⟨-, -, -, hmonth, -, hday⟩ := (Date.isValid_iff d).mp h
  have hlast := daysInMonth_le d.year d.month
  exact ⟨hmonth.trans_lt (by decide), (hday.trans hlast).trans_lt (by decide)⟩

/-- A year of any width, a day and a time spell the timestamp. -/
theorem Timestamp.spelled?_of_year {t : Timestamp} (h : t.IsValid) {year : List Char}
    (hdigits : ∀ c ∈ year, c.isDigit) (hyear : Number.read? year = some t.date.year) :
    Timestamp.spelled? (year ++ ('-' :: ((Number.padded 2 t.date.month).toList ++ ('-' ::
      ((Number.padded 2 t.date.day).toList ++ (' ' :: t.clock.text.toList)))))) = some t := by
  obtain ⟨hmonth, hday⟩ := Date.two_digits h.date
  have hdash : ('-').isDigit = false := rfl
  rw [spelled?, List.takeWhile_append_of_pos hdigits, List.dropWhile_append_of_pos hdigits]
  simp only [List.takeWhile_cons, List.dropWhile_cons, hdash, Bool.false_eq_true, ite_false,
    List.append_nil, hyear, Option.bind_some, field?_padded (by decide) hmonth,
    field?_padded (by decide) hday, after?, ite_true, Clock.spelled?_text h.clock, Option.map_some]

/-- **The text of a timestamp spells the timestamp.** -/
theorem Timestamp.spelled?_text {t : Timestamp} (h : t.IsValid) :
    Timestamp.spelled? t.text.toList = some t := by
  have hyear := Timestamp.spelled?_of_year h
    (fun c hc => Number.isDigit_of_mem_padded hc) (Number.read?_padded 4 t.date.year)
  rw [← hyear]
  simp [text, Date.text]

end TaggedSql.Calendar
