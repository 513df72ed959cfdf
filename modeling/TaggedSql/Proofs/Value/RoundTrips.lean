/-
  Conversions to text and to bytes that can be taken back.

  1. **Texts and byte strings** — the bytes of a text are that text again (`decodeString_encode`).
     Byte strings of every kind become a text exactly when they are well-formed, and the text has
     these bytes (`coerce_blob_eq_ok_iff`).

  2. **Integers** — an integer that can be written is bound as its text, and read back from it by
     readers that read decimal text (`coerce_int_text`).

  3. **The statement** (`nothing_is_lost`) — for every text, every byte string and every integer of
     at most 4300 digits.
-/
import TaggedSql.Coercion
import TaggedSql.Proofs.Text.Utf8
import TaggedSql.Proofs.Value.IntegerText

namespace TaggedSql

open TaggedSql.Coercion TaggedSql.Number TaggedSql.Sql TaggedSql.Text

/-! ## Texts and byte strings -/

theorem decodeString_encode (s : String) : Utf8.decodeString (Utf8.encode s.toList) = some s := by
  rw [Utf8.decodeString, Utf8.decode_encode, Option.map_some, String.ofList_toList]

theorem decodeString_eq_some_iff {bs : List UInt8} {s : String} :
    Utf8.decodeString bs = some s ↔ Utf8.encode s.toList = bs := by
  constructor
  · intro h
    obtain ⟨cs, hcs, rfl⟩ := Option.map_eq_some_iff.mp h
    rw [String.toList_ofList, Utf8.encode_decode hcs]
  · rintro rfl
    exact decodeString_encode s

theorem isSome_decodeString_iff {bs : List UInt8} :
    (Utf8.decodeString bs).isSome ↔ Utf8.WellFormed bs := by
  rw [Utf8.decodeString, Option.isSome_map, Utf8.isSome_decode_iff]

variable (r : Readers) (d : Dialect) (drained : List Nat)

/-- A byte string becomes the text that has these bytes. -/
theorem coerce_blob_eq_ok_iff {kind : BlobKind} {bs : List UInt8} {w : Value} :
    r.coerce d drained .text (.blob kind bs) = .ok w ↔
      ∃ s, w = .text s ∧ Utf8.encode s.toList = bs := by
  show toText (.blob kind bs) = .ok w ↔ _
  rw [toText]
  constructor
  · intro h
    split at h
    · next s hs => exact ⟨s, (Except.ok.inj h).symm, decodeString_eq_some_iff.mp hs⟩
    · cases h
  · rintro ⟨s, rfl, hs⟩
    rw [decodeString_eq_some_iff.mpr hs]

/-- Bytes that are no text are refused for that reason. -/
theorem coerce_blob_of_not_wellFormed {kind : BlobKind} {bs : List UInt8}
    (h : ¬Utf8.WellFormed bs) :
    r.coerce d drained .text (.blob kind bs) =
      .error (.refused (.blob kind bs) (Value.displayBlob kind bs) (some .notUtf8)) := by
  show toText (.blob kind bs) = _
  have hnone : Utf8.decodeString bs = none := by
    rwa [← Option.not_isSome_iff_eq_none, isSome_decodeString_iff]
  rw [toText, hnone]
  rfl

/-! ## Integers -/

/-- An integer is bound as its text, if it is not too long. -/
theorem coerce_int_text {n : Int} (h : isWritable n) :
    r.coerce d drained .text (.int n) = .ok (.text (ofInt n)) := by
  have hplain : (Value.int n).plain? = some (ofInt n) := if_pos h
  show toText (.int n) = _
  simp only [toText, hplain]

/-- The text of an integer is read back. -/
theorem coerce_text_int {r : Readers} (hr : r.ReadsDecimal) {n : Int} (h : isWritable n) :
    r.coerce d drained .int (.text (ofInt n)) = .ok (.int n) := by
  show orRefuse (.text (ofInt n)) (r.int (.text (ofInt n))) = _
  rw [hr.int (denotes_ofInt h)]
  rfl

/-! ## The statement -/

/-- **Nothing is lost.**  Texts survive as bytes, byte strings that are UTF-8 survive as texts, and
    integers of at most 4300 digits survive as texts, if the readers read decimal text as what it
    denotes.  Byte strings that are not UTF-8 are refused. -/
theorem nothing_is_lost {r : Readers} (hr : r.ReadsDecimal) (d : Dialect) (drained : List Nat) :
    (∀ s, ∃ w, r.coerce d drained .blob (.text s) = .ok w ∧
      r.coerce d drained .text w = .ok (.text s)) ∧
    (∀ kind bs,
      ((∃ w, r.coerce d drained .text (.blob kind bs) = .ok w) ↔ Utf8.WellFormed bs) ∧
      (¬Utf8.WellFormed bs → r.coerce d drained .text (.blob kind bs) =
        .error (.refused (.blob kind bs) (Value.displayBlob kind bs) (some .notUtf8))) ∧
      ∀ w, r.coerce d drained .text (.blob kind bs) = .ok w →
        r.coerce d drained .blob w = .ok (.blob .bytes bs)) ∧
    ∀ n : Int, (Nat.toDigits 10 n.natAbs).length ≤ 4300 →
      ∃ w, r.coerce d drained .text (.int n) = .ok w ∧ r.coerce d drained .int w = .ok (.int n) := by
  refine ⟨?_, ?_, ?_⟩
  · intro s
    exact ⟨_, rfl, (coerce_blob_eq_ok_iff r d drained).mpr ⟨s, rfl, rfl⟩⟩
  · intro kind bs
    refine ⟨?_, coerce_blob_of_not_wellFormed r d drained, ?_⟩
    · rw [← isSome_decodeString_iff, Option.isSome_iff_exists]
      constructor
      · rintro ⟨w, hw⟩
        obtain ⟨s, -, hs⟩ := (coerce_blob_eq_ok_iff r d drained).mp hw
        exact ⟨s, decodeString_eq_some_iff.mpr hs⟩
      · rintro ⟨s, hs⟩
        exact ⟨_, (coerce_blob_eq_ok_iff r d drained).mpr ⟨s, rfl, decodeString_eq_some_iff.mp hs⟩⟩
    · intro w hw
      obtain ⟨s, rfl, rfl⟩ := (coerce_blob_eq_ok_iff r d drained).mp hw
      rfl
  · intro n hn
    have hwritable : isWritable n := decide_eq_true hn
    exact ⟨_, coerce_int_text r d drained hwritable, coerce_text_int d drained hr hwritable⟩

/-- The two bytes of an accented letter, read through a view, an overlong slash, and an integer with
    a minus, under the standard readers. -/
theorem accent_survives :
    Readers.standard.ReadsDecimal ∧ Utf8.WellFormed [0xc3, 0xa9] ∧ ¬Utf8.WellFormed [0xc0, 0xaf] ∧
      coerce .ansi [] .text (.blob .view [0xc3, 0xa9]) = .ok (.text "\u00e9") ∧
      coerce .ansi [] .blob (.text "\u00e9") = .ok (.blob .bytes [0xc3, 0xa9]) ∧
      coerce .ansi [] .text (.blob .view [0xc0, 0xaf]) =
        .error (.refused (.blob .view [0xc0, 0xaf]) "<memory at 0x>" (some .notUtf8)) ∧
      coerce .ansi [] .int (.text "-42") = .ok (.int (-42)) := by
  obtain ⟨-, hbytes, hints⟩ := nothing_is_lost Readers.readsDecimal_standard .ansi []
  have haccent : coerce .ansi [] .text (.blob .view [0xc3, 0xa9]) = .ok (.text "\u00e9") := rfl
  have hslash : ¬Utf8.WellFormed [0xc0, 0xaf] := by
    rw [← Utf8.isSome_decode_iff]
    decide
  obtain ⟨w, hw, hback⟩ := hints (-42) (by decide)
  obtain rfl : w = .text "-42" := (Except.ok.inj hw).symm
  exact ⟨Readers.readsDecimal_standard, (hbytes .view _).1.mp ⟨_, haccent⟩, hslash, haccent,
    (hbytes .view _).2.2 _ haccent, (hbytes .view _).2.1 hslash, hback⟩

end TaggedSql
