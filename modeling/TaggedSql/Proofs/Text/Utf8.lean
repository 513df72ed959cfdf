/-
  Which bytes are the encoding of a text.

  1. **Characters** — `Spells n w` gives the shape of a character's bytes: a leading byte whose
     first bits tell how many there are, then continuing bytes, and payload bits that make up `n`.
     `IsCharacter` adds what makes the form the only one: no more bytes than `n` takes, no
     surrogate, nothing above U+10FFFF.  Bytes are `WellFormed` when they are such characters, one
     after the other.

  2. **Reading and writing one character** — the encoder writes a character's form
     (`isCharacter_utf8EncodeChar`), which is its only one (`Spells.unique`); the decoder reads one
     such form after the other (`decode_append`) and nothing else (`decode_cases`).

  3. **Whole texts** — decoding undoes encoding (`decode_encode`), encoding undoes decoding
     (`encode_decode`), and what decodes is exactly what is well-formed (`isSome_decode_iff`).
-/
import TaggedSql.Text.Utf8
import Mathlib.Data.List.Basic

namespace TaggedSql.Text.Utf8

/-! ## Characters -/

/-- `Spells n w`: the bytes `w` have the shape of one character, and their payload bits are `n`. -/
inductive Spells : Nat → List UInt8 → Prop where
  /-- `0xxxxxxx` -/
  | one {n : Nat} {a : UInt8} : between 0x00 0x7f a → n = a.toNat → Spells n [a]
  /-- `110xxxxx 10xxxxxx` -/
  | two {n : Nat} {a b : UInt8} : between 0xc0 0xdf a → isTail b →
      n = (a.toNat - 0xc0) * 64 + payload b → Spells n [a, b]
  /-- `1110xxxx 10xxxxxx 10xxxxxx` -/
  | three {n : Nat} {a b c : UInt8} : between 0xe0 0xef a → isTail b → isTail c →
      n = ((a.toNat - 0xe0) * 64 + payload b) * 64 + payload c → Spells n [a, b, c]
  /-- `11110xxx 10xxxxxx 10xxxxxx 10xxxxxx` -/
  | four {n : Nat} {a b c d : UInt8} : between 0xf0 0xf7 a → isTail b → isTail c → isTail d →
      n = (((a.toNat - 0xf0) * 64 + payload b) * 64 + payload c) * 64 + payload d →
      Spells n [a, b, c, d]

/-- The least number of bytes that spell a number. -/
def width (n : Nat) : Nat :=
  if n ≤ 0x7f then 1 else if n ≤ 0x7ff then 2 else if n ≤ 0xffff then 3 else 4

/-- `IsCharacter n w`: the bytes `w` are the well-formed encoding of the character number `n`. -/
structure IsCharacter (n : Nat) (w : List UInt8) : Prop where
  spells : Spells n w
  /-- The form is not overlong. -/
  shortest : w.length = width n
  /-- Half a surrogate pair is no character. -/
  no_surrogate : ¬(0xd800 ≤ n ∧ n ≤ 0xdfff)
  in_range : n ≤ 0x10ffff

/-- Bytes that are encodings of characters, one after the other. -/
def WellFormed (bs : List UInt8) : Prop :=
  ∃ ws : List (List UInt8), bs = ws.flatten ∧ ∀ w ∈ ws, ∃ n, IsCharacter n w

theorem between_iff {lo hi : Nat} {b : UInt8} :
    between lo hi b = true ↔ lo ≤ b.toNat ∧ b.toNat ≤ hi := by
  simp [between]

/-- A continuing byte is its payload behind the bits `10`. -/
theorem payload_of_isTail {b : UInt8} (h : isTail b) :
    payload b < 64 ∧ b.toNat = payload b + 0x80 := by
  have hb := between_iff.mp h
  have hp : payload b = b.toNat - 0x80 := rfl
  omega

/-- A byte with these bits behind `10` is a continuing byte. -/
theorem isTail_ofNat {p : Nat} (h : p < 64) :
    isTail (UInt8.ofNat (p + 0x80)) ∧ payload (UInt8.ofNat (p + 0x80)) = p := by
  have hb : (UInt8.ofNat (p + 0x80)).toNat = p + 0x80 := by
    rw [UInt8.toNat_ofNat']
    omega
  refine ⟨between_iff.mpr ?_, ?_⟩
  · omega
  · show (UInt8.ofNat (p + 0x80)).toNat - 0x80 = p
    omega

/-- Two bytes with the same number are the same byte. -/
theorem eq_of_toNat_eq {a b : UInt8} (h : a.toNat = b.toNat) : a = b := UInt8.toNat_inj.mp h

/-- Continuing bytes with the same payload are the same byte. -/
theorem eq_of_payload_eq {a b : UInt8} (ha : isTail a) (hb : isTail b)
    (h : payload a = payload b) : a = b := by
  have ha' := (payload_of_isTail ha).2
  have hb' := (payload_of_isTail hb).2
  exact eq_of_toNat_eq (by omega)

/-- **One form.**  Bytes of one length that spell one number are the same bytes. -/
theorem Spells.unique {n : Nat} {w w' : List UInt8} (h : Spells n w) (h' : Spells n w')
    (hlength : w.length = w'.length) : w = w' := by
  cases h with
  | one ha hn =>
    cases h' with
    | one ha' hn' => rw [eq_of_toNat_eq (hn.symm.trans hn')]
    | _ => cases hlength
  | @two a b ha hb hn =>
    cases h' with
    | @two a' b' ha' hb' hn' =>
      have hlead := between_iff.mp ha
      have hlead' := between_iff.mp ha'
      have hp := payload_of_isTail hb
      have hp' := payload_of_isTail hb'
      obtain rfl : a = a' := eq_of_toNat_eq (by omega)
      obtain rfl : b = b' := eq_of_payload_eq hb hb' (by omega)
      rfl
    | _ => cases hlength
  | @three a b c ha hb hc hn =>
    cases h' with
    | @three a' b' c' ha' hb' hc' hn' =>
      have hlead := between_iff.mp ha
      have hlead' := between_iff.mp ha'
      have hp := payload_of_isTail hb
      have hp' := payload_of_isTail hb'
      have hq := payload_of_isTail hc
      have hq' := payload_of_isTail hc'
      obtain rfl : a = a' := eq_of_toNat_eq (by omega)
      obtain rfl : b = b' := eq_of_payload_eq hb hb' (by omega)
      obtain rfl : c = c' := eq_of_payload_eq hc hc' (by omega)
      rfl
    | _ => cases hlength
  | @four a b c d ha hb hc hd hn =>
    cases h' with
    | @four a' b' c' d' ha' hb' hc' hd' hn' =>
      have hlead := between_iff.mp ha
      have hlead' := between_iff.mp ha'
      have hp := payload_of_isTail hb
      have hp' := payload_of_isTail hb'
      have hq := payload_of_isTail hc
      have hq' := payload_of_isTail hc'
      have hr := payload_of_isTail hd
      have hr' := payload_of_isTail hd'
      obtain rfl : a = a' := eq_of_toNat_eq (by omega)
      obtain rfl : b = b' := eq_of_payload_eq hb hb' (by omega)
      obtain rfl : c = c' := eq_of_payload_eq hc hc' (by omega)
      obtain rfl : d = d' := eq_of_payload_eq hd hd' (by omega)
      rfl
    | _ => cases hlength

theorem IsCharacter.unique {n : Nat} {w w' : List UInt8} (h : IsCharacter n w)
    (h' : IsCharacter n w') : w = w' :=
  h.spells.unique h'.spells (h.shortest.trans h'.shortest.symm)

/-- The number of such a character is the number of a character. -/
theorem IsCharacter.toNat_ofNat {n : Nat} {w : List UInt8} (h : IsCharacter n w) :
    (Char.ofNat n).toNat = n := by
  have hvalid : n.isValidChar := by
    have hs := h.no_surrogate
    have hr := h.in_range
    unfold Nat.isValidChar
    omega
  rw [Char.ofNat, dif_pos hvalid]
  rfl

/-! ## One character -/

/-- The encoder writes the form of the character. -/
theorem isCharacter_utf8EncodeChar (c : Char) :
    IsCharacter c.toNat (String.utf8EncodeChar c) := by
  have hvalid : c.toNat < 0xd800 ∨ 0xdfff < c.toNat ∧ c.toNat < 0x110000 := c.valid
  have hlead : ∀ n, n < 256 → (UInt8.ofNat n).toNat = n := fun n hn =>
    UInt8.toNat_ofNat_of_lt hn
  obtain ⟨hb, hpb⟩ := isTail_ofNat (p := c.toNat % 64) (by omega)
  obtain ⟨hc, hpc⟩ := isTail_ofNat (p := c.toNat / 64 % 64) (by omega)
  obtain ⟨hd, hpd⟩ := isTail_ofNat (p := c.toNat / 4096 % 64) (by omega)
  by_cases h1 : c.toNat ≤ 0x7f
  · have henc : String.utf8EncodeChar c = [UInt8.ofNat c.toNat] := by
      simp [String.utf8EncodeChar, h1]
    have ha := hlead c.toNat (by omega)
    rw [henc]
    refine ⟨.one (between_iff.mpr (by omega)) ha.symm, ?_, by omega, by omega⟩
    rw [width, if_pos h1]
    rfl
  · by_cases h2 : c.toNat ≤ 0x7ff
    · have henc : String.utf8EncodeChar c =
          [UInt8.ofNat (c.toNat / 64 % 32 + 0xc0), UInt8.ofNat (c.toNat % 64 + 0x80)] := by
        simp [String.utf8EncodeChar, h1, h2]
      have ha := hlead (c.toNat / 64 % 32 + 0xc0) (by omega)
      rw [henc]
      refine ⟨.two (between_iff.mpr (by omega)) hb (by omega), ?_, by omega, by omega⟩
      rw [width, if_neg h1, if_pos h2]
      rfl
    · by_cases h3 : c.toNat ≤ 0xffff
      · have henc : String.utf8EncodeChar c =
            [UInt8.ofNat (c.toNat / 4096 % 16 + 0xe0), UInt8.ofNat (c.toNat / 64 % 64 + 0x80),
              UInt8.ofNat (c.toNat % 64 + 0x80)] := by
          simp [String.utf8EncodeChar, h1, h2, h3]
        have ha := hlead (c.toNat / 4096 % 16 + 0xe0) (by omega)
        rw [henc]
        refine ⟨.three (between_iff.mpr (by omega)) hc hb (by omega), ?_, by omega, by omega⟩
        rw [width, if_neg h1, if_neg h2, if_pos h3]
        rfl
      · have henc : String.utf8EncodeChar c =
            [UInt8.ofNat (c.toNat / 262144 % 8 + 0xf0), UInt8.ofNat (c.toNat / 4096 % 64 + 0x80),
              UInt8.ofNat (c.toNat / 64 % 64 + 0x80), UInt8.ofNat (c.toNat % 64 + 0x80)] := by
          simp [String.utf8EncodeChar, h1, h2, h3]
        have ha := hlead (c.toNat / 262144 % 8 + 0xf0) (by omega)
        rw [henc]
        refine ⟨.four (between_iff.mpr (by omega)) hd hc hb (by omega), ?_, by omega, by omega⟩
        rw [width, if_neg h1, if_neg h2, if_neg h3]
        rfl

/-- What may stand second behind a leading byte, stated by the number the two begin. -/
theorem isSecond_iff {a b : UInt8} (hb : isTail b) :
    isSecond a b ↔
      (a.toNat = 0xe0 → 32 ≤ payload b) ∧ (a.toNat = 0xed → payload b < 32) ∧
        (a.toNat = 0xf0 → 16 ≤ payload b) ∧ (a.toNat = 0xf4 → payload b < 16) := by
  have hp := payload_of_isTail hb
  rw [isSecond, between_iff]
  unfold secondBounds
  split
  · show (0xa0 ≤ b.toNat ∧ b.toNat ≤ 0xbf) ↔ _
    omega
  · split
    · show (0x80 ≤ b.toNat ∧ b.toNat ≤ 0x9f) ↔ _
      omega
    · split
      · show (0x90 ≤ b.toNat ∧ b.toNat ≤ 0xbf) ↔ _
        omega
      · split
        · show (0x80 ≤ b.toNat ∧ b.toNat ≤ 0x8f) ↔ _
          omega
        · show (0x80 ≤ b.toNat ∧ b.toNat ≤ 0xbf) ↔ _
          omega

/-- What may stand second is a continuing byte. -/
theorem isTail_of_isSecond {a b : UInt8} (h : isSecond a b) : isTail b := by
  have hbounds : 0x80 ≤ (secondBounds a).1 ∧ (secondBounds a).2 ≤ 0xbf := by
    unfold secondBounds
    (repeat' split) <;> decide
  have hb := between_iff.mp h
  exact between_iff.mpr (by omega)

theorem width_cases (n : Nat) :
    n ≤ 0x7f ∧ width n = 1 ∨ 0x7f < n ∧ n ≤ 0x7ff ∧ width n = 2 ∨
      0x7ff < n ∧ n ≤ 0xffff ∧ width n = 3 ∨ 0xffff < n ∧ width n = 4 := by
  unfold width
  split
  · omega
  · split
    · omega
    · split <;> omega

/-- The decoder reads the form of a character. -/
theorem decode_append {n : Nat} {w : List UInt8} (h : IsCharacter n w) (rest : List UInt8) :
    decode (w ++ rest) = (decode rest).map (Char.ofNat n :: ·) := by
  obtain ⟨hspells, hshort, hsurrogate, hrange⟩ := h
  have hwidth := width_cases n
  cases hspells with
  | @one a ha hn =>
    subst hn
    rw [List.cons_append, List.nil_append, decode.eq_def]
    simp [ha]
  | @two a b ha hb hn =>
    have hlead := between_iff.mp ha
    have hp := payload_of_isTail hb
    have hlength : 2 = width n := hshort
    have hone : between 0x00 0x7f a = false := by
      rw [Bool.eq_false_iff, Ne, between_iff]
      omega
    have htwo : between 0xc2 0xdf a = true := between_iff.mpr (by omega)
    rw [List.cons_append, List.cons_append, List.nil_append, decode.eq_def]
    simp [hone, htwo, hb, hn]
  | @three a b c ha hb hc hn =>
    have hlead := between_iff.mp ha
    have hp := payload_of_isTail hb
    have hq := payload_of_isTail hc
    have hlength : 3 = width n := hshort
    have hone : between 0x00 0x7f a = false := by
      rw [Bool.eq_false_iff, Ne, between_iff]
      omega
    have htwo : between 0xc2 0xdf a = false := by
      rw [Bool.eq_false_iff, Ne, between_iff]
      omega
    have hsecond : isSecond a b = true := (isSecond_iff hb).mpr (by omega)
    rw [List.cons_append, List.cons_append, List.cons_append, List.nil_append, decode.eq_def]
    simp [hone, htwo, ha, hsecond, hc, hn]
  | @four a b c d ha hb hc hd hn =>
    have hlead := between_iff.mp ha
    have hp := payload_of_isTail hb
    have hq := payload_of_isTail hc
    have hr := payload_of_isTail hd
    have hlength : 4 = width n := hshort
    have hone : between 0x00 0x7f a = false := by
      rw [Bool.eq_false_iff, Ne, between_iff]
      omega
    have htwo : between 0xc2 0xdf a = false := by
      rw [Bool.eq_false_iff, Ne, between_iff]
      omega
    have hthree : between 0xe0 0xef a = false := by
      rw [Bool.eq_false_iff, Ne, between_iff]
      omega
    have hfour : between 0xf0 0xf4 a = true := between_iff.mpr (by omega)
    have hsecond : isSecond a b = true := (isSecond_iff hb).mpr (by omega)
    rw [List.cons_append, List.cons_append, List.cons_append, List.cons_append, List.nil_append,
      decode.eq_def]
    simp [hone, htwo, hthree, hfour, hsecond, hc, hd, hn]

/-- The decoder reads such forms only. -/
theorem decode_cases {bs : List UInt8} {s : List Char} (h : decode bs = some s) :
    bs = [] ∧ s = [] ∨
      ∃ n w rest s', IsCharacter n w ∧ bs = w ++ rest ∧ decode rest = some s' ∧
        s = Char.ofNat n :: s' := by
  revert h
  fun_cases decode bs with
  | case1 =>
    intro h
    cases h
    exact Or.inl ⟨rfl, rfl⟩
  | case2 a rest ha =>
    intro h
    obtain ⟨s', hs, rfl⟩ := Option.map_eq_some_iff.mp h
    have hlead := between_iff.mp ha
    have hwidth := width_cases a.toNat
    have hlength : 1 = width a.toNat := by omega
    exact Or.inr ⟨a.toNat, [a], rest, s', ⟨.one ha rfl, hlength, by omega, by omega⟩, rfl, hs, rfl⟩
  | case4 a hone b rest ha hb =>
    intro h
    obtain ⟨s', hs, rfl⟩ := Option.map_eq_some_iff.mp h
    have hlead := between_iff.mp ha
    have hp := payload_of_isTail hb
    obtain ⟨n, hn⟩ : ∃ n, n = (a.toNat - 0xc0) * 64 + payload b := ⟨_, rfl⟩
    have hwidth := width_cases n
    have hlength : 2 = width n := by omega
    rw [← hn]
    exact Or.inr ⟨n, [a, b], rest, s', ⟨.two (between_iff.mpr (by omega)) hb hn, hlength,
      by omega, by omega⟩, rfl, hs, rfl⟩
  | case7 a hone b htwo c rest ha hbc =>
    intro h
    obtain ⟨s', hs, rfl⟩ := Option.map_eq_some_iff.mp h
    obtain ⟨hsecond, hc⟩ := Bool.and_eq_true_iff.mp hbc
    have hb := isTail_of_isSecond hsecond
    have hlead := between_iff.mp ha
    have hp := payload_of_isTail hb
    have hq := payload_of_isTail hc
    have hexcept := (isSecond_iff hb).mp hsecond
    obtain ⟨n, hn⟩ : ∃ n, n = ((a.toNat - 0xe0) * 64 + payload b) * 64 + payload c := ⟨_, rfl⟩
    have hwidth := width_cases n
    have hlength : 3 = width n := by omega
    rw [← hn]
    exact Or.inr ⟨n, [a, b, c], rest, s', ⟨.three ha hb hc hn, hlength, by omega, by omega⟩, rfl,
      hs, rfl⟩
  | case10 a hone b htwo c hthree d rest habcd =>
    intro h
    obtain ⟨s', hs, rfl⟩ := Option.map_eq_some_iff.mp h
    simp only [Bool.and_eq_true] at habcd
    obtain ⟨⟨⟨ha, hsecond⟩, hc⟩, hd⟩ := habcd
    have hb := isTail_of_isSecond hsecond
    have hlead := between_iff.mp ha
    have hp := payload_of_isTail hb
    have hq := payload_of_isTail hc
    have hr := payload_of_isTail hd
    have hexcept := (isSecond_iff hb).mp hsecond
    obtain ⟨n, hn⟩ : ∃ n, n = (((a.toNat - 0xf0) * 64 + payload b) * 64 + payload c) * 64
        + payload d := ⟨_, rfl⟩
    have hwidth := width_cases n
    have hlength : 4 = width n := by omega
    rw [← hn]
    exact Or.inr ⟨n, [a, b, c, d], rest, s', ⟨.four (between_iff.mpr (by omega)) hb hc hd hn,
      hlength, by omega, by omega⟩, rfl, hs, rfl⟩
  | _ =>
    intro h
    cases h

/-! ## Whole texts -/

/-- Decoding undoes encoding. -/
theorem decode_encode (s : List Char) : decode (encode s) = some s := by
  induction s with
  | nil => rw [encode, List.flatMap_nil, decode]
  | cons c s ih =>
    show decode (String.utf8EncodeChar c ++ encode s) = some (c :: s)
    rw [decode_append (isCharacter_utf8EncodeChar c), ih, Char.ofNat_toNat]
    rfl

/-- Encoding undoes decoding. -/
theorem encode_decode {bs : List UInt8} {s : List Char} (h : decode bs = some s) :
    encode s = bs := by
  induction s generalizing bs with
  | nil =>
    rcases decode_cases h with ⟨rfl, -⟩ | ⟨n, w, rest, s', -, -, -, hs⟩
    · rfl
    · cases hs
  | cons c s ih =>
    rcases decode_cases h with ⟨-, hs⟩ | ⟨n, w, rest, s', hw, rfl, hrest, hs⟩
    · cases hs
    · obtain ⟨rfl, rfl⟩ := List.cons.inj hs
      have hc := isCharacter_utf8EncodeChar (Char.ofNat n)
      rw [hw.toNat_ofNat] at hc
      show String.utf8EncodeChar (Char.ofNat n) ++ encode s = w ++ rest
      rw [hc.unique hw, ih hrest]

/-- Encodings are well-formed. -/
theorem wellFormed_encode (s : List Char) : WellFormed (encode s) := by
  refine ⟨s.map String.utf8EncodeChar, rfl, fun w hw => ?_⟩
  obtain ⟨c, -, rfl⟩ := List.mem_map.mp hw
  exact ⟨c.toNat, isCharacter_utf8EncodeChar c⟩

/-- **What is text.**  Exactly the well-formed bytes decode. -/
theorem isSome_decode_iff {bs : List UInt8} : (decode bs).isSome ↔ WellFormed bs := by
  constructor
  · intro h
    obtain ⟨s, hs⟩ := Option.isSome_iff_exists.mp h
    rw [← encode_decode hs]
    exact wellFormed_encode s
  · rintro ⟨ws, rfl, hws⟩
    induction ws with
    | nil => rfl
    | cons w ws ih =>
      obtain ⟨n, hw⟩ := hws w List.mem_cons_self
      rw [List.flatten_cons, decode_append hw, Option.isSome_map]
      exact ih fun v hv => hws v (List.mem_cons_of_mem w hv)

end TaggedSql.Text.Utf8
