/-
  Integers that are read back from their own text.

  1. **Numerals** (`IsNumeral`, `Denotes`) — digits without a needless zero in front of them, and
     the integer that they denote, by their places, with a minus or without one.  An integer that
     is not too long is denoted by its text (`denotes_ofInt`).

  2. **Readers** (`Readers.ReadsDecimal`) — all that is asked of the reader of integers: it reads a
     numeral as what it denotes.

  3. **The standard reader** (`Readers.readsDecimal_standard`) — a numeral has no blanks around
     it, no point and no underscores, so nothing is dropped from it before it is read.
-/
import Mathlib.Data.List.TakeWhile
import TaggedSql.Coercion.Readers
import TaggedSql.Proofs.Number.Ordering

namespace TaggedSql.Coercion

open TaggedSql.Number TaggedSql.Text

/-! ## Numerals -/

/-- Whether digits are a numeral: there are some, but not too many, and no zero stands in front of
    the others. -/
structure IsNumeral (ds : List Char) : Prop where
  ne_nil : ds ≠ []
  isDigit : ∀ c ∈ ds, c.isDigit
  ne_zero_cons : ∀ c s, ds ≠ '0' :: c :: s
  length_le : ds.length ≤ maxDigits

/-- `Denotes s n`: the characters are a numeral for the integer, the digits counting by their
    places. -/
inductive Denotes : List Char → Int → Prop
  | digits {ds : List Char} (h : IsNumeral ds) : Denotes ds (Nat.ofDigitChars 10 ds 0)
  | minus {ds : List Char} (h : IsNumeral ds) :
    Denotes ('-' :: ds) (-(Nat.ofDigitChars 10 ds 0 : Int))

/-- The digits of a number are digits. -/
theorem isDigit_of_mem_toDigits {n : Nat} {c : Char} (h : c ∈ Nat.toDigits 10 n) : c.isDigit :=
  Nat.isDigit_of_mem_toDigits (by decide) (by decide) h

/-- A number of more digits than one does not begin with a zero. -/
theorem toDigits_ne_zero_cons {n : Nat} {c : Char} {ds : List Char} :
    Nat.toDigits 10 n ≠ '0' :: c :: ds := by
  intro h
  have hvalue : Nat.ofDigitChars 10 (c :: ds) 0 = n := by
    rw [← Nat.ofDigitChars_ten_toDigits (n := n), h]
    rfl
  have hdigits : ∀ d ∈ c :: ds, d.isDigit := fun d hd =>
    isDigit_of_mem_toDigits (n := n) (by rw [h]; exact List.mem_cons_of_mem _ hd)
  have hbound := ofDigitChars_lt hdigits
  have hlength := (Nat.length_toDigits_le_iff (b := 10) (n := n) (k := (c :: ds).length)
    (by decide) (Nat.succ_pos _)).mpr (hvalue ▸ hbound)
  rw [h] at hlength
  simp at hlength

/-- The digits of a number that is short enough are a numeral. -/
theorem isNumeral_toDigits {n : Nat} (h : (Nat.toDigits 10 n).length ≤ maxDigits) :
    IsNumeral (Nat.toDigits 10 n) where
  ne_nil := Nat.toDigits_ne_nil
  isDigit _ := isDigit_of_mem_toDigits
  ne_zero_cons _ _ := toDigits_ne_zero_cons
  length_le := h

/-- **The text of an integer** denotes that integer. -/
theorem denotes_ofInt {n : Int} (h : isWritable n) : Denotes (ofInt n).toList n := by
  have hnumeral : IsNumeral (Nat.toDigits 10 n.natAbs) := isNumeral_toDigits (of_decide_eq_true h)
  have hvalue : Nat.ofDigitChars 10 (Nat.toDigits 10 n.natAbs) 0 = n.natAbs :=
    Nat.ofDigitChars_ten_toDigits
  by_cases hn : n < 0
  · have htext : (ofInt n).toList = '-' :: Nat.toDigits 10 n.natAbs := by
      rw [ofInt, if_pos hn, String.toList_ofList]
      rfl
    have habs : -(n.natAbs : Int) = n := by omega
    have hdenotes := Denotes.minus hnumeral
    rwa [hvalue, habs, ← htext] at hdenotes
  · have htext : (ofInt n).toList = Nat.toDigits 10 n.natAbs := by
      rw [ofInt, if_neg hn, List.nil_append, String.toList_ofList]
    have habs : (n.natAbs : Int) = n := by omega
    have hdenotes := Denotes.digits hnumeral
    rwa [hvalue, habs, ← htext] at hdenotes

/-! ## Readers -/

/-- What is asked of the reader of integers: a text that is a numeral is read as the integer that it
    denotes. -/
structure Readers.ReadsDecimal (r : Readers) : Prop where
  int : ∀ {s : String} {n : Int}, Denotes s.toList n → r.int (.text s) = some (.int n)

/-! ## The standard reader -/

/-- A text without white space stays as it is. -/
theorem trim_eq_self {s : List Char} (h : ∀ c ∈ s, isSpace c = false) : trim s = s := by
  have hself : ∀ t : List Char, (∀ c ∈ t, isSpace c = false) → t.dropWhile isSpace = t := by
    intro t ht
    cases t with
    | nil => rfl
    | cons c t => rw [List.dropWhile_cons_of_neg (by rw [ht c List.mem_cons_self]; decide)]
  have hback : s.reverse.dropWhile isSpace = s.reverse :=
    hself _ fun c hc => h c (List.mem_reverse.mp hc)
  rw [trim, hself s h, hback, List.reverse_reverse]

theorem isSpace_of_isDigit {c : Char} (h : c.isDigit) : isSpace c = false := by
  have hc : 48 ≤ c.toNat ∧ c.toNat ≤ 57 := Char.isDigit_iff_toNat.mp h
  simp [isSpace]
  omega

/-- A digit is neither a sign nor a point nor an underscore. -/
theorem ne_of_isDigit {c d : Char} (h : c.isDigit) (hd : d.isDigit = false) : c ≠ d := by
  rintro rfl
  rw [h] at hd
  cases hd

namespace IsNumeral

variable {ds : List Char}

/-- A numeral does not begin with a character that is no digit. -/
theorem head_ne (h : IsNumeral ds) {c : Char} (hc : c.isDigit = false) (s : List Char) :
    ds ≠ c :: s := by
  rintro rfl
  have := h.isDigit c List.mem_cons_self
  rw [hc] at this
  cases this

/-- Nothing is dropped from a numeral. -/
theorem plainInt?_eq (h : IsNumeral ds) : plainInt? ds = some ds := by
  have hzeros : dropZeros? ds = some ds := by
    cases ds with
    | nil => exact absurd rfl h.ne_nil
    | cons c ds =>
      by_cases hc : c = '0'
      · subst hc
        cases ds with
        | nil => rfl
        | cons d ds => exact absurd rfl (h.ne_zero_cons d ds)
      · rw [dropZeros?, if_neg hc, if_pos]
        rw [h.isDigit c List.mem_cons_self]
        rfl
  have hplaces : dropPlaces ds = ds := by
    have hpoint : ds.dropWhile (· != '.') = [] := by
      rw [List.dropWhile_eq_nil_iff]
      intro c hc
      rw [bne_iff_ne]
      exact ne_of_isDigit (h.isDigit c hc) rfl
    rw [dropPlaces, hpoint]
  have hunderscores : dropUnderscores ds = ds := by
    have hfilter : ds.filter (· != '_') = ds := by
      rw [List.filter_eq_self]
      intro c hc
      rw [bne_iff_ne]
      exact ne_of_isDigit (h.isDigit c hc) rfl
    rw [dropUnderscores, hfilter, ite_self]
  rw [plainInt?, hzeros, Option.map_some, hplaces, hunderscores]

theorem readPlainNat?_eq (h : IsNumeral ds) :
    readPlainNat? ds = some (Nat.ofDigitChars 10 ds 0) := by
  have hread : read? ds = some (Nat.ofDigitChars 10 ds 0) := by
    have hall : ds.all Char.isDigit := List.all_eq_true.mpr h.isDigit
    rw [read?, hall, List.isEmpty_eq_false_iff.mpr h.ne_nil]
    rfl
  unfold readPlainNat?
  split
  · next c s => exact absurd rfl (h.ne_zero_cons c s)
  · rw [if_neg (Nat.not_lt.mpr h.length_le), hread]

end IsNumeral

/-- A numeral is read as the integer that it denotes. -/
theorem readIntText?_of_denotes {s : List Char} {n : Int} (h : Denotes s n) :
    readIntText? s = some n := by
  cases h with
  | digits h =>
    have htrim : trim s = s := trim_eq_self fun c hc => isSpace_of_isDigit (h.isDigit c hc)
    have hread : readIntText? s = readPlainInt? s := by
      unfold readIntText?
      rw [htrim]
      split
      · exact absurd rfl (h.head_ne rfl _)
      · exact absurd rfl (h.head_ne rfl _)
      · exact absurd rfl (h.head_ne rfl _)
      · rw [h.plainInt?_eq, Option.bind_some]
    rw [hread]
    unfold readPlainInt?
    split
    · exact absurd rfl (h.head_ne rfl _)
    · rw [h.readPlainNat?_eq]
      rfl
  | @minus ds h =>
    have htrim : trim ('-' :: ds) = '-' :: ds := by
      refine trim_eq_self fun c hc => ?_
      rcases List.mem_cons.mp hc with rfl | hc
      · rfl
      · exact isSpace_of_isDigit (h.isDigit c hc)
    simp only [readIntText?, htrim, h.plainInt?_eq, Option.bind_some, readPlainInt?,
      h.readPlainNat?_eq]
    rfl

/-- **The standard reader** reads numerals as what they denote. -/
theorem Readers.readsDecimal_standard : Readers.standard.ReadsDecimal where
  int h := by
    show ((readIntText? _).map Value.int) = _
    rw [readIntText?_of_denotes h, Option.map_some]

end TaggedSql.Coercion
