/-
  The order of numbers as texts.

  1. **One width** — digits of one length compare, as texts, as the numbers they spell, whatever
     follows them (`append_lt_of_ofDigitChars_lt`).  So texts that begin with two numbers of one
     width are ordered by the numbers first and by the rest only when these are equal
     (`padded_append_lt`).

  2. **Any width** — without padding this holds for numbers with as many digits
     (`ofInt_lt_ofInt`).  In front of a separator below every digit, the texts of two numbers decide
     the order, whatever their lengths (`append_cons_lt_append_cons_iff`).
-/
import Mathlib.Data.String.Basic
import TaggedSql.Proofs.Number.Padded

namespace TaggedSql.Number

/-! ## One width -/

/-- The first digit counts for as many places as there are behind it. -/
theorem ofDigitChars_cons_zero (c : Char) (ds : List Char) :
    Nat.ofDigitChars 10 (c :: ds) 0 =
      (c.toNat - '0'.toNat) * Nat.pow 10 ds.length + Nat.ofDigitChars 10 ds 0 := by
  rw [Nat.ofDigitChars_cons, Nat.ofDigitChars_eq_ofDigitChars_zero, Nat.mul_zero, Nat.zero_add,
    Nat.mul_comm]
  rfl

/-- So many digits spell a number below so many powers of ten. -/
theorem ofDigitChars_lt {ds : List Char} (h : ∀ c ∈ ds, c.isDigit) :
    Nat.ofDigitChars 10 ds 0 < Nat.pow 10 ds.length := by
  induction ds with
  | nil => decide
  | cons c ds ih =>
    obtain ⟨hc, hds⟩ := List.forall_mem_cons.mp h
    have hrest := ih hds
    have hfirst : c.toNat - '0'.toNat ≤ 9 :=
      Nat.sub_le_of_le_add (Char.isDigit_iff_toNat.mp hc).2
    have hplaces := Nat.mul_le_mul_right (Nat.pow 10 ds.length) hfirst
    rw [ofDigitChars_cons_zero]
    show _ < Nat.pow 10 ds.length * 10
    omega

/-- **Digits of one length compare as the numbers they spell**, whatever follows them. -/
theorem append_lt_of_ofDigitChars_lt {ds es : List Char} (hlength : ds.length = es.length)
    (hds : ∀ c ∈ ds, c.isDigit) (hes : ∀ c ∈ es, c.isDigit)
    (hlt : Nat.ofDigitChars 10 ds 0 < Nat.ofDigitChars 10 es 0) (s s' : List Char) :
    ds ++ s < es ++ s' := by
  induction ds generalizing es with
  | nil =>
    obtain rfl : es = [] := List.length_eq_zero_iff.mp hlength.symm
    exact absurd hlt (Nat.lt_irrefl _)
  | cons c ds ih =>
    obtain ⟨e, es, rfl⟩ := List.exists_cons_of_length_pos (hlength ▸ Nat.succ_pos _ : 0 < es.length)
    obtain ⟨-, hds'⟩ := List.forall_mem_cons.mp hds
    obtain ⟨he, hes'⟩ := List.forall_mem_cons.mp hes
    have htail : ds.length = es.length := Nat.succ.inj hlength
    rw [ofDigitChars_cons_zero, ofDigitChars_cons_zero, htail] at hlt
    rw [List.cons_append, List.cons_append, List.cons_lt_cons_iff]
    rcases lt_trichotomy c e with hlow | rfl | hhigh
    · exact .inl hlow
    · exact .inr ⟨rfl, ih htail hds' hes' (Nat.lt_of_add_lt_add_left hlt)⟩
    · -- a greater first digit outweighs whatever stands behind the smaller one
      have hrest := ofDigitChars_lt hes'
      have hdigit : e.toNat - '0'.toNat + 1 ≤ c.toNat - '0'.toNat :=
        Nat.sub_lt_sub_right (Char.isDigit_iff_toNat.mp he).1 hhigh
      have hplaces := Nat.mul_le_mul_right (Nat.pow 10 es.length) hdigit
      rw [Nat.succ_mul] at hplaces
      omega

/-- **Texts that begin with two numbers of one width** are ordered by the numbers, and by the rest
    when these are equal. -/
theorem padded_append_lt {width m n : Nat} (hw : 0 < width) (hm : m < Nat.pow 10 width)
    (hn : n < Nat.pow 10 width) {s s' : List Char} (h : m < n ∨ m = n ∧ s < s') :
    (padded width m).toList ++ s < (padded width n).toList ++ s' := by
  rcases h with hlt | ⟨rfl, hlt⟩
  · refine append_lt_of_ofDigitChars_lt ((length_padded hw hm).trans (length_padded hw hn).symm)
      (fun c hc => isDigit_of_mem_padded hc) (fun c hc => isDigit_of_mem_padded hc) ?_ s s'
    rwa [ofDigitChars_padded, ofDigitChars_padded]
  · exact List.append_left_lt hlt

/-! ## Any width -/

theorem toList_ofInt_natCast (n : Nat) : (ofInt n).toList = Nat.toDigits 10 n :=
  toList_ofInt (Int.natCast_nonneg n)

theorem ofInt_injective {m n : Nat} (h : (ofInt m).toList = (ofInt n).toList) : m = n := by
  rw [toList_ofInt_natCast, toList_ofInt_natCast] at h
  rw [← Nat.ofDigitChars_ten_toDigits (n := m), h, Nat.ofDigitChars_ten_toDigits]

/-- Numbers with as many digits are ordered as their texts are. -/
theorem ofInt_lt_ofInt {m n : Nat}
    (hlength : (Nat.toDigits 10 m).length = (Nat.toDigits 10 n).length) (h : m < n) :
    ofInt m < ofInt n := by
  rw [String.lt_iff_toList_lt, toList_ofInt_natCast, toList_ofInt_natCast,
    ← List.append_nil (Nat.toDigits 10 m), ← List.append_nil (Nat.toDigits 10 n)]
  refine append_lt_of_ofDigitChars_lt hlength
    (fun c hc => Nat.isDigit_of_mem_toDigits (by decide) (by decide) hc)
    (fun c hc => Nat.isDigit_of_mem_toDigits (by decide) (by decide) hc) ?_ [] []
  rwa [Nat.ofDigitChars_ten_toDigits, Nat.ofDigitChars_ten_toDigits]

/-- A number has a digit more than the greatest power of ten that it reaches. -/
theorem length_toDigits_eq {k n : Nat} (hk : 0 < k) (hlow : Nat.pow 10 k ≤ n)
    (hhigh : n < Nat.pow 10 (k + 1)) :
    (Nat.toDigits 10 n).length = k + 1 := by
  have hmost : (Nat.toDigits 10 n).length ≤ k + 1 :=
    (Nat.length_toDigits_le_iff (by decide) (Nat.succ_pos k)).mpr hhigh
  have hleast : ¬(Nat.toDigits 10 n).length ≤ k := fun h =>
    Nat.not_lt.mpr hlow ((Nat.length_toDigits_le_iff (by decide) hk).mp h)
  omega

/-- In front of a character below every digit, different runs of digits decide the order. -/
theorem append_cons_lt_append_cons_iff {ds es : List Char} {c : Char} (hc : c < '0')
    (hds : ∀ d ∈ ds, d.isDigit) (hes : ∀ e ∈ es, e.isDigit) (hne : ds ≠ es) (s s' : List Char) :
    ds ++ c :: s < es ++ c :: s' ↔ ds < es := by
  have hbelow : ∀ {d : Char}, d.isDigit → c < d := fun hd =>
    hc.trans_le (Char.isDigit_iff_toNat.mp hd).1
  induction ds generalizing es with
  | nil =>
    cases es with
    | nil => exact absurd rfl hne
    | cons e es =>
      exact iff_of_true (List.cons_lt_cons_iff.mpr (.inl (hbelow (hes e List.mem_cons_self))))
        (List.nil_lt_cons e es)
  | cons d ds ih =>
    cases es with
    | nil =>
      have hd := hbelow (hds d List.mem_cons_self)
      refine iff_of_false (fun h => ?_) (List.not_lt_nil _)
      rcases List.cons_lt_cons_iff.mp h with hlt | ⟨heq, -⟩
      · exact lt_asymm hd hlt
      · exact hd.ne' heq
    | cons e es =>
      rw [List.cons_append, List.cons_append, List.cons_lt_cons_iff, List.cons_lt_cons_iff]
      refine or_congr_right (and_congr_right fun heq => ?_)
      exact ih (fun x hx => hds x (List.mem_cons_of_mem d hx))
        (fun x hx => hes x (List.mem_cons_of_mem e hx)) fun htail => hne (by rw [heq, htail])

end TaggedSql.Number
