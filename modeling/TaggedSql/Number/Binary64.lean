/-
  Binary doubles as exact numbers.

  A finite double is `± significand · 2 ^ exponent` with a significand below `2 ^ 53`; it is kept
  in the one form in which the significand has all 53 bits or the exponent is the least one,
  `-1074`, so equal doubles (zeros of both signs apart) are equal values.  All arithmetic is on
  integers: `ofRatio` rounds a quotient to the nearest double, ties to the even significand, and
  the readers of decimal text and of integers go through it.

  `split?` takes a double apart at the integer below it, `times` multiplies it by a natural number
  and `nearestInt?` rounds it to an integer.
-/
import TaggedSql.Number.Decimal

namespace TaggedSql.Number

/-- An IEEE 754 double. -/
inductive Binary64 where
  | finite (negative : Bool) (significand : Nat) (exponent : Int)
  | infinite (negative : Bool)
  | nan
  deriving DecidableEq, Repr

namespace Binary64

/-- The least exponent of a finite double. -/
def minExponent : Int := -1074

/-- The greatest exponent of a finite double. -/
def maxExponent : Int := 971

/-- A zero. -/
def zero (negative : Bool) : Binary64 := .finite negative 0 minExponent

/-- A quotient rounded to the nearest integer, a tie to the even one. -/
def roundQuotient (num den : Nat) : Nat :=
  let q := num / den
  let r := num % den
  if 2 * r < den then q
  else if den < 2 * r then q + 1
  else if q % 2 = 0 then q else q + 1

/-- The exponent of the leading bit of `num / den`: the greatest `k` with `2 ^ k ≤ num / den`. -/
def leadingBit (num den : Nat) : Int :=
  let k : Int := (num.log2 : Int) - den.log2
  let reached := if 0 ≤ k then decide (den * Nat.pow 2 k.toNat ≤ num)
    else decide (den ≤ num * Nat.pow 2 (-k).toNat)
  if reached then k else k - 1

/-- The double nearest to `± num / den`. -/
def ofRatio (negative : Bool) (num den : Nat) : Binary64 :=
  if num = 0 then zero negative
  else
    let e := max (leadingBit num den - 52) minExponent
    let m := if 0 ≤ e then roundQuotient num (den * Nat.pow 2 e.toNat)
      else roundQuotient (num * Nat.pow 2 (-e).toNat) den
    let r : Nat × Int := if m = Nat.pow 2 53 then (Nat.pow 2 52, e + 1) else (m, e)
    if maxExponent < r.2 then .infinite negative
    else if r.1 = 0 then zero negative
    else .finite negative r.1 r.2

/-- The double nearest to an integer. -/
def ofInt (n : Int) : Binary64 := ofRatio (decide (n < 0)) n.natAbs 1

/-- The double nearest to a decimal fraction.  Beyond 400 places on either side the answer is
    known without spelling the power of ten out. -/
def ofScientific (x : Scientific) : Binary64 :=
  let lead := x.exponent + Scientific.digitCount x.coefficient
  if x.coefficient = 0 || decide (lead < -400) then zero x.negative
  else if 400 < lead then .infinite x.negative
  else if 0 ≤ x.exponent then ofRatio x.negative (x.coefficient * Nat.pow 10 x.exponent.toNat) 1
  else ofRatio x.negative x.coefficient (Nat.pow 10 (-x.exponent).toNat)

/-- A finite double as a decimal fraction, exactly. -/
def toScientific? : Binary64 → Option Scientific
  | .finite negative m e =>
    some (if 0 ≤ e then ⟨negative, m * Nat.pow 2 e.toNat, 0⟩
      else ⟨negative, m * Nat.pow 5 (-e).toNat, e⟩)
  | _ => none

/-- A finite double in two parts: the greatest integer that is not above it, and the double
    nearest to what is left, which is 1 when too little is missing from the next integer. -/
def split? : Binary64 → Option (Int × Binary64)
  | .finite negative m e =>
    let n : Int := if negative then -(m : Int) else m
    if 0 ≤ e then some (n * Nat.pow 2 e.toNat, zero false)
    else
      let unit := Nat.pow 2 (-e).toNat
      let whole := Int.fdiv n unit
      some (whole, ofRatio false (n - whole * unit).toNat unit)
  | _ => none

/-- The double nearest to the product of a double and a natural number.  Infinity stays what it
    is. -/
def times (k : Nat) : Binary64 → Binary64
  | .finite negative m e =>
    if 0 ≤ e then ofRatio negative (k * m * Nat.pow 2 e.toNat) 1
    else ofRatio negative (k * m) (Nat.pow 2 (-e).toNat)
  | x => x

/-- The integer nearest to a finite double; a half goes away from zero. -/
def nearestInt? : Binary64 → Option Int
  | .finite negative m e =>
    let n : Nat :=
      if 0 ≤ e then m * Nat.pow 2 e.toNat
      else
        let unit := Nat.pow 2 (-e).toNat
        (2 * m + unit) / (2 * unit)
    some (if negative then -(n : Int) else n)
  | _ => none

/-- The double nearest to a decimal; a not-a-number gives one. -/
def ofDecimal : Decimal → Binary64
  | .finite x => ofScientific x
  | .infinite negative => .infinite negative
  | .nan .. => .nan

/-- The double that a text spells: a sign, then digits with an optional point and exponent, or
    one of the words `inf`, `infinity` and `nan` in any case. -/
def read? (s : List Char) : Option Binary64 :=
  let signed := Decimal.readSign s
  let word := signed.2.map Char.toLower
  if word = "inf".toList || word = "infinity".toList then some (.infinite signed.1)
  else if word = "nan".toList then some .nan
  else (Decimal.readUnsigned? signed.1 signed.2).map ofScientific

end Binary64

end TaggedSql.Number
