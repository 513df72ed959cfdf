/-
  Decimal fractions in scientific form: a sign, a whole coefficient and a power of ten.

  The form is exact and holds every finite number of the library: integers, decimals and binary
  doubles alike.  One number has many forms (`10 · 10^0`, `1 · 10^1`), so numbers are compared
  through `canonical`, the form whose coefficient has no trailing zero.
-/
import TaggedSql.Number.Digits

namespace TaggedSql.Number

/-- The number `± coefficient · 10 ^ exponent`. -/
structure Scientific where
  negative : Bool
  coefficient : Nat
  exponent : Int
  deriving DecidableEq, Repr

namespace Scientific

/-- An integer in scientific form. -/
def ofInt (n : Int) : Scientific := ⟨decide (n < 0), n.natAbs, 0⟩

/-- Moves the trailing zeros of a coefficient into the exponent. -/
def stripZeros (coefficient : Nat) (exponent : Int) : Nat × Int :=
  if h : coefficient ≠ 0 ∧ coefficient % 10 = 0 then
    stripZeros (coefficient / 10) (exponent + 1)
  else (coefficient, exponent)
termination_by coefficient
decreasing_by omega

/-- The form without trailing zeros; zero has the exponent 0 and no sign. -/
def canonical (x : Scientific) : Scientific :=
  if x.coefficient = 0 then ⟨false, 0, 0⟩
  else
    let s := stripZeros x.coefficient x.exponent
    ⟨x.negative, s.1, s.2⟩

/-- Whether two forms denote one number. -/
def same (x y : Scientific) : Bool := decide (x.canonical = y.canonical)

/-- The integer that the form denotes, when it denotes one. -/
def toInt? (x : Scientific) : Option Int :=
  let c := x.canonical
  if c.exponent < 0 then none
  else
    let n : Nat := c.coefficient * Nat.pow 10 c.exponent.toNat
    some (if c.negative then -(n : Int) else n)

/-- The number of digits of a coefficient. -/
def digitCount (n : Nat) : Nat := (Nat.toDigits 10 n).length

/-- Whether the magnitude of `x` is below that of `y`, both canonical and not zero.  The position
    of the leading digit decides; only where it agrees are the digits compared, over the smaller
    of the two exponents. -/
def magnitudeLt (x y : Scientific) : Bool :=
  let px := x.exponent + digitCount x.coefficient
  let py := y.exponent + digitCount y.coefficient
  if px ≠ py then decide (px < py)
  else
    let e := min x.exponent y.exponent
    decide (x.coefficient * Nat.pow 10 (x.exponent - e).toNat <
      y.coefficient * Nat.pow 10 (y.exponent - e).toNat)

/-- Whether `x` denotes a smaller number than `y`. -/
def lt (x y : Scientific) : Bool :=
  let a := x.canonical
  let b := y.canonical
  if a.coefficient = 0 then decide (b.coefficient ≠ 0) && !b.negative
  else if b.coefficient = 0 then a.negative
  else if a.negative then !b.negative || magnitudeLt b a
  else !b.negative && magnitudeLt a b

end Scientific

end TaggedSql.Number
