/-
  The shortest decimal that reads back as a given double, and its text.

  The doubles around a value leave it an interval of reals that round to it, ends included when
  its significand is even.  For 1, 2, ..., 17 digits the two neighbours of the value on the grid
  of that many digits are tried; the first grid with a neighbour inside the interval wins, and of
  two such neighbours the nearer one.  Everything is an integer comparison over a common
  denominator.

  `text` writes the digits positionally while the leading one stands for at least `10 ^ -4` and
  less than `10 ^ 16`, always with a point, and with an exponent of at least two digits otherwise.
-/
import TaggedSql.Number.Binary64

namespace TaggedSql.Number.Binary64

/-- A positive double with the reals that round to it, over one denominator: the value is
    `value / den`, the ends of the interval are `lower / den` and `upper / den`. -/
structure Basin where
  lower : Nat
  value : Nat
  upper : Nat
  den : Nat
  closed : Bool
  deriving Repr

/-- The basin of `m · 2 ^ e`.  Below a power of two the grid of doubles is twice as fine. -/
def basin (m : Nat) (e : Int) : Basin :=
  let below := if m = Nat.pow 2 52 ∧ minExponent < e then 4 * m - 1 else 4 * m - 2
  let shift := e - 2
  let scale := Nat.pow 2 shift.toNat
  ⟨below * scale, 4 * m * scale, (4 * m + 2) * scale, Nat.pow 2 (-shift).toNat, m % 2 == 0⟩

/-- Whether `num / den` lies in the basin, both over the basin's denominator times `den`. -/
def Basin.holds (b : Basin) (num den : Nat) : Bool :=
  let x := num * b.den
  if b.closed then decide (b.lower * den ≤ x) && decide (x ≤ b.upper * den)
  else decide (b.lower * den < x) && decide (x < b.upper * den)

/-- The power of ten of the leading digit of `num / den`, found by correcting an estimate. -/
def leadingPower (num den : Nat) : Int :=
  let k : Int := (Scientific.digitCount num : Int) - Scientific.digitCount den
  let reached := if 0 ≤ k then decide (den * Nat.pow 10 k.toNat ≤ num)
    else decide (den ≤ num * Nat.pow 10 (-k).toNat)
  if reached then k else k - 1

/-- The multiple of `10 ^ power` in the basin that is nearest to its value, when there is one;
    of two at the same distance the even one. -/
def onGrid? (b : Basin) (power : Int) : Option Nat :=
  -- a multiple `c` of the step is the real `c * up / down`
  let up := Nat.pow 10 power.toNat
  let down := Nat.pow 10 (-power).toNat
  let below := b.value * down / (b.den * up)
  let above := below + 1
  match b.holds (below * up) down, b.holds (above * up) down with
  | true, true =>
    let gapBelow := b.value * down - below * up * b.den
    let gapAbove := above * up * b.den - b.value * down
    some (if gapBelow < gapAbove then below
      else if gapAbove < gapBelow then above
      else if below % 2 = 0 then below else above)
  | true, false => some below
  | false, true => some above
  | false, false => none

/-- The first grid of `n`, `n + 1`, ... digits that meets the basin; `fuel` more digits are
    tried, and the last grid's point below the value stands in when none meets it. -/
def firstGrid (b : Basin) (lead : Int) : Nat → Nat → Nat × Int
  | 0, n =>
    (b.value * Nat.pow 10 (n - 1 - lead).toNat / (b.den * Nat.pow 10 (lead + 1 - n).toNat),
      lead + 1 - n)
  | fuel + 1, n =>
    match onGrid? b (lead + 1 - n) with
    | some c => (c, lead + 1 - n)
    | none => firstGrid b lead fuel (n + 1)

/-- The shortest digits `c` and the power `p` such that `c · 10 ^ p` reads back as `m · 2 ^ e`,
    without trailing zeros. -/
def shortest (m : Nat) (e : Int) : Nat × Int :=
  let b := basin m e
  let r := firstGrid b (leadingPower b.value b.den) 17 1
  Scientific.stripZeros r.1 r.2

/-- The digits `ds` times `10 ^ power` in the notation of doubles. -/
def layout (ds : List Char) (power : Int) : List Char :=
  let point := power + ds.length
  if -4 < point ∧ point ≤ 16 then
    if point ≤ 0 then '0' :: '.' :: List.replicate (-point).toNat '0' ++ ds
    else if ds.length ≤ point.toNat then
      ds ++ List.replicate (point.toNat - ds.length) '0' ++ ['.', '0']
    else ds.take point.toNat ++ '.' :: ds.drop point.toNat
  else
    let e := point - 1
    let mantissa := match ds with
      | d :: f :: rest => d :: '.' :: f :: rest
      | short => short
    mantissa ++ 'e' :: (if e < 0 then '-' else '+') :: (padded 2 e.natAbs).toList

/-- A double as text. -/
def text : Binary64 → String
  | .nan => "nan"
  | .infinite negative => String.ofList (Decimal.sign negative) ++ "inf"
  | .finite negative 0 _ => String.ofList (Decimal.sign negative) ++ "0.0"
  | .finite negative m e =>
    let s := shortest m e
    String.ofList (Decimal.sign negative ++ layout (Nat.toDigits 10 s.1) s.2)

end TaggedSql.Number.Binary64
