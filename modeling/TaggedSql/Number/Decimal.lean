/-
  Arbitrary-precision decimals, which keep the exponent they were written with.

  A decimal is a scientific form taken at its word (`1.10` and `1.1` are equal but written
  differently), an infinity or a not-a-number.  `text` writes it positionally as long as no zeros
  have to be invented on the right and at most six stand between the point and the first digit;
  otherwise one digit stands before the point and an exponent follows the letter `E`.
-/
import TaggedSql.Number.Scientific

namespace TaggedSql.Number

/-- A decimal number. -/
inductive Decimal where
  | finite (value : Scientific)
  | infinite (negative : Bool)
  | nan (negative signaling : Bool) (payload : List Char)
  deriving DecidableEq, Repr

namespace Decimal

/-- The sign of a number in front of its digits. -/
def sign (negative : Bool) : List Char := if negative then ['-'] else []

/-- The digits of a finite decimal without its sign. -/
def unsigned (coefficient : Nat) (exponent : Int) : List Char :=
  let ds := Nat.toDigits 10 coefficient
  let left := exponent + ds.length
  if exponent ≤ 0 ∧ -6 < left then
    if left ≤ 0 then '0' :: '.' :: List.replicate (-left).toNat '0' ++ ds
    else if exponent = 0 then ds
    else ds.take left.toNat ++ '.' :: ds.drop left.toNat
  else
    let adjusted := left - 1
    let mantissa := match ds with
      | d :: e :: rest => d :: '.' :: e :: rest
      | short => short
    mantissa ++ 'E' :: (if adjusted < 0 then '-' else '+') :: Nat.toDigits 10 adjusted.natAbs

/-- A decimal as it is written. -/
def text : Decimal → String
  | .finite x => String.ofList (sign x.negative ++ unsigned x.coefficient x.exponent)
  | .infinite negative => String.ofList (sign negative) ++ "Infinity"
  | .nan negative signaling payload =>
    String.ofList (sign negative) ++ (if signaling then "sNaN" else "NaN") ++ String.ofList payload

/-- The power of ten that an optional exponent spells: `E`, an optional sign and digits. -/
def readExponent? : List Char → Option Int
  | [] => some 0
  | c :: rest =>
    if c = 'e' || c = 'E' then
      match rest with
      | '-' :: ds => (read? ds).map fun n => -(n : Int)
      | '+' :: ds => (read? ds).map Int.ofNat
      | ds => (read? ds).map Int.ofNat
    else none

/-- An unsigned number: digits with an optional point among them and an optional exponent. -/
def readUnsigned? (negative : Bool) (s : List Char) : Option Scientific :=
  let whole := s.takeWhile Char.isDigit
  let rest := s.dropWhile Char.isDigit
  let part := match rest with
    | '.' :: r => (r.takeWhile Char.isDigit, r.dropWhile Char.isDigit)
    | r => ([], r)
  match read? (whole ++ part.1), readExponent? part.2 with
  | some n, some e => some ⟨negative, n, e - part.1.length⟩
  | _, _ => none

/-- An optional sign, and what follows it. -/
def readSign : List Char → Bool × List Char
  | '-' :: r => (true, r)
  | '+' :: r => (false, r)
  | r => (false, r)

/-- The decimal that a text spells. -/
def ofString? (s : String) : Option Decimal :=
  let signed := readSign s.toList
  let word := signed.2.map Char.toLower
  let special (signaling : Bool) (payload : List Char) : Option Decimal :=
    if payload.all Char.isDigit then some (.nan signed.1 signaling payload) else none
  if word = "inf".toList || word = "infinity".toList then some (.infinite signed.1)
  else if word.take 3 = "nan".toList then special false (word.drop 3)
  else if word.take 4 = "snan".toList then special true (word.drop 4)
  else (readUnsigned? signed.1 signed.2).map .finite

end Decimal

end TaggedSql.Number
