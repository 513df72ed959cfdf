/-
  Decimal digits: reading a run of them and writing a number with a fixed width.

  `read?` accepts the non-empty runs of ASCII digits and nothing else; `padded` fills up with
  zeros on the left and never cuts a number short.

  Integers are converted to text and back up to a length only: `isWritable` says whether an integer
  is within it.
-/

namespace TaggedSql.Number

/-- The number that a non-empty run of digits spells. -/
def read? (ds : List Char) : Option Nat :=
  if ds.isEmpty || !ds.all Char.isDigit then none else some (Nat.ofDigitChars 10 ds 0)

/-- A number in decimal with at least `width` digits. -/
def padded (width n : Nat) : String :=
  let ds := Nat.toDigits 10 n
  String.ofList (List.replicate (width - ds.length) '0' ++ ds)

/-- An integer in decimal, with a sign only when it is negative. -/
def ofInt (n : Int) : String :=
  String.ofList ((if n < 0 then ['-'] else []) ++ Nat.toDigits 10 n.natAbs)

/-- The most digits of an integer that is converted to text or back. -/
def maxDigits : Nat := 4300

/-- Whether an integer is short enough to be written; its sign does not count. -/
def isWritable (n : Int) : Bool := decide ((Nat.toDigits 10 n.natAbs).length ≤ maxDigits)

/-- Reading undoes writing. -/
theorem read?_toDigits (n : Nat) : read? (Nat.toDigits 10 n) = some n := by
  have h : (Nat.toDigits 10 n).all Char.isDigit = true := by
    rw [List.all_eq_true]
    exact fun c hc => Nat.isDigit_of_mem_toDigits (by decide) (by decide) hc
  have h' : (Nat.toDigits 10 n).isEmpty = false := by
    simp
  simp [read?, h, h']

theorem toList_ofInt {n : Int} (h : 0 ≤ n) : (ofInt n).toList = Nat.toDigits 10 n.toNat := by
  have hneg : ¬n < 0 := by omega
  have habs : n.natAbs = n.toNat := by omega
  rw [ofInt, if_neg hneg, List.nil_append, String.toList_ofList, habs]

theorem isDigit_of_mem_ofInt {n : Int} (h : 0 ≤ n) {c : Char} (hc : c ∈ (ofInt n).toList) :
    c.isDigit := by
  rw [toList_ofInt h] at hc
  exact Nat.isDigit_of_mem_toDigits (by decide) (by decide) hc

end TaggedSql.Number
