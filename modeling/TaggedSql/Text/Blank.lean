/-
  Blank characters, and the two things done with them: trimming the ends of a text and splitting
  it into words.

  Two classes differ by four characters.  `isSpace` is the Unicode property White_Space, which
  trimming uses; `isBlank`, which word splitting uses, also holds the information separators
  28 to 31.
-/

namespace TaggedSql.Text

/-- The Unicode property White_Space. -/
def isSpace (c : Char) : Bool :=
  let n := c.toNat
  decide (9 ≤ n ∧ n ≤ 13) || n == 32 || n == 0x85 || n == 0xa0 || n == 0x1680 ||
    decide (0x2000 ≤ n ∧ n ≤ 0x200a) || n == 0x2028 || n == 0x2029 || n == 0x202f ||
    n == 0x205f || n == 0x3000

/-- White space and the four information separators: what stands between words. -/
def isBlank (c : Char) : Bool :=
  isSpace c || decide (28 ≤ c.toNat ∧ c.toNat ≤ 31)

/-- A text without the white space at its two ends. -/
def trim (s : List Char) : List Char :=
  ((s.dropWhile isSpace).reverse.dropWhile isSpace).reverse

/-- The maximal runs of characters that are not blank, in order. -/
def words (s : List Char) : List (List Char) :=
  (s.splitOnP isBlank).filter (!·.isEmpty)

/-- A text with its words set one space apart and no blanks at its ends. -/
def respaced (s : String) : String :=
  " ".intercalate ((words s.toList).map String.ofList)

end TaggedSql.Text
