/-
  Quoted literals: how a message shows a text or a byte string without ambiguity.

  A literal stands in single quotes, or in double quotes when the content has a single quote and
  no double one.  Inside, the backslash and the enclosing quote are escaped, newline, return and
  tab have their short escapes, a printable character stands for itself, and every other one is
  spelled by number in the shortest of the forms `\xNN`, `\uNNNN` and `\UNNNNNNNN`.

  Byte strings follow the same rule over single bytes, where only ASCII counts as printable, and
  are introduced by the letter `b`.  In a growable byte string a single quote is escaped whichever
  quote encloses the literal.
-/
import TaggedSql.Text.Printable

namespace TaggedSql.Text

/-- A number in lower-case hexadecimal with at least `width` digits. -/
def hex (width n : Nat) : List Char :=
  let ds := Nat.toDigits 16 n
  List.replicate (width - ds.length) '0' ++ ds

/-- The quote that encloses a literal with this content. -/
def enclosingQuote (s : List Char) : Char :=
  if s.contains '\'' && !s.contains '"' then '"' else '\''

/-- One character of a literal enclosed in `quote`, as it is written. -/
def escapedChar (quote c : Char) : List Char :=
  if c = quote || c = '\\' then ['\\', c]
  else if c = '\n' then ['\\', 'n']
  else if c = '\r' then ['\\', 'r']
  else if c = '\t' then ['\\', 't']
  else if isPrintable c then [c]
  else if c.toNat < 0x100 then '\\' :: 'x' :: hex 2 c.toNat
  else if c.toNat < 0x10000 then '\\' :: 'u' :: hex 4 c.toNat
  else '\\' :: 'U' :: hex 8 c.toNat

/-- A text as a quoted literal. -/
def quoted (s : String) : String :=
  let q := enclosingQuote s.toList
  String.ofList (q :: s.toList.flatMap (escapedChar q) ++ [q])

/-- One byte of a literal enclosed in `quote`, as it is written. -/
def escapedByte (quote : Char) (b : UInt8) : List Char :=
  let c := Char.ofNat b.toNat
  if b.toNat < 128 then escapedChar quote c else '\\' :: 'x' :: hex 2 b.toNat

/-- The quote that encloses a literal with these bytes. -/
def enclosingQuoteOfBytes (bs : List UInt8) : Char :=
  enclosingQuote (bs.map fun b => Char.ofNat b.toNat)

/-- A byte string as a quoted literal. -/
def quotedBytes (bs : List UInt8) : String :=
  let q := enclosingQuoteOfBytes bs
  String.ofList ('b' :: q :: bs.flatMap (escapedByte q) ++ [q])

/-- A growable byte string as a quoted literal; every single quote in it is escaped. -/
def quotedBuffer (bs : List UInt8) : String :=
  let q := enclosingQuoteOfBytes bs
  String.ofList ('b' :: q :: bs.flatMap (escapedByte '\'') ++ [q])

end TaggedSql.Text
