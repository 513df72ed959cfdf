/-
  Texts with lone surrogates.

  A surrogate is half of a pair that stands for one character; alone it stands for none, and a text
  that holds one is no sequence of characters and has no UTF-8 bytes.  Such a text is kept cut at
  its first surrogate, so that there is exactly one form of it.

  A quoted literal spells a surrogate by number; where characters are needed, each surrogate gives
  way to the replacement character.
-/
import TaggedSql.Text.Literal

namespace TaggedSql.Text

/-- A surrogate, by its number among them; the first is `0xd800`. -/
abbrev Surrogate := Fin 2048

/-- The code of a surrogate. -/
def Surrogate.code (u : Surrogate) : Nat := 0xd800 + u.val

/-- A text with a lone surrogate: the characters in front of the first one, and what follows it. -/
structure IllFormed where
  front : List Char
  surrogate : Surrogate
  back : List (Char ⊕ Surrogate)
  deriving DecidableEq, Repr

namespace IllFormed

/-- The characters and surrogates of the text. -/
def units (s : IllFormed) : List (Char ⊕ Surrogate) :=
  s.front.map .inl ++ .inr s.surrogate :: s.back

/-- The codes of the text, by which texts are ordered. -/
def codes (s : IllFormed) : List Nat := s.units.map (Sum.elim Char.toNat Surrogate.code)

/-- The text with the replacement character in place of each surrogate. -/
def replaced (s : IllFormed) : String :=
  String.ofList (s.units.map (Sum.elim id fun _ => '\ufffd'))

/-- The text as a quoted literal. -/
def quoted (s : IllFormed) : String :=
  let q := enclosingQuote (s.units.filterMap Sum.getLeft?)
  let escaped : Char ⊕ Surrogate → List Char :=
    Sum.elim (escapedChar q) fun u => '\\' :: 'u' :: hex 4 u.code
  String.ofList (q :: s.units.flatMap escaped ++ [q])

end IllFormed

end TaggedSql.Text
