/-
  Statements as lists of fragments.

  Between the clauses of a statement and its text stands a list of fragments, each of which says
  where its text comes from: the library's own keywords and punctuation, one part of a quoted
  name, the marker of a value, or SQL of the caller's.  `write` is the only place where fragments
  become text, and the dialect's quotes enter there.
-/
import TaggedSql.Sql.Clause
import TaggedSql.Sql.Dialect

namespace TaggedSql.Sql

/-- A piece of a statement. -/
inductive Fragment where
  | keyword (text : String)
  | part (name : String)
  | marker (m : Marker)
  | raw (sql : String)
  deriving DecidableEq, Repr

/-- The text of a fragment. -/
def Fragment.write (d : Dialect) : Fragment → String
  | .keyword text => text
  | .part name => d.quotePart name
  | .marker m => m.text
  | .raw sql => sql

/-- The text of a list of fragments. -/
def write (d : Dialect) (fs : List Fragment) : String :=
  String.ofList (fs.flatMap fun f => (f.write d).toList)

/-- Lists of fragments with a keyword between each two. -/
def separated (sep : String) : List (List Fragment) → List Fragment
  | [] => []
  | [fs] => fs
  | fs :: rest => fs ++ .keyword sep :: separated sep rest

/-- A part of a dotted name: a star stays bare. -/
def partFragment (part : List Char) : Fragment :=
  if part = ['*'] then .keyword "*" else .part (String.ofList part)

/-- The fragments of an identifier: a dotted name is quoted part by part. -/
def Identifier.fragments : Identifier → List Fragment
  | .raw sql => [.raw sql]
  | .name text => separated "." ((text.toList.splitOn '.').map fun p => [partFragment p])

/-- An identifier as the dialect writes it. -/
def Dialect.quote (d : Dialect) (i : Identifier) : String := write d i.fragments

theorem write_nil (d : Dialect) : write d [] = "" := rfl

/-- Writing works fragment by fragment. -/
theorem write_append (d : Dialect) (fs gs : List Fragment) :
    write d (fs ++ gs) = write d fs ++ write d gs := by
  simp [write, String.ofList_append]

end TaggedSql.Sql
