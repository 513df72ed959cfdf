/-
  The clauses of the statements that builders describe.

  A clause refers to columns and tables by identifier and to values by marker: a value never
  stands in a clause itself.  An identifier is quoted when it is written, unless it is a raw
  fragment; a marker names a parameter together with its bind type, or is given verbatim.
-/
import TaggedSql.BindType

namespace TaggedSql.Sql

/-- A reference to a column or a table. -/
inductive Identifier where
  /-- A name to quote; dots separate its parts. -/
  | name (text : String)
  /-- SQL to write as it is. -/
  | raw (sql : String)
  deriving DecidableEq, Repr, Inhabited

/-- What stands in a clause for a value. -/
inductive Marker where
  /-- The parameter `name`, to be bound as `type`. -/
  | tagged (type : BindType) (name : String)
  /-- A marker written out by the caller. -/
  | verbatim (text : String)
  deriving DecidableEq, Repr, Inhabited

/-- A marker as it is written: the tag letter of the type, a colon and the name. -/
def Marker.text : Marker → String
  | .tagged type name => String.ofList type.tag.toList ++ ":" ++ name
  | .verbatim text => text

/-- What a condition tests. -/
inductive Test where
  /-- SQL of the caller's own. -/
  | raw (sql : String)
  /-- A column, an operator and the markers on its right. -/
  | column (column : Identifier) (operator : String) (markers : List Marker)
  deriving DecidableEq, Repr

/-- A condition and the word that joins it to the one before. -/
structure Condition where
  conjunction : String
  test : Test
  deriving DecidableEq, Repr

/-- A joined table. -/
structure Join where
  table : Identifier
  left : Identifier
  right : Identifier
  kind : String
  label : Option String
  deriving DecidableEq, Repr

/-- A sort term. -/
structure OrderItem where
  column : Identifier
  direction : String
  deriving DecidableEq, Repr

/-- The clauses of a `SELECT`. -/
structure SelectClauses where
  columns : List Identifier
  table : Option Identifier
  label : Option String
  distinct : Bool
  joins : List Join
  conditions : List Condition
  groupBy : List Identifier
  orderBy : List OrderItem
  limit : Option Int
  offset : Option Int
  deriving DecidableEq, Repr

/-- A `SELECT` of nothing but the given columns. -/
def SelectClauses.ofColumns (columns : List Identifier) : SelectClauses :=
  ⟨columns, none, none, false, [], [], [], [], none, none⟩

/-- The clauses of an `INSERT`: one list of markers per row. -/
structure InsertClauses where
  table : Identifier
  columns : List Identifier
  rows : List (List Marker)
  deriving DecidableEq, Repr

/-- The clauses of an `UPDATE`. -/
structure UpdateClauses where
  table : Identifier
  assignments : List (Identifier × Marker)
  conditions : List Condition
  deriving DecidableEq, Repr

end TaggedSql.Sql
