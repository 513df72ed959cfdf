/-
  Laying out clauses and statements.

  Each function turns a clause into fragments.  All but paging is the same in every dialect:

    - ANSI and PostgreSQL write `LIMIT` and `OFFSET` as given;
    - SQLite and MySQL know no `OFFSET` without `LIMIT` and write a limit that is none;
    - SQL Server writes `OFFSET ... ROWS FETCH NEXT ... ROWS ONLY`, which needs an order, so an
      unordered paged query is ordered by a constant.

  A layout exists unless a comparison has no marker to compare with.
-/
import TaggedSql.Sql.Fragment

namespace TaggedSql.Sql

/-- The result columns; none means all. -/
def columnsLayout (columns : List Identifier) : List Fragment :=
  if columns.isEmpty then [.keyword "*"] else separated ", " (columns.map Identifier.fragments)

/-- A table and its label, when it has one that is not empty. -/
def tableLayout (table : Identifier) (label : Option String) : List Fragment :=
  match label with
  | none | some "" => table.fragments
  | some a => table.fragments ++ .keyword " AS " :: (Identifier.name a).fragments

/-- A joined table. -/
def joinLayout (j : Join) : List Fragment :=
  .keyword (j.kind ++ " JOIN ") :: tableLayout j.table j.label ++
    .keyword " ON " :: j.left.fragments ++ .keyword " = " :: j.right.fragments

/-- Markers with commas between them. -/
def markersLayout (markers : List Marker) : List Fragment :=
  separated ", " (markers.map fun m => [.marker m])

/-- A condition without its conjunction.  Membership in an empty list is false for every row, and
    its negation true. -/
def testLayout? : Test → Option (List Fragment)
  | .raw sql => some [.keyword "(", .raw sql, .keyword ")"]
  | .column column operator markers =>
    if operator = "IS" ∨ operator = "IS NOT" then
      some (column.fragments ++ [.keyword (" " ++ operator ++ " NULL")])
    else if operator = "IN" ∨ operator = "NOT IN" then
      if markers.isEmpty then some [.keyword (if operator = "IN" then "1 = 0" else "1 = 1")]
      else some (column.fragments ++ .keyword (" " ++ operator ++ " (") ::
        markersLayout markers ++ [.keyword ")"])
    else
      markers.head?.map fun m => column.fragments ++ [.keyword (" " ++ operator ++ " "), .marker m]

/-- The conditions after the first one, each behind its conjunction. -/
def furtherConditionsLayout? : List Condition → Option (List Fragment)
  | [] => some []
  | c :: cs =>
    match testLayout? c.test, furtherConditionsLayout? cs with
    | some t, some rest => some (.keyword (" " ++ c.conjunction ++ " ") :: t ++ rest)
    | _, _ => none

/-- Conditions in order, a conjunction between each two. -/
def conditionsLayout? : List Condition → Option (List Fragment)
  | [] => some []
  | c :: cs =>
    match testLayout? c.test, furtherConditionsLayout? cs with
    | some t, some rest => some (t ++ rest)
    | _, _ => none

/-- Columns with commas between them. -/
def groupByLayout (columns : List Identifier) : List Fragment :=
  separated ", " (columns.map Identifier.fragments)

/-- A sort term; without a direction it is the bare column. -/
def orderItemLayout (item : OrderItem) : List Fragment :=
  item.column.fragments ++
    if item.direction = "" then [] else [.keyword (" " ++ item.direction)]

/-- Sort terms with commas between them. -/
def orderByLayout (items : List OrderItem) : List Fragment :=
  separated ", " (items.map orderItemLayout)

/-! ## Paging -/

/-- `LIMIT` and `OFFSET`, each as far as it is given. -/
def limitOffset (limit offset : Option Int) : String :=
  " ".intercalate
    ((limit.toList.map fun n => "LIMIT " ++ Number.ofInt n) ++
      (offset.toList.map fun n => "OFFSET " ++ Number.ofInt n))

/-- An offset behind a limit that stands for none, or `LIMIT` and `OFFSET` as they are given. -/
def limitedOffset (unlimited : String) (limit offset : Option Int) : String :=
  match limit, offset with
  | none, some n => "LIMIT " ++ unlimited ++ " OFFSET " ++ Number.ofInt n
  | limit, offset => limitOffset limit offset

/-- The paging clause of a dialect; empty when nothing is paged. -/
def Dialect.paging (d : Dialect) (limit offset : Option Int) : String :=
  match d with
  | .ansi | .postgres => limitOffset limit offset
  | .sqlite => limitedOffset "-1" limit offset
  | .mysql => limitedOffset "18446744073709551615" limit offset
  | .sqlServer =>
    if limit.isNone && offset.isNone then ""
    else "OFFSET " ++ Number.ofInt (offset.getD 0) ++ " ROWS" ++
      limit.elim "" fun n => " FETCH NEXT " ++ Number.ofInt n ++ " ROWS ONLY"

/-- The order that a query is written with: SQL Server needs one to page. -/
def Dialect.ordering (d : Dialect) (s : SelectClauses) : List OrderItem :=
  if d = .sqlServer ∧ (s.limit.isSome ∨ s.offset.isSome) ∧ s.orderBy.isEmpty then
    [⟨.raw "(SELECT NULL)", ""⟩]
  else s.orderBy

/-! ## Statements -/

/-- A clause behind its keyword, or nothing when there is nothing to say. -/
def clause (keyword : String) (present : Bool) (layout : List Fragment) : List Fragment :=
  if present then .keyword keyword :: layout else []

/-- A `SELECT`. -/
def selectLayout? (d : Dialect) (s : SelectClauses) : Option (List Fragment) :=
  (conditionsLayout? s.conditions).map fun conditions =>
    let order := d.ordering s
    let page := d.paging s.limit s.offset
    .keyword (if s.distinct then "SELECT DISTINCT " else "SELECT ") :: columnsLayout s.columns ++
      (s.table.elim [] fun t => .keyword " FROM " :: tableLayout t s.label) ++
      (s.joins.flatMap fun j => .keyword " " :: joinLayout j) ++
      clause " WHERE " (!s.conditions.isEmpty) conditions ++
      clause " GROUP BY " (!s.groupBy.isEmpty) (groupByLayout s.groupBy) ++
      clause " ORDER BY " (!order.isEmpty) (orderByLayout order) ++
      clause " " (page != "") [.keyword page]

/-- An `INSERT`. -/
def insertLayout (s : InsertClauses) : List Fragment :=
  .keyword "INSERT INTO " :: s.table.fragments ++
    .keyword " (" :: separated ", " (s.columns.map Identifier.fragments) ++
    .keyword ") VALUES " ::
      separated ", " (s.rows.map fun row => .keyword "(" :: markersLayout row ++ [.keyword ")"])

/-- An `UPDATE`. -/
def updateLayout? (s : UpdateClauses) : Option (List Fragment) :=
  (conditionsLayout? s.conditions).map fun conditions =>
    .keyword "UPDATE " :: s.table.fragments ++ .keyword " SET " ::
      separated ", " (s.assignments.map fun a => a.1.fragments ++ [.keyword " = ", .marker a.2]) ++
      clause " WHERE " (!s.conditions.isEmpty) conditions

end TaggedSql.Sql
