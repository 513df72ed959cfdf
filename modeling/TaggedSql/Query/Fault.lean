/-
  What can go wrong while a query is built.

  Most faults are complaints about a call or about the state of the query; each has a message and
  names the clause it concerns.  A few others (`isComplaint` tells them apart) come from values
  that no message was prepared for: values that cannot be compared, integers too long to be
  written, columns that are no identifiers, assignments that hold no entries, a comparison without a
  marker, a call that the kind of query does not know.
-/
import TaggedSql.Sql.Clause
import TaggedSql.Value.Equality
import TaggedSql.Value.Text

namespace TaggedSql.Query

open TaggedSql.Sql

/-- The kinds of queries. -/
inductive Kind where
  | select
  | insert
  | update
  deriving DecidableEq, Repr

/-- What a message calls a query of the kind. -/
def Kind.title : Kind → String
  | .select => "SelectQuery"
  | .insert => "InsertQuery"
  | .update => "UpdateQuery"

/-- The keyword of the kind. -/
def Kind.keyword : Kind → String
  | .select => "SELECT"
  | .insert => "INSERT"
  | .update => "UPDATE"

/-- A fault of a builder's call. -/
inductive Fault where
  /-- The query was rendered before and does not change any more. -/
  | frozen (kind : Kind)
  /-- The query belongs to no connection and cannot be executed. -/
  | detached (kind : Kind)
  | unknownOperator (operator : String)
  | nullOperand (operator : String)
  | listOperand (operator : String)
  | listExpected (operator : String) (operand : Value)
  /-- The name is bound to a value that is not the same. -/
  | parameterTaken (name : String)
  | unknownJoin (kind : String)
  | unknownDirection (direction : String)
  /-- The value, shown as a text, is no count. -/
  | notACount (keyword value : String)
  /-- Columns were given after rows. -/
  | columnsTooLate
  /-- The keys of a row are not the columns; both are shown as texts, the keys sorted. -/
  | rowKeys (keys columns : String)
  /-- The row is neither a mapping nor a sequence. -/
  | rowKind (row : Value)
  | rowLength (values columns : Nat)
  | noRows (table : Identifier)
  | noAssignments (table : Identifier)
  /-- A value cannot be compared with the one that its name is bound to, or the keys of a row that
      is not to be taken have no order to report them in. -/
  | incomparable (cause : Value.Incomparable)
  /-- An integer is too long to be written where it is shown. -/
  | unwritable
  /-- What is to be assigned is of a kind that has no entries. -/
  | noEntries (kind : String)
  /-- A column is no identifier. -/
  | unquotable (column : Value)
  /-- A comparison has nothing to compare with. -/
  | missingMarker
  /-- The kind of query knows no such call. -/
  | unknownCall

/-- An identifier as a message shows it. -/
def displayIdentifier : Identifier → String
  | .name text => Text.quoted text
  | .raw sql => Value.displayRaw sql

namespace Fault

/-- The clause that a complaint concerns, none for a fault that is no complaint. -/
def clause? : Fault → Option String
  | frozen kind | detached kind => some kind.keyword
  | unknownOperator _ | nullOperand _ | listOperand _ | listExpected .. | parameterTaken _ =>
    some "WHERE"
  | unknownJoin _ => some "JOIN"
  | unknownDirection _ => some "ORDER BY"
  | notACount keyword _ => some keyword
  | columnsTooLate => some "INSERT"
  | rowKeys .. | rowKind _ | rowLength .. | noRows _ => some "VALUES"
  | noAssignments _ => some "SET"
  | incomparable _ | unwritable | noEntries _ | unquotable _ | missingMarker | unknownCall => none

/-- Whether the fault is a complaint about the call or the query. -/
def isComplaint (f : Fault) : Bool := f.clause?.isSome

/-- The message of a complaint. -/
def message : Fault → String
  | frozen kind => kind.title ++ " was already rendered and cannot be modified."
  | detached kind => kind.title ++ " is not attached to a connection."
  | unknownOperator operator => "Unsupported operator '" ++ operator ++ "'."
  | nullOperand operator => "Operator '" ++ operator ++ "' cannot compare with NULL."
  | listOperand operator => "Operator '" ++ operator ++ "' cannot compare with a list."
  | listExpected operator operand =>
    "Operator '" ++ operator ++ "' requires a list or None, got " ++ operand.kindName ++ "."
  | parameterTaken name => "Parameter '" ++ name ++ "' is already bound to a different value."
  | unknownJoin kind => "Unsupported join kind '" ++ kind ++ "'."
  | unknownDirection direction => "Unsupported sort direction '" ++ direction ++ "'."
  | notACount keyword value =>
    keyword ++ " must be a non-negative integer, got " ++ value ++ "."
  | columnsTooLate => "Columns must be set before adding rows."
  | rowKeys keys columns => "Row keys " ++ keys ++ " do not match columns " ++ columns ++ "."
  | rowKind row => "A row must be a mapping or a sequence, got " ++ row.kindName ++ "."
  | rowLength values columns =>
    "Row has " ++ Nat.repr values ++ " value(s) for " ++ Nat.repr columns ++ " column(s)."
  | noRows table => "INSERT into " ++ displayIdentifier table ++ " has no rows."
  | noAssignments table => "UPDATE of " ++ displayIdentifier table ++ " sets no columns."
  | incomparable _ | unwritable | noEntries _ | unquotable _ | missingMarker | unknownCall => ""

/-- The fault that shows a value, if a text can be made that does. -/
def showing (v : Value) (f : String → Fault) : Fault := v.display?.elim .unwritable f

theorem showing_of_some {v : Value} {shown : String} (h : v.display? = some shown)
    (f : String → Fault) : showing v f = f shown := by rw [showing, h, Option.elim_some]

theorem showing_of_none {v : Value} (h : v.display? = none) (f : String → Fault) :
    showing v f = .unwritable := by rw [showing, h, Option.elim_none]

end Fault

end TaggedSql.Query
