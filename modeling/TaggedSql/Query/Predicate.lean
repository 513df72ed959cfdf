/-
  The conditions of a query.

  `comparison` turns a column, an operator and a value into a condition.  The operator is any
  value; its plain text, in upper case and with single spaces, has to be one of thirteen.  The
  absent value asks for `IS NULL` or `IS NOT NULL`, a collection for membership, and anything else
  for the comparison itself; an operator that does not fit its value is refused before anything is
  bound.

  `bindNamed` stores the parameters of a raw condition.  A name that is bound already may be bound
  again to the same value only.  The parameters in front of the first conflict stay bound.
-/
import TaggedSql.Query.Bindings
import TaggedSql.Query.Fault
import TaggedSql.Text.Blank
import TaggedSql.Text.Case
import TaggedSql.Value.Equality

namespace TaggedSql.Query

open TaggedSql.Sql

/-- How a condition is joined to the one before. -/
inductive Conjunction where
  | and
  | or
  deriving DecidableEq, Repr

/-- The word of a conjunction. -/
def Conjunction.text : Conjunction → String
  | .and => "AND"
  | .or => "OR"

/-- The supported operators. -/
def operators : List String :=
  ["=", "!=", "<>", "<", "<=", ">", ">=", "LIKE", "NOT LIKE", "IN", "NOT IN", "IS", "IS NOT"]

/-- An operator in upper case with its words one space apart. -/
def normalized (operator : String) : String := Text.respaced (Text.upper operator)

/-- Whether the operator asks for equality, membership or its like, or for the negation. -/
def isPositive? (operator : String) (same other : String) : Option Bool :=
  if operator = "=" ∨ operator = same then some true
  else if operator = "!=" ∨ operator = "<>" ∨ operator = other then some false
  else none

/-- What a comparison by an operator tests, and the bindings with its values stored. -/
def comparisonBy (column : Identifier) (operator : String) (value : Value) (b : Bindings) :
    Except Fault (Test × Bindings) :=
  let op := normalized operator
  if !operators.contains op then .error (.unknownOperator operator)
  else match value with
    | .null =>
      match isPositive? op "IS" "IS NOT" with
      | some positive => .ok (.column column (if positive then "IS" else "IS NOT") [], b)
      | none => .error (.nullOperand op)
    | .collection _ items =>
      match isPositive? op "IN" "NOT IN" with
      | some positive =>
        let bound := b.bindAll items
        .ok (.column column (if positive then "IN" else "NOT IN") bound.1, bound.2)
      | none => .error (.listOperand op)
    | value =>
      if op = "IN" ∨ op = "NOT IN" ∨ op = "IS" ∨ op = "IS NOT" then
        .error (.listExpected op value)
      else
        let bound := b.bind value
        .ok (.column column op [bound.1], bound.2)

/-- What a comparison tests, and the bindings with its values stored. -/
def comparison (column : Identifier) (operator value : Value) (b : Bindings) :
    Except Fault (Test × Bindings) :=
  match operator.plain? with
  | some text => comparisonBy column text value b
  | none => .error .unwritable

/-- What keeps a name from being bound to `v`: it is bound to a value that is not the same, or to
    one that `v` cannot be compared with. -/
def conflict? (b : Bindings) (name : String) (v : Value) : Option Fault :=
  match b.get? name with
  | some w =>
    if w.signals v then some (.incomparable .notANumber)
    else if w.same v then none
    else some (.parameterTaken name)
  | none => none

/-- Binds named parameters up to the first conflict, and returns it. -/
def bindNamed (b : Bindings) : List (String × Value) → Bindings × Option Fault
  | [] => (b, none)
  | (name, v) :: rest =>
    match conflict? b name v with
    | some f => (b, some f)
    | none => bindNamed (b.put name v) rest

end TaggedSql.Query
