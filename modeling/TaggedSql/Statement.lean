/-
  Prepared statements: resolving their parameters, binding and executing.

  A statement keeps the names and types it was compiled with.  To execute it, every position is
  resolved first: the value of its name is looked up and coerced, once per name.  Only when all
  positions have a value are they bound, in order, and the statement executed.  So a missing or
  unfit value shows before the driver receives anything.

  Resolving may read streams; `resolve` yields which ones have been read, also when it fails.
-/
import TaggedSql.Driver
import TaggedSql.Query.Bindings

namespace TaggedSql

open TaggedSql.Sql

/-- A prepared statement: the driver's number of it and what it was compiled to. -/
structure Statement where
  number : Nat
  compiled : Placeholder.Compiled

/-- A value for a position of a statement. -/
structure BoundValue where
  position : Nat
  value : Value
  type : BindType

namespace Statement

/-- A statement as it is displayed. -/
def display (s : Statement) : String :=
  "PreparedStatement(sql=" ++ Text.quoted s.compiled.sql ++ ", names=" ++
    Value.displayMembers .tuple (s.compiled.names.map Text.quoted) ++ ")"

/-- The error that a failed coercion is reported as. -/
def errorOf (name : String) (type : BindType) : CoercionFault → Error
  | .refused v shown cause => .refused name type v shown cause
  | .outOfCalendar => .outOfCalendar
  | .unwritable => .unwritable
  | .unencodable => .unencodable
  | .readFailed => .readFailed
  | .nothingRead => .nothingRead

/-- The values for names from a position on.  `known` holds the names resolved before, and
    `drained` the streams read before. -/
def resolveFrom (d : Dialect) (types : List (String × BindType))
    (supplied : List (String × Value)) (known : List (String × Value)) (drained : List Nat)
    (position : Nat) : List String → Except Error (List BoundValue) × List Nat
  | [] => (.ok [], drained)
  | name :: names =>
    let type := (types.lookup name).getD .text
    match known.lookup name with
    | some v =>
      let rest := resolveFrom d types supplied known drained (position + 1) names
      (rest.1.map (⟨position, v, type⟩ :: ·), rest.2)
    | none =>
      match supplied.lookup name with
      | none => (.error (.missingParameter name position), drained)
      | some v =>
        let drained' := v.drains type ++ drained
        match coerce d drained type v with
        | .error f => (.error (errorOf name type f), drained')
        | .ok w =>
          let rest := resolveFrom d types supplied ((name, w) :: known) drained' (position + 1) names
          (rest.1.map (⟨position, w, type⟩ :: ·), rest.2)

/-- The values for all positions of a statement, and the streams read so far. -/
def resolve (d : Dialect) (c : Placeholder.Compiled) (supplied : List (String × Value))
    (drained : List Nat) : Except Error (List BoundValue) × List Nat :=
  resolveFrom d c.types supplied [] drained 1 c.names

/-- Binds values in order. -/
def bindAll (number : Nat) : List BoundValue → Operation Driver Unit
  | [] => pure ()
  | b :: bs => do
    Driver.bindValue number b.position b.value b.type
    bindAll number bs

/-- Binds values and executes. -/
def run (number : Nat) (bs : List BoundValue) : Operation Driver ResultHandle := do
  bindAll number bs
  Driver.execute number

end Statement

end TaggedSql
