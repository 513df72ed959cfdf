/-
  Sessions: a connection together with the statements and builders that were made on it.

  Statements and builders are known by their numbers, which count them in the order of their
  making.  A builder executes its query on the connection, which prepares the rendered text and
  binds the collected parameters.
-/
import TaggedSql.Connection
import TaggedSql.Query.Builder

namespace TaggedSql

open TaggedSql.Query TaggedSql.Sql Operation

/-- A connection and what was made on it. -/
structure Session where
  connection : Connection
  statements : List Statement
  builders : List Builder

namespace Session

/-- A session in which nothing has been made. -/
def start (c : Connection) : Session := ⟨c, [], []⟩

/-- Runs an operation of the connection. -/
def onConnection {α : Type} (x : Operation Connection α) : Operation Session α :=
  x.within Session.connection fun c s => { s with connection := c }

/-- The entry of a list with a number. -/
def entryAt {α : Type} (xs : List α) (number : Nat) : Operation Session α :=
  match xs[number]? with
  | some x => pure x
  | none => throw .noSuchEntry

/-- The statement with a number. -/
def statement (number : Nat) : Operation Session Statement := do
  entryAt (← get).statements number

/-- Prepares a statement and yields its number. -/
def prepare (sql : String) : Operation Session Nat := do
  let s ← onConnection (Connection.prepare sql)
  let made := (← get).statements
  modify fun t => { t with statements := made ++ [s] }
  return made.length

/-- Makes a builder and yields its number. -/
def makeBuilder (draft : Draft) : Operation Session Nat := do
  let s ← get
  set { s with builders := s.builders ++ [Builder.start s.connection.dialect.dialect draft] }
  return s.builders.length

/-- Does something with a builder that needs no connection. -/
def withBuilder {α : Type} (number : Nat) (f : Builder → Except Fault α × Builder) :
    Operation Session α := do
  let b ← entryAt (← get).builders number
  modify fun s => { s with builders := s.builders.set number (f b).2 }
  settle ((f b).1.mapError .query)

/-- Renders the query of a builder and executes it on the connection. -/
def executeBuilder (number : Nat) : Operation Session ResultHandle := do
  let r ← withBuilder number Builder.build
  onConnection (Connection.query r.sql r.parameters)

end Session

end TaggedSql
