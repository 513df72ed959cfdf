/-
  Connections: a driver, a dialect, and the flag that a transaction is under way.

  Statements are compiled with the driver's marker and the dialect's lexing, so that what the
  driver receives is what the dialect wrote.  `begin` refuses a second transaction; `commit` and
  `rollback` end the transaction even if the driver fails.

  A block is entered and left.  `leave` ends a transaction block: it commits a block that went
  through and rolls back one that did not, and a commit that fails is rolled back as well; the
  error that stays is the one that came last.  `leaveClosing` ends a block that closes the
  connection whatever happened.
-/
import TaggedSql.Sql.Registry
import TaggedSql.Statement

namespace TaggedSql

open TaggedSql.Sql Operation

/-! ## Opening -/

/-- The entry that is registered under a name. -/
def Sql.Registry.require (r : Registry) (name : String) : Except Error DialectEntry :=
  match r.find? name with
  | some e => .ok e
  | none => .error (.unknownDialect name r.names)

/-- A driver to connect through: its style and the marker it takes, the latter by the name of its
    style where it is not given as it is. -/
inductive DriverChoice where
  | direct (marker : String)
  | cursor (markerStyle : String)
  | autobegin (markerStyle : String) (ownsEngine : Bool)

/-- The driver of a choice. -/
def DriverChoice.open (fails : Action → Nat → Bool) : DriverChoice → Except Error Driver
  | direct marker => .ok (.fresh .direct marker fails)
  | cursor markerStyle => (markerOfStyle markerStyle).map fun m => .fresh .cursor m fails
  | autobegin markerStyle ownsEngine =>
    (markerOfStyle markerStyle).map fun m => .fresh (.autobegin ownsEngine) m fails

/-- A connection; `drained` are the streams that have been read for it. -/
structure Connection where
  driver : Driver
  dialect : DialectEntry
  strict : Bool
  inTransaction : Bool
  drained : List Nat

namespace Connection

/-- A connection on which nothing has happened. -/
def fresh (driver : Driver) (dialect : DialectEntry) (strict : Bool) : Connection :=
  ⟨driver, dialect, strict, false, []⟩

/-- Opens a connection through a chosen driver; without the name of a dialect the standard one
    is used. -/
def connect (choice : DriverChoice) (dialect : Option String) (strict : Bool)
    (fails : Action → Nat → Bool) : Except Error Connection := do
  let driver ← choice.open fails
  let entry ← match dialect with
    | some name => Registry.standard.require name
    | none => .ok Dialect.ansi.entry
  return .fresh driver entry strict

/-- The calls that the driver has received. -/
def events (c : Connection) : List Event := c.driver.events

/-- Runs an operation of the driver. -/
def onDriver {α : Type} (x : Operation Driver α) : Operation Connection α :=
  x.within Connection.driver fun d c => { c with driver := d }

/-! ## Statements -/

/-- How statements are compiled on the connection. -/
def compileOptions (c : Connection) : Placeholder.CompileOptions :=
  ⟨c.driver.marker, c.strict, c.dialect.dialect.lexing⟩

/-- Compiles a text and prepares it on the driver. -/
def prepare (sql : String) : Operation Connection Statement := do
  let c ← get
  match (Placeholder.compile c.compileOptions sql).outcome with
  | .error a => throw (.ambiguous a)
  | .ok compiled =>
    let number ← onDriver (Driver.prepare compiled.sql)
    return ⟨number, compiled⟩

/-- The values for the positions of a statement. -/
def parameters (s : Statement) (supplied : List (String × Value)) :
    Operation Connection (List BoundValue) :=
  ofOutcome fun c =>
    let r := Statement.resolve c.dialect.dialect s.compiled supplied c.drained
    (r.1, { c with drained := r.2 })

/-- Executes a statement: resolves all of its parameters, then binds them, then runs it. -/
def execute (s : Statement) (supplied : List (String × Value)) :
    Operation Connection ResultHandle := do
  let bs ← parameters s supplied
  onDriver (Statement.run s.number bs)

/-- Prepares a text and executes it. -/
def query (sql : String) (supplied : List (String × Value)) :
    Operation Connection ResultHandle := do
  let s ← prepare sql
  execute s supplied

/-! ## Transactions -/

/-- Begins a transaction unless one is under way. -/
def begin : Operation Connection Unit := do
  let c ← get
  if c.inTransaction then throw .transactionActive
  onDriver Driver.begin
  modify fun c => { c with inTransaction := true }

/-- Ends the transaction; it is over even if the driver fails. -/
def endWith (x : Operation Driver Unit) : Operation Connection Unit := do
  let r ← observe (onDriver x)
  modify fun c => { c with inTransaction := false }
  settle r

/-- Commits. -/
def commit : Operation Connection Unit := endWith Driver.commit

/-- Rolls back. -/
def rollback : Operation Connection Unit := endWith Driver.rollback

/-- Closes the connection. -/
def close : Operation Connection Unit := onDriver Driver.close

/-! ## Blocks -/

/-- Leaves a transaction block that ended as told. -/
def leave : Except Error Unit → Operation Connection Unit
  | .error e => do
    rollback
    throw e
  | .ok () => do
    match ← observe commit with
    | .ok () => pure ()
    | .error e =>
      rollback
      throw e

/-- Leaves a closing block that ended as told. -/
def leaveClosing (r : Except Error Unit) : Operation Connection Unit := do
  close
  settle r

end Connection

end TaggedSql
