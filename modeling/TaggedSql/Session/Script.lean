/-
  Scripts: the steps of a session, and the reports on them.

  A step is a call on the connection, on one of its statements or on one of its builders, or a
  block of further steps.  The first step of a block that fails ends the block, and its error is
  handed to `leave` (or `leaveClosing`), which decides how the block itself ends.  A block may
  also end with an error of the application once its steps are done.

  A report says how a step ended, which calls the driver received meanwhile, and whether a
  transaction was under way afterwards; the report on a block holds those on its steps.
-/
import TaggedSql.Session

namespace TaggedSql.Session

open TaggedSql.Query TaggedSql.Sql Operation

/-- The blocks: one that is a transaction, and one that closes the connection at its end. -/
inductive Block where
  | transaction
  | closing
  deriving DecidableEq, Repr

/-- Enters a block. -/
def Block.enter : Block → Operation Connection Unit
  | transaction => Connection.begin
  | closing => pure ()

/-- Leaves a block that ended as told. -/
def Block.leave : Block → Except Error Unit → Operation Connection Unit
  | transaction => Connection.leave
  | closing => Connection.leaveClosing

/-- What a step that is no block asks for. -/
inductive Command where
  | prepare (sql : String)
  | query (sql : String) (supplied : List (String × Value))
  | execute (statement : Nat) (supplied : List (String × Value))
  | parameters (statement : Nat) (supplied : List (String × Value))
  | display (statement : Nat)
  | quote (name : Identifier)
  | begin
  | commit
  | rollback
  | close
  | describe
  | makeBuilder (draft : Draft)
  | ask (builder : Nat) (r : Request)

/-- A step of a script. -/
inductive Step where
  | command (c : Command)
  /-- Steps in a block, and what the application gives up with after them, if it does. -/
  | block (b : Block) (steps : List Step) (gaveUp : Option String)

/-- What a step yields. -/
inductive Reply where
  /-- The connection itself. -/
  | connection
  | nothing
  | text (s : String)
  /-- A prepared statement: its number, what it was compiled to, and what the driver holds. -/
  | prepared (number : Nat) (compiled : Placeholder.Compiled) (held : String)
  | executed (h : ResultHandle)
  | bound (values : List BoundValue)
  /-- The dialect as it is displayed, and the driver's marker. -/
  | description (dialect marker : String)
  | builder (number : Nat)
  | answer (a : Answer)

/-- What is known of a step that was run. -/
inductive Report where
  | mk (outcome : Except Error Reply) (events : List Event) (inTransaction : Bool)
      (nested : Option (List Report))

/-! ## Commands -/

/-- Carries out a command. -/
def Command.run : Command → Operation Session Reply
  | prepare sql => do
    let number ← Session.prepare sql
    let s ← Session.statement number
    let driver := (← get).connection.driver
    return .prepared number s.compiled (driver.statement s.number).sql
  | query sql supplied => do
    return .executed (← onConnection (Connection.query sql supplied))
  | execute statement supplied => do
    let s ← Session.statement statement
    return .executed (← onConnection (Connection.execute s supplied))
  | parameters statement supplied => do
    let s ← Session.statement statement
    return .bound (← onConnection (Connection.parameters s supplied))
  | display statement => do
    return .text (← Session.statement statement).display
  | quote name => do
    return .text ((← get).connection.dialect.dialect.quote name)
  | begin => do
    onConnection Connection.begin
    return .connection
  | commit => do
    onConnection Connection.commit
    return .connection
  | rollback => do
    onConnection Connection.rollback
    return .connection
  | close => do
    onConnection Connection.close
    return .nothing
  | describe => do
    let c := (← get).connection
    return .description c.dialect.display c.driver.marker
  | makeBuilder draft => do
    return .builder (← Session.makeBuilder draft)
  | ask builder .execute => do
    return .executed (← executeBuilder builder)
  | ask builder r => do
    return .answer (← withBuilder builder fun b => b.answer r)

/-! ## Reports -/

/-- How the reported step ended. -/
def Report.outcome : Report → Except Error Reply
  | mk r _ _ _ => r

/-- The report on a step that began in one session and ended in another. -/
def report (before after : Session) (outcome : Except Error Reply)
    (nested : Option (List Report)) : Report :=
  .mk outcome (after.connection.events.drop before.connection.events.length)
    after.connection.inTransaction nested

/-! ## Running -/

/-- How steps with the reports `rs` ended: as the last of them if it failed, else as the
    application has it. -/
def ending (rs : List Report) (gaveUp : Option String) : Except Error Unit :=
  match (rs.getLast?.map Report.outcome).getD (.ok .nothing), gaveUp with
  | .error e, _ => .error e
  | .ok _, some message => .error (.application message)
  | .ok _, none => .ok ()

/-- Whether a step failed. -/
def Report.failed (r : Report) : Bool :=
  match r.outcome with
  | .ok _ => false
  | .error _ => true

mutual

/-- Runs a step. -/
def Step.run (s : Session) : Step → Report × Session
  | .command c =>
    let r := c.run.outcome s
    (report s r.2 r.1 none, r.2)
  | .block b steps gaveUp =>
    match (onConnection b.enter).outcome s with
    | (.error e, t) => (report s t (.error e) (some []), t)
    | (.ok (), t) =>
      let body := runUntilFailure t steps
      let left := (onConnection (b.leave (ending body.1 gaveUp))).outcome body.2
      (report s left.2 (left.1.map fun _ => .connection) (some body.1), left.2)

/-- Runs steps up to the first that fails. -/
def runUntilFailure (s : Session) : List Step → List Report × Session
  | [] => ([], s)
  | step :: steps =>
    let first := step.run s
    if first.1.failed then ([first.1], first.2)
    else
      let rest := runUntilFailure first.2 steps
      (first.1 :: rest.1, rest.2)

end

/-- Runs steps, whether they fail or not. -/
def runAll (s : Session) : List Step → List Report × Session
  | [] => ([], s)
  | step :: steps =>
    let first := step.run s
    let rest := runAll first.2 steps
    (first.1 :: rest.1, rest.2)

/-- The reports on a script that is run on a connection. -/
def runScript (c : Connection) (steps : List Step) : List Report := (runAll (.start c) steps).1

end TaggedSql.Session
