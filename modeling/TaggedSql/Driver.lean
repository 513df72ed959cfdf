/-
  Drivers, as far as a connection can tell.

  A driver is known by the calls it receives and by whether each of them fails.  The state of a
  driver therefore holds the calls made so far, oldest first, and a schedule that says of the
  `n`-th call of every action whether it fails; a failing call has been received all the same.

  There are three styles of drivers.

    - A *direct* driver prepares statements and takes their values one position at a time.
    - A *cursor* driver has no statements: values are kept on this side, and a fresh cursor takes
      text and values together.  Transactions open by themselves.
    - An *autobegin* driver takes text and values together too and begins a transaction with the
      first statement, so one is begun explicitly only while none is open.  It may own the engine
      it came from, which is disposed of with it.
-/
import TaggedSql.Operation

namespace TaggedSql

/-- The styles of drivers. -/
inductive DriverStyle where
  | direct
  | cursor
  | autobegin (ownsEngine : Bool)
  deriving DecidableEq, Repr

/-- A call that a driver received. -/
inductive Event where
  | prepare (sql : String)
  | bind (statement : Nat) (position : Int) (value : Value) (type : BindType)
  | execute (statement : Nat)
  | cursor
  | executeOn (cursor : Nat) (sql : String) (values : List Value)
  | executeText (sql : String) (values : List Value)
  | begin
  | commit
  | rollback
  | close
  | createEngine (url : String) (options : List (String × Value))
  | connect
  | dispose

/-- What a call asks for. -/
def Event.action : Event → Action
  | prepare _ => .prepare
  | bind .. => .bind
  | execute _ | executeOn .. | executeText .. => .execute
  | cursor => .cursor
  | begin => .begin
  | commit => .commit
  | rollback => .rollback
  | close => .close
  | createEngine .. => .createEngine
  | connect => .connect
  | dispose => .dispose

/-- What an execution yields: the number of a statement, a cursor or a result. -/
inductive ResultHandle where
  | statement (number : Nat)
  | cursor (number : Nat)
  | result (number : Nat)
  deriving DecidableEq, Repr

/-- Values by position, in increasing order of positions. -/
abbrev Slots := List (Int × Value)

/-- Puts a value at a position, in place of the one that was there. -/
def Slots.put (position : Int) (v : Value) : Slots → Slots
  | [] => [(position, v)]
  | p :: rest =>
    if position < p.1 then (position, v) :: p :: rest
    else if position = p.1 then (position, v) :: rest
    else p :: Slots.put position v rest

/-- The values in order. -/
def Slots.values (s : Slots) : List Value := s.map Prod.snd

/-- A statement on this side of the driver. -/
structure DriverStatement where
  sql : String
  slots : Slots

/-- A driver. -/
structure Driver where
  style : DriverStyle
  marker : String
  statements : List DriverStatement
  /-- The number of cursors or results handed out. -/
  handles : Nat
  /-- Whether the driver's side has a transaction open, for the style that keeps track. -/
  busy : Bool
  events : List Event
  fails : Action → Nat → Bool

namespace Driver

/-- A driver that has received no call. -/
def fresh (style : DriverStyle) (marker : String) (fails : Action → Nat → Bool) : Driver :=
  ⟨style, marker, [], 0, false, [], fails⟩

/-- The number of calls of an action. -/
def count (d : Driver) (a : Action) : Nat := (d.events.filter fun e => e.action == a).length

/-- Makes a call, which fails as scheduled. -/
def emit (e : Event) : Operation Driver Unit := fun d =>
  let d' := { d with events := d.events ++ [e] }
  if d.fails e.action (d'.count e.action) then .error (.driver e.action) d' else .ok () d'

/-- Prepares a statement and yields its number. -/
def prepare (sql : String) : Operation Driver Nat := do
  let d ← get
  if d.style = .direct then emit (.prepare sql)
  modify fun d => { d with statements := d.statements ++ [⟨sql, []⟩] }
  return d.statements.length

/-- The statements with a value put into a slot of one of them. -/
def bindSlot (statement : Nat) (position : Int) (v : Value) (ss : List DriverStatement) :
    List DriverStatement :=
  ss.modify statement fun s => { s with slots := s.slots.put position v }

/-- Binds a value at a position of a statement. -/
def bindValue (statement : Nat) (position : Int) (v : Value) (type : BindType) :
    Operation Driver Unit := do
  let d ← get
  if d.style = .direct then emit (.bind statement position v type)
  else modify fun d => { d with statements := bindSlot statement position v d.statements }

/-- A statement by its number. -/
def statement (d : Driver) (number : Nat) : DriverStatement :=
  d.statements[number]?.getD ⟨"", []⟩

/-- Hands out the next number. -/
def takeHandle : Operation Driver Nat := fun d => .ok d.handles { d with handles := d.handles + 1 }

/-- Executes a statement with the values bound to it. -/
def execute (number : Nat) : Operation Driver ResultHandle := do
  let d ← get
  let s := d.statement number
  match d.style with
  | .direct =>
    emit (.execute number)
    return .statement number
  | .cursor =>
    emit .cursor
    let n ← takeHandle
    emit (.executeOn n s.sql s.slots.values)
    return .cursor n
  | .autobegin _ =>
    modify fun d => { d with busy := true }
    emit (.executeText s.sql s.slots.values)
    return .result (← takeHandle)

/-- Begins a transaction. -/
def begin : Operation Driver Unit := do
  let d ← get
  match d.style with
  | .direct => emit .begin
  | .cursor => pure ()
  | .autobegin _ =>
    if !d.busy then
      emit .begin
      modify fun d => { d with busy := true }

/-- Ends a transaction by a call; the driver's side has none open after it, even if it fails. -/
def finish (e : Event) : Operation Driver Unit := do
  modify fun d => { d with busy := false }
  emit e

/-- Commits. -/
def commit : Operation Driver Unit := finish .commit

/-- Rolls back. -/
def rollback : Operation Driver Unit := finish .rollback

/-- Closes the connection, and disposes of the engine that the driver owns. -/
def close : Operation Driver Unit := do
  let d ← get
  emit .close
  if d.style = .autobegin true then emit .dispose

end Driver

end TaggedSql
