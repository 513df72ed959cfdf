/-
  Connecting to a database by its URL.

  The options are read as a configuration, an engine is created with its settings, and the engine
  connects; the connection owns the engine.  Whatever can be refused without an engine is refused
  before one is created.  What makes a configuration of named values is given; the program runs with
  `Config.ofFields`.

  The driver exists from the start, so that the calls it receives are known even when connecting
  fails; its marker is known once the engine has connected.
-/
import TaggedSql.Config
import TaggedSql.Connection

namespace TaggedSql

open TaggedSql.Sql Operation

/-- What there is to connect to: whether engines can be created, and the style of markers that
    the database takes. -/
structure Backend where
  installed : Bool
  markerStyle : String

namespace Connect

/-- The names that creating an engine uses for itself. -/
def ownOptions : List String := ["url", "echo"]

/-- The configuration that a URL and options give. -/
def configOf (read : List (String × Value) → Config.Checked Config) (url : Value)
    (options : List (String × Value)) : Except Error Config :=
  if (options.lookup "url").isSome then .error (.repeatedOption "url")
  else (read (("url", url) :: options)).mapError .invalidConfig

/-- The options that an engine is created with. -/
def engineArguments (c : Config) : Except Error (List (String × Value)) :=
  match c.engineOptions.find? fun p => ownOptions.contains p.1 with
  | some p => .error (.repeatedOption p.1)
  | none => .ok (("echo", .bool c.echo) :: c.engineOptions)

/-- The dialect to connect with, if there is something to connect to. -/
def dialectFor (backend : Backend) (c : Config) : Except Error DialectEntry :=
  if backend.installed then c.dialectName >>= Registry.standard.require else .error .engineMissing

/-- Creates an engine and connects. -/
def openEngine (backend : Backend) (c : Config) : Operation Driver DialectEntry := do
  let dialect ← settle (dialectFor backend c)
  let arguments ← settle (engineArguments c)
  Driver.emit (.createEngine c.url arguments)
  Driver.emit .connect
  let marker ← settle (markerOfStyle backend.markerStyle)
  modify fun d => { d with marker := marker }
  return dialect

/-- Connects, and yields the calls that were made also when it fails. -/
def run (read : List (String × Value) → Config.Checked Config) (backend : Backend) (url : Value)
    (options : List (String × Value)) (fails : Action → Nat → Bool) :
    Except Error Connection × List Event :=
  match configOf read url options with
  | .error e => (.error e, [])
  | .ok config =>
    let r := (openEngine backend config).outcome (.fresh (.autobegin true) "" fails)
    (r.1.map fun dialect => .fresh r.2 dialect config.strict, r.2.events)

end Connect

end TaggedSql
