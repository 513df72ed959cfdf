/-
  Errors, by their causes.

  Every operation of the library fails with an `Error`; `Error.message` is the one place where
  errors are put into words.  Errors of a driver and of the application pass through unchanged.
-/
import TaggedSql.Coercion
import TaggedSql.Config.Issue
import TaggedSql.Placeholder.Compile
import TaggedSql.Query.Fault

namespace TaggedSql

/-- What a driver can be asked to do. -/
inductive Action where
  | prepare
  | bind
  | execute
  | cursor
  | begin
  | commit
  | rollback
  | close
  | createEngine
  | connect
  | dispose
  deriving DecidableEq, Repr

/-- The name of an action. -/
def Action.name : Action → String
  | prepare => "prepare"
  | bind => "bind"
  | execute => "execute"
  | cursor => "cursor"
  | begin => "begin"
  | commit => "commit"
  | rollback => "rollback"
  | close => "close"
  | createEngine => "create_engine"
  | connect => "connect"
  | dispose => "dispose"

/-- Why an operation failed. -/
inductive Error where
  /-- Strict compilation met an ambiguous token. -/
  | ambiguous (a : Placeholder.Ambiguity)
  /-- The name of a placeholder has no value; its first position is given. -/
  | missingParameter (name : String) (position : Nat)
  /-- A value cannot be converted to the bind type of its parameter; it is shown as a text. -/
  | refused (name : String) (type : BindType) (value : Value) (shown : String)
      (cause : Option CoercionCause)
  /-- A timestamp has no UTC date. -/
  | outOfCalendar
  /-- An integer is too long to be written. -/
  | unwritable
  /-- A text has a lone surrogate, and no bytes. -/
  | unencodable
  /-- A stream cannot be read. -/
  | readFailed
  /-- What a stream yields cannot be made into bytes. -/
  | nothingRead
  /-- A query cannot be built. -/
  | query (f : Query.Fault)
  /-- No dialect is registered under the name. -/
  | unknownDialect (name : String) (registered : List String)
  /-- The backend of a URL suggests no dialect. -/
  | noDialectFor (backend : String)
  /-- The style of markers is not one with a single positional marker. -/
  | unknownMarkerStyle (style : String)
  /-- A transaction was begun inside another. -/
  | transactionActive
  /-- The driver failed. -/
  | driver (action : Action)
  /-- The application gave up. -/
  | application (message : String)
  /-- A configuration is not valid. -/
  | invalidConfig (issues : List Config.Issue)
  /-- The engine library is not installed. -/
  | engineMissing
  /-- An option was given twice. -/
  | repeatedOption (name : String)
  /-- There is no statement or builder with the number. -/
  | noSuchEntry

/-- The styles of markers that are supported, with their markers. -/
def markerStyles : List (String × String) := [("format", "%s"), ("pyformat", "%s"), ("qmark", "?")]

/-- The positional marker of a style. -/
def markerOfStyle (style : String) : Except Error String :=
  match markerStyles.lookup style with
  | some marker => .ok marker
  | none => .error (.unknownMarkerStyle style)

/-- An error in words; empty for those that are known by their kind alone. -/
def Error.message : Error → String
  | ambiguous a => a.message
  | missingParameter name position =>
    "Missing value for parameter '" ++ name ++ "' (position " ++ Nat.repr position ++ ")."
  | refused name type value shown _ =>
    "Cannot bind " ++ value.kindName ++ " value " ++ shown ++ " to parameter '" ++ name ++
      "' as " ++ type.name ++ "."
  | query f => f.message
  | unknownDialect name registered =>
    "Unsupported grammar: '" ++ name ++ "'. Registered grammars: " ++
      Value.displayMembers .list (registered.map Text.quoted) ++ "."
  | noDialectFor backend =>
    "Cannot infer a grammar for backend '" ++ backend ++
      "'. Set ConnectionConfig.grammar explicitly."
  | unknownMarkerStyle style =>
    "Unsupported paramstyle '" ++ style ++ "'. Supported: " ++
      ", ".intercalate (markerStyles.map Prod.fst) ++ "."
  | transactionActive => "A transaction is already active on this connection."
  | driver action => action.name ++ " failed"
  | application message => message
  | engineMissing =>
    "SQLAlchemy is required for Connection.from_config(). " ++
      "Install it with: pip install \"bindql[sqlalchemy]\""
  | outOfCalendar | unwritable | unencodable | readFailed | nothingRead | invalidConfig _
  | repeatedOption _ | noSuchEntry => ""

end TaggedSql
