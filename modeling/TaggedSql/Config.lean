/-
  Configurations of a connection, read from named values.

  Every field is read on its own and what is wrong is collected, so a configuration is refused
  with all its issues at once: those of the five fields in their order, then those of the fields
  that are not known.  Text is taken from byte strings too, and truth values from the words and
  numbers that `Coercion.readBool` knows.

  A configuration names its dialect or leaves it to the backend, which is the part of the URL in
  front of `://` and of the first `+`.
-/
import TaggedSql.Coercion.Number
import TaggedSql.Error
import TaggedSql.Query.Bindings
import TaggedSql.Text.Case
import TaggedSql.Value.Text

namespace TaggedSql

/-- The settings of a connection. -/
structure Config where
  url : String
  dialect : Option String
  strict : Bool
  echo : Bool
  engineOptions : List (String × Value)

namespace Config

/-! ## Fields -/

/-- The names of the fields, in order. -/
def fieldNames : List String := ["url", "grammar", "strict_placeholders", "echo", "engine_options"]

/-- What was read, or what is wrong with it. -/
abbrev Checked (α : Type) := Except (List Issue) α

/-- A value that was read, or the issue at its place. -/
def checked {α : Type} (path : List Place) : Except IssueKind α → Checked α
  | .ok a => .ok a
  | .error kind => .error [⟨path, kind⟩]

/-- The issues of what was read. -/
def issues {α : Type} : Checked α → List Issue
  | .ok _ => []
  | .error is => is

/-- Reads a text.  A named constant stands for the text of what it holds. -/
def readText : Value → Except IssueKind String
  | .text s => .ok s
  | .constant _ v =>
    match v.plain? with
    | some s => .ok s
    | none => .error .stringType
  | .blob .bytes bs | .blob .buffer bs =>
    match Text.Utf8.decodeString bs with
    | some s => .ok s
    | none => .error .stringEncoding
  | _ => .error .stringType

/-- Reads a text that is not empty. -/
def readUrl (v : Value) : Except IssueKind String :=
  match readText v with
  | .ok s => if s.isEmpty then .error .stringTooShort else .ok s
  | .error kind => .error kind

/-- Reads the name of a dialect, or its absence. -/
def readDialect : Value → Except IssueKind (Option String)
  | .null => .ok none
  | v => (readText v).map some

/-- Reads a truth value. -/
def readFlag (v : Value) : Except IssueKind Bool :=
  match Coercion.readBool v with
  | .ok b => .ok b
  | .error .content => .error .boolContent
  | .error .kind => .error .boolType

/-- How a place names a value; one that is too long to be written has a stand-in. -/
def placeName (v : Value) : String :=
  v.display?.getD ("<unprintable " ++ v.kindName ++ " object>")

/-- Where a key of the engine's options stands. -/
def keyPlace : Value → Place
  | .text s => .field s
  | .bool b => .key (if b then 1 else 0)
  | .int n =>
    if -Coercion.int64Bound ≤ n ∧ n < Coercion.int64Bound then .key n
    else .field (placeName (.int n))
  | v => .field (placeName v)

/-- Reads options one by one; keys that read alike keep the last value. -/
def readEntries (field : String) : List (Value × Value) → Checked (List (String × Value))
  | [] => .ok []
  | (k, v) :: rest =>
    match checked [.field field, keyPlace k, .field "[key]"] (readText k), readEntries field rest with
    | .ok name, .ok entries => .ok ((name, v) :: entries)
    | name, entries => .error (issues name ++ issues entries)

/-- Reads the engine's options. -/
def readOptions (field : String) : Value → Checked (List (String × Value))
  | .mapping entries => (readEntries field entries).map Query.ofPairs
  | _ => .error [⟨[.field field], .mappingType⟩]

/-- Reads a field, which has a default unless it has to be given. -/
def readField {α : Type} (fields : List (String × Value)) (name : String) (default : Checked α)
    (read : Value → Checked α) : Checked α :=
  match fields.lookup name with
  | some v => read v
  | none => default

/-- Reads a field that holds a single value. -/
def readScalar {α : Type} (fields : List (String × Value)) (name : String)
    (default : Except IssueKind α) (read : Value → Except IssueKind α) : Checked α :=
  readField fields name (checked [.field name] default) fun v => checked [.field name] (read v)

/-- The issues of fields that are not known. -/
def unknownFields (fields : List (String × Value)) : List Issue :=
  (fields.filter fun p => !fieldNames.contains p.1).map fun p => ⟨[.field p.1], .unknownField⟩

/-- Reads a configuration; a name is given at most once. -/
def ofFields (fields : List (String × Value)) : Checked Config :=
  let url := readScalar fields "url" (.error .missing) readUrl
  let dialect := readScalar fields "grammar" (.ok none) readDialect
  let strict := readScalar fields "strict_placeholders" (.ok false) readFlag
  let echo := readScalar fields "echo" (.ok false) readFlag
  let options := readField fields "engine_options" (.ok []) (readOptions "engine_options")
  match url, dialect, strict, echo, options, unknownFields fields with
  | .ok url, .ok dialect, .ok strict, .ok echo, .ok options, [] =>
    .ok ⟨url, dialect, strict, echo, options⟩
  | url, dialect, strict, echo, options, unknown =>
    .error (issues url ++ issues dialect ++ issues strict ++ issues echo ++ issues options ++ unknown)

/-- The fields of a configuration as named values. -/
def fields (c : Config) : List (String × Value) :=
  [("url", .text c.url), ("grammar", (c.dialect.map Value.text).getD .null),
   ("strict_placeholders", .bool c.strict), ("echo", .bool c.echo),
   ("engine_options", .mapping (c.engineOptions.map fun p => (.text p.1, p.2)))]

/-- What assigning to a field of a finished configuration is answered with. -/
def assign (name : String) : Issue := ⟨[.field name], .frozen⟩

/-! ## The dialect -/

/-- The text in front of the first `stop`, all of it without one. -/
def upTo (stop : List Char) : List Char → List Char
  | [] => []
  | c :: s => if stop.isPrefixOf (c :: s) then [] else c :: upTo stop s

/-- The backend that the URL names. -/
def backend (c : Config) : String :=
  Text.lower (String.ofList (upTo ['+'] (upTo [':', '/', '/'] c.url.toList)))

/-- The dialects of the known backends. -/
def backendDialects : List (String × String) :=
  [("sqlite", "sqlite"), ("postgresql", "postgres"), ("mysql", "mysql"), ("mariadb", "mysql"),
   ("mssql", "sqlserver")]

/-- The name of the dialect: the one that is given, or the one of the backend. -/
def dialectName (c : Config) : Except Error String :=
  match c.dialect with
  | some name => .ok name
  | none =>
    match backendDialects.lookup c.backend with
    | some name => .ok name
    | none => .error (.noDialectFor c.backend)

end Config

end TaggedSql
