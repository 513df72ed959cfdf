/-
  Coercion: what is handed to the driver for a value of a bind type.

  The absent value is bound as it is, whatever the type.  Otherwise

    - a text parameter takes text, bytes that are UTF-8, and the plain text of any scalar, but no
      collection; a named constant stands for what it holds;
    - a blob parameter takes byte strings, the UTF-8 bytes of a text, and what a stream yields;
    - numbers and truth values are read by the readers;
    - timestamps and times are read likewise and then written by the dialect.  A bare date is its
      midnight, and a timestamp given for a time of day is reduced to its time.

  A value that does not fit is refused under the name of its parameter.  `CoercionFault` lists what
  else may go wrong: a refusal shows the value, so it needs a text of it, and bytes may fail to come
  of a text or a stream.

  Reading a stream uses it up: `drained` lists the streams that have been read, which yield
  nothing any more, and `Value.drains` says which stream a coercion reads.
-/
import TaggedSql.Coercion.Readers
import TaggedSql.Sql.Dialect
import TaggedSql.Value.Text

namespace TaggedSql

open TaggedSql.Calendar TaggedSql.Sql TaggedSql.Text

/-- Why a value was refused, beyond its kind. -/
inductive CoercionCause where
  /-- It does not spell a value of the type. -/
  | unreadable
  /-- Its bytes are not UTF-8. -/
  | notUtf8
  deriving DecidableEq, Repr

/-- Why a coercion failed. -/
inductive CoercionFault where
  /-- The value cannot be converted; it is shown as a text. -/
  | refused (value : Value) (shown : String) (cause : Option CoercionCause)
  /-- In UTC the timestamp lies outside the calendar. -/
  | outOfCalendar
  /-- An integer is too long to be written. -/
  | unwritable
  /-- A text has a lone surrogate, and no bytes. -/
  | unencodable
  /-- Reading a stream fails. -/
  | readFailed
  /-- What a stream yields cannot be made into bytes. -/
  | nothingRead

namespace Coercion

/-- The refusal of a value, if a text can be made that shows it. -/
def refusal (v : Value) (cause : Option CoercionCause) : CoercionFault :=
  v.display?.elim .unwritable fun shown => .refused v shown cause

/-- The text to bind for a value. -/
def toText : Value → Except CoercionFault Value
  | .text s => .ok (.text s)
  | .illFormed s => .ok (.illFormed s)
  | .constant _ v => toText v
  | .blob kind bs =>
    match Utf8.decodeString bs with
    | some s => .ok (.text s)
    | none => .error (refusal (.blob kind bs) (some .notUtf8))
  | .collection kind items => .error (refusal (.collection kind items) none)
  | .mapping entries => .error (refusal (.mapping entries) none)
  | v =>
    match v.plain? with
    | some s => .ok (.text s)
    | none => .error .unwritable

/-- What comes of a stream that cannot be read. -/
def ofFailure : ReadFailure → CoercionFault
  | .fails => .readFailed
  | .nothing => .nothingRead
  | .illFormed => .unencodable

/-- The bytes that a stream's content amounts to. -/
def streamBytes : StreamContent → Except CoercionFault (List UInt8)
  | .text s => .ok (Utf8.encode s.toList)
  | .bytes bs => .ok bs
  | .unreadable _ _ failure => .error (ofFailure failure)

/-- The bytes to bind for a value. -/
def toBlob (drained : List Nat) : Value → Except CoercionFault Value
  | .blob _ bs => .ok (.blob .bytes bs)
  | .text s => .ok (.blob .bytes (Utf8.encode s.toList))
  | .illFormed _ => .error .unencodable
  | .stream id content =>
    (streamBytes content).map fun bs => .blob .bytes (if drained.contains id then [] else bs)
  | v => .error (refusal v none)

/-- What was read, or the refusal of the value it was read from. -/
def orRefuse (v : Value) : Option Value → Except CoercionFault Value
  | some w => .ok w
  | none => .error (refusal v (some .unreadable))

/-- A bare date is its midnight. -/
def atMidnight : Value → Value
  | .date d => .timestamp ⟨d, .midnight⟩
  | v => v

/-- A timestamp is reduced to its time of day. -/
def timeOfDay : Value → Value
  | .timestamp t => .time t.clock
  | v => v

/-- The dialect's text of a timestamp. -/
def toTimestampText (r : Readers) (d : Dialect) (v : Value) : Except CoercionFault Value :=
  let v := atMidnight v
  match r.timestamp v with
  | none => .error (refusal v (some .unreadable))
  | some t =>
    match d.timestampText? t with
    | none => .error .outOfCalendar
    | some s => .ok (.text s)

/-- The dialect's text of a time of day. -/
def toTimeText (r : Readers) (d : Dialect) (v : Value) : Except CoercionFault Value :=
  let v := timeOfDay v
  orRefuse v ((r.clock v).map fun t => .text (d.timeText t))

/-- What is bound for a value that is not absent. -/
def convert (r : Readers) (d : Dialect) (drained : List Nat) (type : BindType) (v : Value) :
    Except CoercionFault Value :=
  match type with
  | .text => toText v
  | .blob => toBlob drained v
  | .int => orRefuse v (r.int v)
  | .float => orRefuse v ((r.float v).map .float)
  | .bool => orRefuse v ((r.bool v).map .bool)
  | .timestamp => toTimestampText r d v
  | .time => toTimeText r d v

/-- What is bound for a value under a bind type, with given readers. -/
def Readers.coerce (r : Readers) (d : Dialect) (drained : List Nat) (type : BindType) (v : Value) :
    Except CoercionFault Value :=
  if v.isNull then .ok .null else convert r d drained type v

end Coercion

/-- What is bound for a value under a bind type. -/
def coerce (d : Dialect) (drained : List Nat) (type : BindType) (v : Value) :
    Except CoercionFault Value :=
  Coercion.Readers.standard.coerce d drained type v

/-- The stream that coercing the value under the type reads. -/
def Value.drains (type : BindType) (v : Value) : List Nat :=
  match type, v with
  | .blob, .stream id _ => [id]
  | _, _ => []

end TaggedSql
