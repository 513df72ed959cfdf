/-
  The values a caller hands over for a parameter.

  A parameter may hold anything: the scalars that databases know, collections of them, and things
  that are no scalar at all (a stream to read from, a named constant, a fragment of SQL).  What
  becomes of a value is decided elsewhere: `BindType.infer` looks at its kind, coercion at its
  content.

  Byte strings and collections come in several kinds that hold the same content; `BlobKind` and
  `CollectionKind` tell them apart, and `Value.kindName` is the name a message uses.

  A text is a sequence of characters, or else has a surrogate that stands alone.  A stream yields a
  text or bytes when it is read for the first time and nothing after that; one that cannot be read
  fails each time.
-/
import TaggedSql.Calendar.Timestamp
import TaggedSql.Number.Binary64
import TaggedSql.Text.IllFormed

namespace TaggedSql

/-- The kinds of byte strings: a constant one, a growable buffer, and a view of another's bytes. -/
inductive BlobKind where
  | bytes
  | buffer
  | view
  deriving DecidableEq, Repr

/-- The kinds of collections: two ordered ones and two without order. -/
inductive CollectionKind where
  | list
  | tuple
  | set
  | frozenSet
  deriving DecidableEq, Repr

/-- Why a stream cannot be read. -/
inductive ReadFailure where
  /-- Reading fails. -/
  | fails
  /-- What is read is neither text nor bytes, and no bytes can be made of it. -/
  | nothing
  /-- What is read is a text with a lone surrogate. -/
  | illFormed
  deriving DecidableEq, Repr

/-- What a stream yields when it is read for the first time; one that cannot be read is of a kind of
    its own and is shown as some text. -/
inductive StreamContent where
  | text (content : String)
  | bytes (content : List UInt8)
  | unreadable (kind shown : String) (failure : ReadFailure)
  deriving DecidableEq, Repr

/-- A member of an enumeration.  The number tells the enumeration from others of the same name. -/
structure Member where
  enumeration : String
  name : String
  number : Nat
  deriving DecidableEq, Repr

/-- A parameter value.  A stream carries the number that tells it from every other stream, and a
    named constant the member that it is. -/
inductive Value where
  | null
  | bool (b : Bool)
  | int (n : Int)
  | float (x : Number.Binary64)
  | decimal (d : Number.Decimal)
  | text (s : String)
  | illFormed (s : Text.IllFormed)
  | blob (kind : BlobKind) (bytes : List UInt8)
  | date (d : Calendar.Date)
  | time (t : Calendar.Clock)
  | timestamp (t : Calendar.Timestamp)
  | uuid (digits : String)
  | collection (kind : CollectionKind) (items : List Value)
  | mapping (entries : List (Value × Value))
  | constant (member : Member) (value : Value)
  | raw (sql : String)
  | stream (id : Nat) (content : StreamContent)
  deriving Inhabited

/-- The name of a kind of byte strings. -/
def BlobKind.name : BlobKind → String
  | .bytes => "bytes"
  | .buffer => "bytearray"
  | .view => "memoryview"

/-- The name of a kind of collections. -/
def CollectionKind.name : CollectionKind → String
  | .list => "list"
  | .tuple => "tuple"
  | .set => "set"
  | .frozenSet => "frozenset"

/-- Whether a kind of collections has no order. -/
def CollectionKind.isSet : CollectionKind → Bool
  | .set | .frozenSet => true
  | .list | .tuple => false

/-- The name of a stream's kind. -/
def StreamContent.name : StreamContent → String
  | .text _ => "StringIO"
  | .bytes _ => "BytesIO"
  | .unreadable kind _ _ => kind

namespace Value

/-- The name a message uses for the value's kind. -/
def kindName : Value → String
  | .null => "NoneType"
  | .bool _ => "bool"
  | .int _ => "int"
  | .float _ => "float"
  | .decimal _ => "Decimal"
  | .text _ | .illFormed _ => "str"
  | .blob kind _ => kind.name
  | .date _ => "date"
  | .time _ => "time"
  | .timestamp _ => "datetime"
  | .uuid _ => "UUID"
  | .collection kind _ => kind.name
  | .mapping _ => "dict"
  | .constant member _ => member.enumeration
  | .raw _ => "Raw"
  | .stream _ content => content.name

/-- Whether the value is absent, which a database stores as NULL. -/
def isNull : Value → Bool
  | .null => true
  | _ => false

end Value

end TaggedSql
