/-
  Two texts of a value.

  `Value.display?` is the unambiguous one that messages show: texts and byte strings are quoted
  literals, and every other value is spelled like the expression that makes it.  `Value.plain?` is
  the one that a text parameter binds: a text is itself, a scalar its usual spelling, and a
  collection is displayed.

  An integer that is too long is not written, and neither is what would show it.
-/
import TaggedSql.Value
import TaggedSql.Number.Shortest

namespace TaggedSql

open TaggedSql.Number TaggedSql.Text

namespace Value

/-- Arguments of a displayed expression. -/
def arguments (xs : List String) : String := "(" ++ ", ".intercalate xs ++ ")"

/-- The arguments that give a span of time, those that are zero left out; negative spans count from
    the day before. -/
def spanArguments (microseconds : Int) : List String :=
  let n := if microseconds < 0 then microseconds + 86400000000 else microseconds
  (if microseconds < 0 then ["days=-1"] else []) ++
    (if n / 1000000 = 0 then [] else ["seconds=" ++ ofInt (n / 1000000)]) ++
    (if n % 1000000 = 0 then [] else ["microseconds=" ++ ofInt (n % 1000000)])

/-- The argument that gives an offset from UTC, in a displayed time. -/
def offsetArgument : Option Calendar.Offset → List String
  | none => []
  | some o =>
    if o = .utc then ["tzinfo=datetime.timezone.utc"]
    else ["tzinfo=datetime.timezone(datetime.timedelta" ++ arguments (spanArguments o.microseconds) ++
      ")"]

/-- The arguments that give a time of day: hour and minute always, the second when it or the
    microsecond is not zero, the microsecond when it is not. -/
def clockArguments (t : Calendar.Clock) : List String :=
  [ofInt t.hour, ofInt t.minute] ++
    (if t.second = 0 ∧ t.microsecond = 0 then [] else [ofInt t.second]) ++
    (if t.microsecond = 0 then [] else [ofInt t.microsecond]) ++ offsetArgument t.offset

/-- The arguments that give a day. -/
def dateArguments (d : Calendar.Date) : List String := [ofInt d.year, ofInt d.month, ofInt d.day]

/-- A collection of displayed members; the empty set has no bracket form of its own. -/
def displayMembers (kind : CollectionKind) (xs : List String) : String :=
  let inner := ", ".intercalate xs
  match kind with
  | .list => "[" ++ inner ++ "]"
  | .tuple => if xs.length = 1 then "(" ++ inner ++ ",)" else "(" ++ inner ++ ")"
  | .set => if xs.isEmpty then "set()" else "\x7b" ++ inner ++ "\x7d"
  | .frozenSet => if xs.isEmpty then "frozenset()" else "frozenset(\x7b" ++ inner ++ "\x7d)"

/-- A byte string of each kind; a view shows no content. -/
def displayBlob (kind : BlobKind) (bytes : List UInt8) : String :=
  match kind with
  | .bytes => quotedBytes bytes
  | .buffer => "bytearray(" ++ quotedBuffer bytes ++ ")"
  | .view => "<memory at 0x>"

/-- A raw fragment of SQL. -/
def displayRaw (sql : String) : String := "Raw(sql=" ++ quoted sql ++ ")"

/-- A stream shows its kind and no content. -/
def displayStream : StreamContent → String
  | .unreadable _ shown _ => shown
  | content => "<_io." ++ content.name ++ " object at 0x>"

mutual

/-- The unambiguous text of a value. -/
def display? : Value → Option String
  | .null => some "None"
  | .bool b => some (if b then "True" else "False")
  | .int n => if isWritable n then some (ofInt n) else none
  | .float x => some x.text
  | .decimal d => some ("Decimal('" ++ d.text ++ "')")
  | .text s => some (quoted s)
  | .illFormed s => some s.quoted
  | .blob kind bytes => some (displayBlob kind bytes)
  | .date d => some ("datetime.date" ++ arguments (dateArguments d))
  | .time t => some ("datetime.time" ++ arguments (clockArguments t))
  | .timestamp t =>
    some ("datetime.datetime" ++ arguments (dateArguments t.date ++ clockArguments t.clock))
  | .uuid digits => some ("UUID('" ++ digits ++ "')")
  | .collection kind items => (displayAll? items).map (displayMembers kind)
  | .mapping entries =>
    (displayEntries? entries).map fun xs => "\x7b" ++ ", ".intercalate xs ++ "\x7d"
  | .constant member v =>
    (display? v).map fun x => "<" ++ member.enumeration ++ "." ++ member.name ++ ": " ++ x ++ ">"
  | .raw sql => some (displayRaw sql)
  | .stream _ content => some (displayStream content)

/-- The displayed members of a collection. -/
def displayAll? : List Value → Option (List String)
  | [] => some []
  | v :: vs =>
    match display? v, displayAll? vs with
    | some x, some xs => some (x :: xs)
    | _, _ => none

/-- The displayed entries of a mapping. -/
def displayEntries? : List (Value × Value) → Option (List String)
  | [] => some []
  | (k, v) :: rest =>
    match display? k, display? v, displayEntries? rest with
    | some x, some y, some xs => some ((x ++ ": " ++ y) :: xs)
    | _, _, _ => none

end

/-- The plain text of a value. -/
def plain? : Value → Option String
  | .text s => some s
  | .illFormed s => some s.replaced
  | .decimal d => some d.text
  | .date d => some d.text
  | .time t => some t.text
  | .timestamp t => some t.text
  | .uuid digits => some digits
  | .constant member _ => some (member.enumeration ++ "." ++ member.name)
  | .raw sql => some sql
  | v => v.display?

end Value

end TaggedSql
