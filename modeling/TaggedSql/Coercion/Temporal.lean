/-
  Reading timestamps and times of day out of arbitrary values.

  A number is a count of seconds since 1970 for a timestamp, or of milliseconds when it exceeds
  twenty billion; it is a count of seconds since midnight for a time of day.  Text is read by
  `Calendar.Timestamp.read?` and `Calendar.Clock.read?`; a timestamp may also be spelled as a plain
  number of seconds or milliseconds.  What comes of a number is in UTC.

  An integer is counted exactly.  Any other number counts as the double nearest to it, and its
  fraction is rounded to microseconds, upward from the integer below it.
-/
import TaggedSql.Calendar.Reading
import TaggedSql.Coercion.Number

namespace TaggedSql.Coercion

open TaggedSql.Number TaggedSql.Calendar

/-- A count of some unit of time: the integer that is not above it, and what is left, from 0
    to 1. -/
structure Count where
  whole : Int
  fraction : Binary64
  deriving DecidableEq, Repr

namespace Count

/-- An integer as a count. -/
def ofInt (n : Int) : Count := ⟨n, .zero false⟩

/-- A finite double as a count. -/
def ofDouble? (x : Binary64) : Option Count := x.split?.map fun p => ⟨p.1, p.2⟩

/-- The microseconds in a count of a unit that has so many of them.  The fraction's share is first
    rounded to a double and then to an integer. -/
def microseconds (unit : Nat) (c : Count) : Int :=
  c.whole * unit + ((c.fraction.times unit).nearestInt?.getD 0)

/-- The magnitude beyond which a number counts milliseconds. -/
def maxSeconds : Int := 20000000000

/-- Whether the magnitude of a count is beyond the greatest count of seconds. -/
def isMilliseconds (c : Count) : Bool :=
  decide (c.whole < -maxSeconds ∨ maxSeconds < c.whole ∨
    c.whole = maxSeconds ∧ c.fraction ≠ .zero false)

/-- The timestamp that lies so many seconds or milliseconds after the start of 1970. -/
def timestamp? (c : Count) : Option Timestamp :=
  Timestamp.ofEpoch? (c.microseconds (if c.isMilliseconds then 1000 else 1000000))

/-- The time of day so many seconds after midnight. -/
def clock? (c : Count) : Option Clock :=
  let n := c.microseconds 1000000
  if 0 ≤ c.whole ∧ n < 86400000000 then
    some (.ofMicrosecond n.toNat (some .utc))
  else none

/-- The count that a value of a numeric kind holds; a truth value holds none, and neither does a
    number that is not finite. -/
def ofValue? : Value → Option Count
  | .int n => some (ofInt n)
  | .float x => ofDouble? x
  | .decimal d => (floatOfDecimal? d).bind ofDouble?
  | _ => none

/-- The count that a text spells.  Without a point it is an integer; with one it is read as a
    double, and only then may it have an exponent.  The digits in front of the point must spell a
    number within 64 bits. -/
def read? (s : List Char) : Option Count :=
  let signed := Decimal.readSign s
  let whole := Number.read? (signed.2.takeWhile Char.isDigit)
  match signed.2.dropWhile Char.isDigit with
  | [] => whole.map fun n => ofInt (if signed.1 then -(n : Int) else n)
  | '.' :: _ =>
    if whole.getD 0 < int64Bound then (Binary64.read? s).bind ofDouble? else none
  | _ => none

end Count

/-- The timestamp that a text spells. -/
def readTimestampText? (s : List Char) : Option Timestamp :=
  (Timestamp.read? s).or ((Count.read? s).bind Count.timestamp?)

/-- Reads a value as a timestamp. -/
def readTimestamp? : Value → Option Timestamp
  | .timestamp t => some t
  | v =>
    match Count.ofValue? v with
    | some c => c.timestamp?
    | none => (textOf? v).bind readTimestampText?

/-- Reads a value as a time of day. -/
def readClock? : Value → Option Clock
  | .time t => some t
  | v =>
    match Count.ofValue? v with
    | some c => c.clock?
    | none => (textOf? v).bind Clock.read?

end TaggedSql.Coercion
