/-
  Timestamps: a day and a time of day, naive or aware.

  `Timestamp.toUtc?` moves an aware timestamp to UTC, which may leave the calendar at either end;
  since an offset stays below a day, the day changes by one at most.  `Timestamp.ofEpoch?` turns
  microseconds since 1970 into an aware timestamp in UTC.
-/
import TaggedSql.Calendar.Date
import TaggedSql.Calendar.Clock

namespace TaggedSql.Calendar

/-- A point in time on some wall clock. -/
structure Timestamp where
  date : Date
  clock : Clock
  deriving DecidableEq, Repr

namespace Timestamp

/-- The microseconds from the start of the calendar to the timestamp: in UTC for an aware one, on
    its own wall clock for a naive one. -/
def instant (t : Timestamp) : Int := (t.date.ordinal : Int) * 86400000000 + t.clock.instant

/-- Two timestamps agree when both are naive or both aware and they denote one instant. -/
def same (t u : Timestamp) : Bool :=
  t.clock.offset.isSome == u.clock.offset.isSome && t.instant == u.instant

/-- The timestamp on a naive UTC wall clock; a naive one is taken as it is.  None when UTC has
    left the calendar. -/
def toUtc? (t : Timestamp) : Option Timestamp :=
  match t.clock.offset with
  | none => some t
  | some _ =>
    let n := t.clock.instant
    if n < 0 then t.date.previous?.map fun d => ⟨d, .ofMicrosecond (n + 86400000000).toNat none⟩
    else if 86400000000 ≤ n then
      t.date.next?.map fun d => ⟨d, .ofMicrosecond (n - 86400000000).toNat none⟩
    else some ⟨t.date, .ofMicrosecond n.toNat none⟩

/-- The ordinal of 1 January 1970. -/
def epochOrdinal : Int := 719163

/-- The aware timestamp in UTC that lies so many microseconds after the start of 1970. -/
def ofEpoch? (microseconds : Int) : Option Timestamp :=
  let day := Int.fdiv microseconds 86400000000
  let rest := (microseconds - day * 86400000000).toNat
  (Date.ofOrdinal? (epochOrdinal + day)).map fun d =>
    ⟨d, .ofMicrosecond rest (some .utc)⟩

/-- The day and the time with a space between them. -/
def text (t : Timestamp) : String := t.date.text ++ " " ++ t.clock.text

end Timestamp

end TaggedSql.Calendar
