/-
  Times of day, to the microsecond, with an optional offset from UTC.

  A time without an offset is *naive*, one with an offset is *aware*.  The text of a time has the
  fraction only when it is not zero, and the offset only when there is one; the offset's seconds
  and their fraction again only when they are not zero.

  Offsets are kept to the microsecond as well.  Where a number stands for one it counts seconds.
-/
import TaggedSql.Number.Digits

namespace TaggedSql.Calendar

/-! ## Offsets -/

/-- An offset from UTC. -/
structure Offset where
  microseconds : Int
  deriving DecidableEq, Repr

namespace Offset

/-- No offset from UTC. -/
def utc : Offset := ⟨0⟩

/-- The offset of so many seconds. -/
def ofSeconds (n : Int) : Offset := ⟨n * 1000000⟩

/-- The whole seconds of an offset, rounded down. -/
def seconds (o : Offset) : Int := o.microseconds / 1000000

instance : Coe (Option Int) (Option Offset) := ⟨Option.map ofSeconds⟩

instance : Coe (Option Offset) (Option Int) := ⟨Option.map seconds⟩

/-- The seconds of an offset and their fraction, each only when it is not zero; `n` is the
    magnitude of the offset. -/
def secondsText (n : Nat) : String :=
  if n % 60000000 = 0 then ""
  else ":" ++ Number.padded 2 (n / 1000000 % 60) ++
    (if n % 1000000 = 0 then "" else "." ++ Number.padded 6 (n % 1000000))

/-- An offset: its sign, hours and minutes, and what is left when that is not zero. -/
def text (o : Offset) : String :=
  let n := o.microseconds.natAbs
  (if o.microseconds < 0 then "-" else "+") ++ Number.padded 2 (n / 3600000000) ++ ":" ++
    Number.padded 2 (n / 60000000 % 60) ++ secondsText n

end Offset

/-! ## Times of day -/

/-- A time of day. -/
structure Clock where
  hour : Nat
  minute : Nat
  second : Nat
  microsecond : Nat
  offset : Option Offset
  deriving DecidableEq, Repr

namespace Clock

/-- Midnight, naive. -/
def midnight : Clock := ⟨0, 0, 0, 0, none⟩

/-- The seconds passed since midnight. -/
def secondOfDay (t : Clock) : Nat := t.hour * 3600 + t.minute * 60 + t.second

/-- The microseconds passed since midnight. -/
def microsecondOfDay (t : Clock) : Nat := t.secondOfDay * 1000000 + t.microsecond

/-- The time at a microsecond of the day. -/
def ofMicrosecond (n : Nat) (offset : Option Offset) : Clock :=
  ⟨n / 3600000000, n / 60000000 % 60, n / 1000000 % 60, n % 1000000, offset⟩

/-- Hours, minutes and seconds with colons between them. -/
def hms (t : Clock) : String :=
  Number.padded 2 t.hour ++ ":" ++ Number.padded 2 t.minute ++ ":" ++ Number.padded 2 t.second

/-- The fraction of the second after a point, or nothing when it is zero. -/
def fraction (t : Clock) : String :=
  if t.microsecond = 0 then "" else "." ++ Number.padded 6 t.microsecond

/-- The time in full. -/
def text (t : Clock) : String :=
  t.hms ++ t.fraction ++ t.offset.elim "" Offset.text

/-- The microseconds from midnight UTC to an aware time, from midnight to a naive one. -/
def instant (t : Clock) : Int :=
  (t.microsecondOfDay : Int) - t.offset.elim 0 Offset.microseconds

/-- What times of day are compared by: the microseconds from midnight UTC, only the whole seconds of
    an offset being taken into account. -/
def comparand (t : Clock) : Int :=
  (t.microsecondOfDay : Int) - t.offset.elim 0 Offset.seconds * 1000000

/-- Two times agree when both are naive or both aware and they compare equal. -/
def same (t u : Clock) : Bool :=
  t.offset.isSome == u.offset.isSome && t.comparand == u.comparand

end Clock

end TaggedSql.Calendar
