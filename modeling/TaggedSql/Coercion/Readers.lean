/-
  Readers: what numbers, truth values, timestamps and times of day are read with.

  How values of other kinds are read, and which of them are refused, is for the readers to say;
  coercion takes them as they are given.  The `standard` ones are those that the program runs with.
-/
import TaggedSql.Coercion.Temporal

namespace TaggedSql.Coercion

open TaggedSql.Calendar TaggedSql.Number

/-- Readers of values, one for each bind type that asks for reading.  What is read as an integer
    need not be one: the standard reader hands on what a named constant holds. -/
structure Readers where
  int : Value → Option Value
  float : Value → Option Binary64
  bool : Value → Option Bool
  timestamp : Value → Option Timestamp
  clock : Value → Option Clock

/-- The readers that the program runs with. -/
def Readers.standard : Readers where
  int := readInt?
  float := readFloat?
  bool v := (readBool v).toOption
  timestamp := readTimestamp?
  clock := readClock?

end TaggedSql.Coercion
