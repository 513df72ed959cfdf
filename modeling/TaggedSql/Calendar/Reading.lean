/-
  Reading dates and times from their fixed-width text.

  A time is `HH:MM`, `:SS` may follow, then a fraction after a point or a comma, then an offset:
  `Z`, or a sign (the minus sign U+2212 included) with `HHMM` or `HH:MM`.  A fraction may have any
  number of digits, of which six count.  A timestamp is `YYYY-MM-DD`, alone or followed by one of
  `T`, `t`, `_` and a space and by a time.  Nothing else may stand before, between or after.
-/
import TaggedSql.Calendar.Timestamp

namespace TaggedSql.Calendar

/-- Exactly `n` digits at the front, and what follows them. -/
def digits? (n : Nat) (s : List Char) : Option (Nat × List Char) :=
  let front := s.take n
  if front.length = n then (Number.read? front).map fun v => (v, s.drop n) else none

/-- The offset that a text spells: none when it is empty. -/
def readOffset? (s : List Char) : Option (Option Offset) :=
  match s with
  | [] => some none
  | ['Z'] | ['z'] => some (some .utc)
  | sign :: rest =>
    if sign = '+' || sign = '-' || sign = '−' then
      (digits? 2 rest).bind fun h =>
        let tail := match h.2 with
          | ':' :: r => r
          | r => r
        (digits? 2 tail).bind fun m =>
          if m.2.isEmpty && decide (h.1 ≤ 23) && decide (m.1 ≤ 59) then
            let seconds : Int := h.1 * 3600 + m.1 * 60
            some (some (.ofSeconds (if sign = '+' then seconds else -seconds)))
          else none
    else none

/-- Microseconds from the digits of a fraction: six of them count, missing ones are zeros. -/
def readFraction (ds : List Char) : Nat :=
  let six := ds.take 6
  Nat.ofDigitChars 10 (six ++ List.replicate (6 - six.length) '0') 0

/-- The fraction and the offset that follow the seconds. -/
def readAfterSeconds? (s : List Char) : Option (Nat × Option Offset) :=
  match s with
  | c :: rest =>
    if c = '.' || c = ',' then
      let ds := rest.takeWhile Char.isDigit
      if ds.isEmpty then none
      else (readOffset? (rest.dropWhile Char.isDigit)).map fun o => (readFraction ds, o)
    else (readOffset? s).map fun o => (0, o)
  | [] => some (0, none)

/-- The time of day that a text spells. -/
def Clock.read? (s : List Char) : Option Clock :=
  (digits? 2 s).bind fun h =>
    match h.2 with
    | ':' :: rest => (digits? 2 rest).bind fun m =>
      if 23 < h.1 || 59 < m.1 then none
      else match m.2 with
        | ':' :: rest => (digits? 2 rest).bind fun sec =>
          if 59 < sec.1 then none
          else (readAfterSeconds? sec.2).map fun r => ⟨h.1, m.1, sec.1, r.1, r.2⟩
        | rest => (readOffset? rest).map fun o => ⟨h.1, m.1, 0, 0, o⟩
    | _ => none

/-- The date at the front of a text, and what follows it. -/
def Date.readFront? (s : List Char) : Option (Date × List Char) :=
  (digits? 4 s).bind fun y =>
    match y.2 with
    | '-' :: rest => (digits? 2 rest).bind fun m =>
      match m.2 with
      | '-' :: rest => (digits? 2 rest).bind fun d =>
        (Date.ofFields? y.1 m.1 d.1).map fun date => (date, d.2)
      | _ => none
    | _ => none

/-- The timestamp that a text spells; a date alone is its midnight. -/
def Timestamp.read? (s : List Char) : Option Timestamp :=
  (Date.readFront? s).bind fun d =>
    match d.2 with
    | [] => some ⟨d.1, .midnight⟩
    | c :: rest =>
      if c = 'T' || c = 't' || c = '_' || c = ' ' then
        (Clock.read? rest).map fun t => ⟨d.1, t⟩
      else none

end TaggedSql.Calendar
