/-
  Reading numbers and truth values out of arbitrary values.

  Three readers, `readInt?`, `readFloat?` and `readBool`, take a value of any kind.  Each accepts
  its own kind, the numbers that convert without loss of meaning, and text: strings, and constant
  byte strings that hold UTF-8.  A growable buffer or a view is never taken for text.

    - An integer may be a truth value, a whole number, or text with single underscores between its
      digits, any number of zeros and underscores in front of them, and zeros after a point; a
      named constant stands for whatever it holds.
    - A float may be any number, or text, with blanks around it or else with single underscores in
      it.
    - A truth value may be 0 or 1 in any numeric kind, or one of a dozen words in any case.
-/
import TaggedSql.Value
import TaggedSql.Text.Blank
import TaggedSql.Text.Utf8

namespace TaggedSql.Coercion

open TaggedSql.Number TaggedSql.Text

/-- The text of a value that counts as text: a string, or constant bytes that are UTF-8. -/
def textOf? : Value → Option (List Char)
  | .text s => some s.toList
  | .blob .bytes bs => Utf8.decode bs
  | _ => none

/-! ## Integers -/

/-- What is left of a number behind a zero, given the character that was skipped last.  Zeros and
    underscores are skipped; a zero that is all there is, or that a point follows, stays.  The
    digits behind the zeros may have a minus of their own. -/
def afterZero? (last : Char) : List Char → Option (List Char)
  | [] => some [last]
  | c :: s =>
    if c = '0' || c = '_' then afterZero? c s
    else if c.isDigit || c = '-' then some (c :: s)
    else if c = '.' then some (last :: c :: s)
    else none

/-- A number without its leading zeros.  It starts with a digit or with a minus. -/
def dropZeros? : List Char → Option (List Char)
  | [] => none
  | c :: s =>
    if c = '0' then afterZero? c s
    else if c.isDigit || c = '-' then some (c :: s)
    else none

/-- A number without its point when zeros, and nothing else, stand behind it. -/
def dropPlaces (s : List Char) : List Char :=
  match s.dropWhile (· != '.') with
  | [] => s
  | _ :: zeros =>
    if !zeros.isEmpty && zeros.all (· == '0') then s.takeWhile (· != '.') else s

/-- A text without its underscores, when they may be dropped: none at either end, no two
    together. -/
def dropUnderscores (s : List Char) : List Char :=
  if (s.splitOn '_').all (fun g => !g.isEmpty) then s.filter (· != '_') else s

/-- The plain form of a number that is written without a sign: no leading zeros, no point, no
    underscores. -/
def plainInt? (s : List Char) : Option (List Char) :=
  (dropZeros? s).map fun t => dropUnderscores (dropPlaces t)

/-- The natural number that digits without a leading zero spell, if they are not too many. -/
def readPlainNat? (s : List Char) : Option Nat :=
  match s with
  | '0' :: _ :: _ => none
  | _ => if maxDigits < s.length then none else read? s

/-- The integer that a plain form spells: a minus or nothing, and digits without a leading
    zero. -/
def readPlainInt? : List Char → Option Int
  | '-' :: t => (readPlainNat? t).map fun n => -(n : Int)
  | t => (readPlainNat? t).map Int.ofNat

/-- The integer that a text spells. -/
def readIntText? (s : List Char) : Option Int :=
  match trim s with
  | '+' :: '-' :: _ => none
  | '+' :: t => (plainInt? t).bind readPlainInt?
  | '-' :: t => (plainInt? t).bind fun p => readPlainInt? ('-' :: p)
  | t => (plainInt? t).bind readPlainInt?

/-- The least natural number that takes more than 64 bits with its sign. -/
def int64Bound : Nat := Nat.pow 2 63

/-- The integer that a double is, within 64 bits. -/
def wholeFloat? (x : Binary64) : Option Int :=
  (x.toScientific?.bind Scientific.toInt?).filter fun n =>
    decide (-int64Bound < n ∧ n < int64Bound)

/-- The integer that a decimal is. -/
def wholeDecimal? : Decimal → Option Int
  | .finite x => x.toInt?
  | _ => none

/-- Reads a value as an integer.  What a named constant holds is not looked into. -/
def readInt? : Value → Option Value
  | .bool b => some (.int (if b then 1 else 0))
  | .int n => some (.int n)
  | .float x => (wholeFloat? x).map .int
  | .decimal d => (wholeDecimal? d).map .int
  | .constant _ v => some v
  | v => ((textOf? v).bind readIntText?).map .int

/-! ## Floats -/

/-- The double that a text spells: the text may have white space around it, or else underscores
    in it. -/
def readFloatText? (s : List Char) : Option Binary64 :=
  (Binary64.read? (trim s)).or (Binary64.read? (dropUnderscores s))

/-- The double nearest to an integer, when one is near. -/
def floatOfInt? (n : Int) : Option Binary64 :=
  match Binary64.ofInt n with
  | .infinite _ => none
  | x => some x

/-- The double nearest to a decimal; a signaling not-a-number has none. -/
def floatOfDecimal? : Decimal → Option Binary64
  | .nan _ true _ => none
  | d => some (Binary64.ofDecimal d)

/-- Reads a value as a float. -/
def readFloat? : Value → Option Binary64
  | .bool b => some (Binary64.ofInt (if b then 1 else 0))
  | .int n => floatOfInt? n
  | .float x => some x
  | .decimal d => floatOfDecimal? d
  | v => (textOf? v).bind readFloatText?

/-! ## Truth values -/

/-- Why a value is no truth value: its content is not one, or its kind has none. -/
inductive BoolFault where
  | content
  | kind
  deriving DecidableEq, Repr

/-- The words for false and for true, in lower case. -/
def boolWords : List (String × Bool) :=
  [("0", false), ("off", false), ("f", false), ("false", false), ("n", false), ("no", false),
   ("1", true), ("on", true), ("t", true), ("true", true), ("y", true), ("yes", true)]

/-- The truth value of a word, in any case. -/
def readBoolText (s : List Char) : Except BoolFault Bool :=
  match boolWords.lookup (String.ofList (s.map Char.toLower)) with
  | some b => .ok b
  | none => .error .content

/-- The truth value of a whole number. -/
def boolOfInt (n : Int) : Except BoolFault Bool :=
  if n = 0 then .ok false else if n = 1 then .ok true else .error .content

/-- The truth value of a double; one that is not whole has the wrong kind. -/
def boolOfFloat (x : Binary64) : Except BoolFault Bool :=
  match wholeFloat? x with
  | some n => boolOfInt n
  | none => .error .kind

/-- Reads a value as a truth value. -/
def readBool : Value → Except BoolFault Bool
  | .bool b => .ok b
  | .int n =>
    if -int64Bound ≤ n ∧ n < int64Bound then boolOfInt n
    else match floatOfInt? n with
      | some x => boolOfFloat x
      | none => .error .kind
  | .float x => boolOfFloat x
  | .decimal d =>
    match floatOfDecimal? d with
    | some x => boolOfFloat x
    | none => .error .kind
  | .text s => readBoolText s.toList
  | .blob .bytes bs =>
    match Utf8.decode bs with
    | some s => readBoolText s
    | none => .error .content
  | _ => .error .kind

end TaggedSql.Coercion
