/-
  Bind types: what a placeholder asks its value to be converted to.

  A placeholder may carry a one-letter tag that names its bind type, and none means text; the
  letter `s` says so explicitly.  `BindType.ofTag?` reads a tag, `BindType.tag` writes the one
  that query builders use, and `BindType.infer` picks the type under which a builder tags a value.
-/
import TaggedSql.Value

namespace TaggedSql

/-- The type a parameter's value is converted to before it is bound. -/
inductive BindType where
  | text
  | int
  | float
  | bool
  | blob
  | timestamp
  | time
  deriving DecidableEq, Repr, Inhabited

namespace BindType

/-- The name that messages use. -/
def name : BindType → String
  | .text => "STR"
  | .int => "INT"
  | .float => "FLOAT"
  | .bool => "BOOL"
  | .blob => "LOB"
  | .timestamp => "DATE_TIME"
  | .time => "TIME"

/-- The bind type with the name. -/
def ofName? (s : String) : Option BindType :=
  [text, int, float, bool, blob, timestamp, time].find? fun t => t.name == s

/-- The bind type that a tag letter stands for. -/
def ofTag? : Char → Option BindType
  | 's' => some .text
  | 'i' => some .int
  | 'f' => some .float
  | 'b' => some .bool
  | 'l' => some .blob
  | 'd' => some .timestamp
  | 't' => some .time
  | _ => none

/-- The tag letters, in alphabetical order. -/
def tagLetters : List Char := ['b', 'd', 'f', 'i', 'l', 's', 't']

/-- The tag letter that a builder writes; text goes untagged. -/
def tag : BindType → Option Char
  | .text => none
  | .int => some 'i'
  | .float => some 'f'
  | .bool => some 'b'
  | .blob => some 'l'
  | .timestamp => some 'd'
  | .time => some 't'

/-- The type under which a value is tagged: by its kind, and text for every kind that has no type
    of its own. -/
def infer : Value → BindType
  | .bool _ => .bool
  | .int _ => .int
  | .float _ => .float
  | .blob .. => .blob
  | .timestamp _ | .date _ => .timestamp
  | .time _ => .time
  | _ => .text

/-- A written tag reads back as its type. -/
theorem ofTag?_of_tag {t : BindType} {c : Char} (h : t.tag = some c) : ofTag? c = some t := by
  cases t <;> simp [tag] at h <;> subst h <;> rfl

/-- The tag letters are exactly the characters that stand for a type. -/
theorem mem_tagLetters_iff (c : Char) : c ∈ tagLetters ↔ (ofTag? c).isSome := by
  constructor
  · intro h
    simp only [tagLetters, List.mem_cons, List.not_mem_nil, or_false] at h
    rcases h with h | h | h | h | h | h | h <;> subst h <;> rfl
  · intro h
    unfold ofTag? at h
    split at h <;> simp_all [tagLetters]

end BindType

end TaggedSql
