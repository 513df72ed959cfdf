/-
  Equality of values.

  Two values are the same when their contents are: all numbers compare as numbers, whatever their
  kind (`1`, `1.0` and `true` are the same), byte strings compare by their bytes, sets by their
  members and mappings by their entries in any order, and times by the instant, a naive and an
  aware one never being the same.  A named constant and a stream are the same as themselves only,
  and a not-a-number is not the same as anything, itself included.

  A signaling not-a-number cannot even be compared with a number: `Value.signals` tells whether
  comparing two values comes upon such a pair.
-/
import TaggedSql.Value

namespace TaggedSql

open TaggedSql.Number

namespace Value

/-- A value that is a number: a finite one, or an infinity of a sign. -/
inductive Magnitude where
  | finite (x : Scientific)
  | infinite (negative : Bool)
  | unordered
  deriving DecidableEq, Repr

/-- The number that a value is. -/
def magnitude? : Value → Option Magnitude
  | .bool b => some (.finite (.ofInt (if b then 1 else 0)))
  | .int n => some (.finite (.ofInt n))
  | .float x => some <| match x with
    | .nan => .unordered
    | .infinite negative => .infinite negative
    | x => x.toScientific?.elim .unordered .finite
  | .decimal d => some <| match d with
    | .nan .. => .unordered
    | .infinite negative => .infinite negative
    | .finite x => .finite x
  | _ => none

/-- Whether two numbers are equal. -/
def Magnitude.same : Magnitude → Magnitude → Bool
  | .finite x, .finite y => x.same y
  | .infinite a, .infinite b => a == b
  | _, _ => false

/-- Whether the first number is the smaller one. -/
def Magnitude.lt : Magnitude → Magnitude → Bool
  | .finite x, .finite y => x.lt y
  | .infinite a, .infinite b => a && !b
  | .infinite a, .finite _ => a
  | .finite _, .infinite b => !b
  | _, _ => false

/-- Whether both values are numbers, and equal ones. -/
def sameNumber (v w : Value) : Bool :=
  match v.magnitude?, w.magnitude? with
  | some a, some b => a.same b
  | _, _ => false

mutual

/-- Whether two values are the same. -/
def same : Value → Value → Bool
  | .null, .null => true
  | .text s, .text t => s == t
  | .illFormed s, .illFormed t => s == t
  | .blob _ a, .blob _ b => a == b
  | .date a, .date b => a == b
  | .time a, .time b => a.same b
  | .timestamp a, .timestamp b => a.same b
  | .uuid a, .uuid b => a == b
  | .raw a, .raw b => a == b
  | .constant a _, .constant b _ => a == b
  | .stream a _, .stream b _ => a == b
  | .collection j xs, .collection k ys =>
    if j.isSet || k.isSet then
      j.isSet && k.isSet && xs.length == ys.length && allIn xs ys
    else j == k && sameItems xs ys
  | .mapping xs, .mapping ys => xs.length == ys.length && allEntriesIn xs ys
  | v, w => sameNumber v w

/-- Whether two lists hold the same values in the same order. -/
def sameItems : List Value → List Value → Bool
  | [], [] => true
  | v :: vs, w :: ws => same v w && sameItems vs ws
  | _, _ => false

/-- Whether every value of the first list is in the second. -/
def allIn : List Value → List Value → Bool
  | [], _ => true
  | v :: vs, ws => ws.any (same v) && allIn vs ws

/-- Whether every entry of the first mapping is in the second. -/
def allEntriesIn : List (Value × Value) → List (Value × Value) → Bool
  | [], _ => true
  | (k, v) :: rest, ws => ws.any (fun w => same k w.1 && same v w.2) && allEntriesIn rest ws

end

/-! ## Values that cannot be compared -/

/-- Why two values cannot be compared. -/
inductive Incomparable where
  /-- Their kinds have no order. -/
  | kinds
  /-- One of two numbers, at least one of them a decimal, is not a number. -/
  | notANumber
  deriving DecidableEq, Repr

/-- Whether a value is a signaling not-a-number. -/
def isSignaling : Value → Bool
  | .decimal (.nan _ signaling _) => signaling
  | _ => false

mutual

/-- Whether comparing two values comes upon a signaling not-a-number beside a number.  Lists and
    mappings of different lengths differ before their members are compared; tuples do not. -/
def signals : Value → Value → Bool
  | .collection .list xs, .collection .list ys => xs.length == ys.length && itemsSignal xs ys
  | .collection .tuple xs, .collection .tuple ys => itemsSignal xs ys
  | .mapping xs, .mapping ys => xs.length == ys.length && entriesSignal xs ys
  | v, w => (v.isSignaling || w.isSignaling) && v.magnitude?.isSome && w.magnitude?.isSome

/-- Whether comparing two sequences up to their first difference does. -/
def itemsSignal : List Value → List Value → Bool
  | v :: vs, w :: ws => signals v w || (same v w && itemsSignal vs ws)
  | _, _ => false

/-- Whether comparing the entries of two mappings up to their first difference does. -/
def entriesSignal : List (Value × Value) → List (Value × Value) → Bool
  | [], _ => false
  | (k, v) :: rest, ws =>
    match ws.find? fun w => same k w.1 with
    | some w => signals v w.2 || (same v w.2 && entriesSignal rest ws)
    | none => false

end

end Value

end TaggedSql
