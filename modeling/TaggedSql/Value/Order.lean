/-
  The order of values, and sorting by it.

  `Value.lt` compares two values of one family: numbers, texts by code point, byte strings,
  days, times and timestamps when both are naive or both aware, identifiers, tuples by their
  first differing members, sets by inclusion.  Values of two families have no order, so a list
  that mixes them cannot be sorted, and a decimal has none with a not-a-number.

  The order is partial: of two sets neither may come first, and a float that is not a number comes
  before nothing and after nothing.  Sorting is therefore pinned down by the comparisons it makes:
  the run that the list starts with is taken as it is, or reversed when it falls, and the other
  values are put into it one after the other by halving.
-/
import TaggedSql.Value.Equality

namespace TaggedSql.Value

/-! ## The order -/

/-- Whether one list of bytes comes before another, compared byte by byte. -/
def bytesLt : List UInt8 → List UInt8 → Bool
  | _, [] => false
  | [], _ :: _ => true
  | a :: as, b :: bs => decide (a < b) || (a == b && bytesLt as bs)

/-- The codes of a text's characters. -/
def codes (s : String) : List Nat := s.toList.map Char.toNat

/-- Whether a value is a decimal. -/
def isDecimal : Value → Bool
  | .decimal _ => true
  | _ => false

/-- Whether both values are numbers and the first is the smaller one. -/
def ltNumber (v w : Value) : Except Incomparable Bool :=
  match v.magnitude?, w.magnitude? with
  | some a, some b =>
    if (v.isDecimal || w.isDecimal) && decide (a = .unordered ∨ b = .unordered) then
      .error .notANumber
    else .ok (a.lt b)
  | _, _ => .error .kinds

mutual

/-- Whether the first value comes before the second, when the two can be compared. -/
def lt : Value → Value → Except Incomparable Bool
  | .text s, .text t => .ok (decide (s < t))
  | .text s, .illFormed t => .ok (decide (codes s < t.codes))
  | .illFormed s, .text t => .ok (decide (s.codes < codes t))
  | .illFormed s, .illFormed t => .ok (decide (s.codes < t.codes))
  | .blob .view _, .blob .. => .error .kinds
  | .blob .., .blob .view _ => .error .kinds
  | .blob _ a, .blob _ b => .ok (bytesLt a b)
  | .date a, .date b => .ok (decide (a.ordinal < b.ordinal))
  | .time a, .time b =>
    if a.offset.isSome == b.offset.isSome then .ok (decide (a.comparand < b.comparand))
    else .error .kinds
  | .timestamp a, .timestamp b =>
    if a.clock.offset.isSome == b.clock.offset.isSome then .ok (decide (a.instant < b.instant))
    else .error .kinds
  | .uuid a, .uuid b => .ok (decide (a < b))
  | .collection j xs, .collection k ys =>
    if j.isSet && k.isSet then .ok (decide (xs.length < ys.length) && allIn xs ys)
    else if j == k then ltItems xs ys
    else .error .kinds
  | v, w => ltNumber v w

/-- The order of two sequences: that of the first members that differ, or of the lengths. -/
def ltItems : List Value → List Value → Except Incomparable Bool
  | _, [] => .ok false
  | [], _ :: _ => .ok true
  | v :: vs, w :: ws => if same v w then ltItems vs ws else lt v w

end

/-! ## Sorting -/

/-- The longest start of a list in which every value comes before its predecessor, or in which
    none does, `last` being the predecessor of the first; and the rest. -/
def takeRun (falling : Bool) (last : Value) :
    List Value → Except Incomparable (List Value × List Value)
  | [] => .ok ([], [])
  | v :: vs =>
    match lt v last with
    | .error e => .error e
    | .ok before =>
      if before == falling then (takeRun falling v vs).map fun r => (v :: r.1, r.2)
      else .ok ([], v :: vs)

/-- The run that a list starts with, not falling, and the rest. -/
def firstRun : List Value → Except Incomparable (List Value × List Value)
  | v :: w :: rest =>
    match lt w v with
    | .error e => .error e
    | .ok falling =>
      (takeRun falling v (w :: rest)).map fun r =>
        (if falling then (v :: r.1).reverse else v :: r.1, r.2)
  | vs => .ok (vs, [])

/-- Puts a value into a sorted list: into the half behind the value in the middle, or into the
    half in front of it when it comes before that value. -/
def insertSorted (v : Value) (ws : List Value) : Except Incomparable (List Value) :=
  match h : ws[ws.length / 2]? with
  | none => .ok [v]
  | some w =>
    have : ws.length / 2 < ws.length := (List.getElem?_eq_some_iff.1 h).1
    let lower := ws.take (ws.length / 2)
    let upper := ws.drop (ws.length / 2 + 1)
    match lt v w with
    | .error e => .error e
    | .ok true => (insertSorted v lower).map (· ++ w :: upper)
    | .ok false => (insertSorted v upper).map (lower ++ w :: ·)
termination_by ws.length
decreasing_by
  · simp only [List.length_take]; omega
  · simp only [List.length_drop]; omega

/-- The values in increasing order, when all of them can be compared. -/
def sort (vs : List Value) : Except Incomparable (List Value) :=
  match firstRun vs with
  | .error e => .error e
  | .ok (run, rest) => rest.foldlM (fun sorted v => insertSorted v sorted) run

end TaggedSql.Value
