/-
  The parameters that a builder has collected.

  Bindings map names to values in the order in which the names came up; binding a name again
  replaces its value in place.  `Bindings.bind` stores a value under the next generated name,
  `param_0`, `param_1`, ..., passing over the names that are taken, and returns the marker that
  refers to it.  Among `k + 1` generated names at least one is not among `k` taken ones, so the
  search is bounded by the number of bindings.
-/
import TaggedSql.Sql.Clause

namespace TaggedSql.Query

open TaggedSql.Sql

/-- Values under names, and the number of the next generated name to try. -/
structure Bindings where
  entries : List (String × Value)
  counter : Nat

/-- Puts a value under a name: in place when the name has one, at the end otherwise. -/
def putEntry (name : String) (v : Value) : List (String × Value) → List (String × Value)
  | [] => [(name, v)]
  | p :: rest => if p.1 = name then (name, v) :: rest else p :: putEntry name v rest

/-- Entries of which a repeated name keeps its first place and its last value. -/
def ofPairs (pairs : List (String × Value)) : List (String × Value) :=
  pairs.foldl (fun entries p => putEntry p.1 p.2 entries) []

/-- The generated name with a number. -/
def parameterName (n : Nat) : String := "param_" ++ Nat.repr n

/-- The first number from `n` on whose generated name is not taken, `fuel` numbers being
    passed over at most. -/
def firstFree (taken : List String) : Nat → Nat → Nat
  | 0, n => n
  | fuel + 1, n => if taken.contains (parameterName n) then firstFree taken fuel (n + 1) else n

namespace Bindings

/-- No bindings. -/
def empty : Bindings := ⟨[], 0⟩

/-- The bound names. -/
def names (b : Bindings) : List String := b.entries.map Prod.fst

/-- The value under a name. -/
def get? (b : Bindings) (name : String) : Option Value := b.entries.lookup name

/-- Binds a name. -/
def put (b : Bindings) (name : String) (v : Value) : Bindings := ⟨putEntry name v b.entries, b.counter⟩

/-- The number of the next generated name. -/
def next (b : Bindings) : Nat := firstFree b.names b.entries.length b.counter

/-- Stores a value under a generated name and returns its marker. -/
def bind (b : Bindings) (v : Value) : Marker × Bindings :=
  let name := parameterName b.next
  (.tagged (.infer v) name, ⟨putEntry name v b.entries, b.next + 1⟩)

/-- Stores values one after the other and returns their markers. -/
def bindAll (b : Bindings) : List Value → List Marker × Bindings
  | [] => ([], b)
  | v :: vs =>
    let first := b.bind v
    let rest := first.2.bindAll vs
    (first.1 :: rest.1, rest.2)

end Bindings

/-! ## Entries by name -/

theorem lookup_putEntry_self (name : String) (v : Value) (es : List (String × Value)) :
    (putEntry name v es).lookup name = some v := by
  induction es with
  | nil => simp [putEntry]
  | cons p rest ih =>
    obtain ⟨k, w⟩ := p
    by_cases h : k = name
    · simp [putEntry, h]
    · have hb : (name == k) = false := by simp [Ne.symm h]
      simp [putEntry, h, List.lookup_cons, hb, ih]

theorem lookup_putEntry_of_ne {name other : String} (h : other ≠ name) (v : Value)
    (es : List (String × Value)) : (putEntry name v es).lookup other = es.lookup other := by
  have hb : (other == name) = false := by simp [h]
  induction es with
  | nil => simp [putEntry, List.lookup_cons, hb]
  | cons p rest ih =>
    obtain ⟨k, w⟩ := p
    by_cases hp : k = name
    · subst hp
      simp [putEntry, List.lookup_cons, hb]
    · simp [putEntry, hp, List.lookup_cons, ih]

/-- Binding a name leaves the other names alone. -/
theorem Bindings.get?_put_of_ne {name other : String} (h : other ≠ name) (b : Bindings) (v : Value) :
    (b.put name v).get? other = b.get? other :=
  lookup_putEntry_of_ne h v b.entries

/-- A bound name has the value that was bound last. -/
theorem Bindings.get?_put_self (b : Bindings) (name : String) (v : Value) :
    (b.put name v).get? name = some v :=
  lookup_putEntry_self name v b.entries

end TaggedSql.Query
