/-
  Operations: programs that change a state and may fail, keeping what they did up to then.

  An operation that fails leaves the state it has reached.  `observe` runs one and hands over how
  it ended instead of failing, `settle` ends as it is told, and `within` runs an operation on a
  part of the state.
-/
import TaggedSql.Error

namespace TaggedSql

/-- A program on a state `σ` that yields an `α` or fails. -/
abbrev Operation (σ α : Type) := EStateM Error σ α

namespace Operation

/-- How the operation ends, with the state it reaches. -/
def outcome {σ α : Type} (x : Operation σ α) (s : σ) : Except Error α × σ :=
  match x s with
  | .ok a s' => (.ok a, s')
  | .error e s' => (.error e, s')

/-- The operation with a given outcome. -/
def ofOutcome {σ α : Type} (f : σ → Except Error α × σ) : Operation σ α := fun s =>
  match f s with
  | (.ok a, s') => .ok a s'
  | (.error e, s') => .error e s'

/-- Runs an operation and yields how it ended; this itself never fails. -/
def observe {σ α : Type} (x : Operation σ α) : Operation σ (Except Error α) := fun s =>
  let r := x.outcome s
  .ok r.1 r.2

/-- Ends as told. -/
def settle {σ α : Type} : Except Error α → Operation σ α
  | .ok a => pure a
  | .error e => throw e

/-- Runs an operation on a part of the state. -/
def within {σ τ α : Type} (get : σ → τ) (set : τ → σ → σ) (x : Operation τ α) : Operation σ α :=
  fun s =>
    match x (get s) with
    | .ok a t => .ok a (set t s)
    | .error e t => .error e (set t s)

/-- Observing an operation never fails. -/
theorem outcome_observe {σ α : Type} (x : Operation σ α) (s : σ) :
    x.observe.outcome s = (.ok (x.outcome s).1, (x.outcome s).2) := rfl

end Operation

end TaggedSql
