/-
  How operations end.

  1. **Outcomes** — one equation for every way to build an operation says how it ends and what state
     it reaches.  For a sequence there are two: one when the first part succeeds, and one when it
     fails.

  2. **What operations keep** (`Keeps`) — a preorder on states that every state reached is above the
     state it is reached from.  It is kept by a sequence when both parts keep it.

  3. **Operations that agree** (`Agrees`) — started in related states, they end alike and in related
     states again.  Sequences agree when their parts do.
-/
import Mathlib.Order.Defs.Unbundled
import TaggedSql.Operation

namespace TaggedSql.Operation

variable {σ τ α β : Type}

/-! ## Outcomes -/

@[simp] theorem outcome_pure (a : α) (s : σ) :
    (pure a : Operation σ α).outcome s = (.ok a, s) := rfl

@[simp] theorem outcome_throw (e : Error) (s : σ) :
    (throw e : Operation σ α).outcome s = (.error e, s) := rfl

@[simp] theorem outcome_get (s : σ) : (get : Operation σ σ).outcome s = (.ok s, s) := rfl

@[simp] theorem outcome_modify (f : σ → σ) (s : σ) :
    (modify f : Operation σ Unit).outcome s = (.ok (), f s) := rfl

/-- To settle an outcome changes no state. -/
@[simp] theorem outcome_settle (r : Except Error α) (s : σ) :
    (settle r : Operation σ α).outcome s = (r, s) := by
  cases r <;> rfl

/-- An operation is no more than what it does to each state. -/
@[simp] theorem outcome_ofOutcome (f : σ → Except Error α × σ) (s : σ) :
    (ofOutcome f).outcome s = f s := by
  unfold outcome ofOutcome
  rcases f s with ⟨_ | _, _⟩ <;> rfl

/-- On a part of the state, an operation sees that part only, and the rest of the state is as
    `set` leaves it. -/
@[simp] theorem outcome_within (get : σ → τ) (set : τ → σ → σ) (x : Operation τ α) (s : σ) :
    (x.within get set).outcome s = ((x.outcome (get s)).1, set (x.outcome (get s)).2 s) := by
  unfold outcome within
  cases x (get s) <;> rfl

/-- A sequence goes on with what its first part yields, or ends with its error. -/
theorem outcome_bind (x : Operation σ α) (f : α → Operation σ β) (s : σ) :
    (x >>= f).outcome s =
      match x.outcome s with
      | (.ok a, t) => (f a).outcome t
      | (.error e, t) => (.error e, t) := by
  show outcome (EStateM.bind x f) s = _
  unfold outcome EStateM.bind
  cases x s <;> rfl

/-- Once the first operation has returned, the second one goes on from where it left the state. -/
theorem outcome_bind_of_ok {x : Operation σ α} {s t : σ} {a : α} (h : x.outcome s = (.ok a, t))
    (f : α → Operation σ β) : (x >>= f).outcome s = (f a).outcome t := by
  rw [outcome_bind, h]

/-- After a failure the second operation is never reached: the state stays as the failure
    left it. -/
theorem outcome_bind_of_error {x : Operation σ α} {s t : σ} {e : Error}
    (h : x.outcome s = (.error e, t)) (f : α → Operation σ β) :
    (x >>= f).outcome s = (.error e, t) := by
  rw [outcome_bind, h]

/-- What an operation yields may be changed afterwards. -/
theorem outcome_bind_pure (x : Operation σ α) (f : α → β) (s : σ) :
    (x >>= fun a => pure (f a)).outcome s = ((x.outcome s).1.map f, (x.outcome s).2) := by
  rw [outcome_bind]
  rcases x.outcome s with ⟨_ | _, _⟩ <;> rfl

/-! ## What operations keep -/

/-- Whether an operation only reaches states related to the one it starts in, however it ends. -/
def Keeps (R : σ → σ → Prop) (x : Operation σ α) : Prop := ∀ s, R s (x.outcome s).2

namespace Keeps

variable {R : σ → σ → Prop}

theorem modify {f : σ → σ} (h : ∀ s, R s (f s)) : Keeps R (modify f : Operation σ Unit) := h

/-- To look at a failure in place of passing it on leaves the same state. -/
theorem observe {x : Operation σ α} (hx : Keeps R x) : Keeps R x.observe := hx

theorem ofOutcome {f : σ → Except Error α × σ} (h : ∀ s, R s (f s).2) :
    Keeps R (ofOutcome f) := by
  intro s
  rw [outcome_ofOutcome]
  exact h s

/-- An operation on a part of the state keeps what depends on that part only. -/
theorem within {S : τ → τ → Prop} {get : σ → τ} {set : τ → σ → σ} {x : Operation τ α}
    (hx : Keeps S x) (h : ∀ s t, S (get s) t → R s (set t s)) : Keeps R (x.within get set) := by
  intro s
  rw [outcome_within]
  exact h s _ (hx (get s))

section Preorder

variable [IsPreorder σ R]

theorem pure (a : α) : Keeps R (pure a : Operation σ α) := fun s => refl s

theorem throw (e : Error) : Keeps R (throw e : Operation σ α) := fun s => refl s

theorem get : Keeps R (get : Operation σ σ) := fun s => refl s

/-- An outcome that is only passed on keeps whatever a state keeps to itself. -/
theorem settle (r : Except Error α) : Keeps R (settle r : Operation σ α) := by
  cases r with
  | ok a => exact pure a
  | error e => exact throw e

/-- **Sequences keep what their parts keep**, whether the first part returns or fails. -/
theorem bind {x : Operation σ α} {f : α → Operation σ β} (hx : Keeps R x)
    (hf : ∀ a, Keeps R (f a)) : Keeps R (x >>= f) := by
  intro s
  have hs := hx s
  rcases h : x.outcome s with ⟨e | a, t⟩ <;> rw [h] at hs
  · rw [outcome_bind_of_error h]
    exact hs
  · rw [outcome_bind_of_ok h]
    exact IsTrans.trans _ _ _ hs (hf a t)

end Preorder

end Keeps

/-! ## Operations that agree -/

/-- Two ways to end that are related: with related values, or with the same error. -/
inductive Matches (V : α → α → Prop) : Except Error α → Except Error α → Prop
  | ok {a b : α} (h : V a b) : Matches V (.ok a) (.ok b)
  | error (e : Error) : Matches V (.error e) (.error e)

/-- Every outcome matches itself. -/
theorem Matches.refl (r : Except Error α) : Matches Eq r r := by
  cases r with
  | ok a => exact .ok rfl
  | error e => exact .error e

/-- What is done to both results respects their relation. -/
theorem Matches.map {V : α → α → Prop} {W : β → β → Prop} {f : α → β}
    (hf : ∀ a b, V a b → W (f a) (f b)) {r r' : Except Error α} (h : Matches V r r') :
    Matches W (r.map f) (r'.map f) := by
  cases h with
  | ok h => exact .ok (hf _ _ h)
  | error e => exact .error e

/-- Whether two operations, started in related states, end in related states and ways. -/
def Agrees (R : σ → σ → Prop) (V : α → α → Prop) (x y : Operation σ α) : Prop :=
  ∀ s t, R s t → R (x.outcome s).2 (y.outcome t).2 ∧ Matches V (x.outcome s).1 (y.outcome t).1

namespace Agrees

variable {R : σ → σ → Prop} {V : α → α → Prop} {W : β → β → Prop}

theorem pure {a b : α} (h : V a b) : Agrees R V (pure a) (pure b) := fun _ _ hr => ⟨hr, .ok h⟩

/-- Two operations that fail alike agree on any two states. -/
theorem throw (e : Error) : Agrees R V (throw e) (throw e) := fun _ _ hr => ⟨hr, .error e⟩

theorem get : Agrees R R (get : Operation σ σ) (get : Operation σ σ) := fun _ _ hr => ⟨hr, .ok hr⟩

theorem modify {f : σ → σ} (h : ∀ s t, R s t → R (f s) (f t)) :
    Agrees R Eq (modify f : Operation σ Unit) (modify f : Operation σ Unit) :=
  fun s t hr => ⟨h s t hr, .ok rfl⟩

/-- States written over the old ones need no relation between these. -/
theorem set {s t : σ} (h : R s t) :
    Agrees R Eq (set s : Operation σ PUnit) (set t : Operation σ PUnit) :=
  fun _ _ _ => ⟨h, .ok rfl⟩

theorem settle {r r' : Except Error α} (h : Matches V r r') :
    Agrees R V (settle r) (settle r') := by
  cases h with
  | ok h => exact pure h
  | error e => exact throw e

/-- Outcomes that are looked at agree as results: both are returns then, and the values in them
    match. -/
theorem observe {x y : Operation σ α} (h : Agrees R V x y) :
    Agrees R (Matches V) x.observe y.observe := fun s t hr => ⟨(h s t hr).1, .ok (h s t hr).2⟩

theorem ofOutcome {f g : σ → Except Error α × σ}
    (h : ∀ s t, R s t → R (f s).2 (g t).2 ∧ Matches V (f s).1 (g t).1) :
    Agrees R V (ofOutcome f) (ofOutcome g) := by
  intro s t hr
  rw [outcome_ofOutcome, outcome_ofOutcome]
  exact h s t hr

/-- **Sequences agree when their parts do**: after failures neither goes on, and after results
    that match both go on from states that are related. -/
theorem bind {x y : Operation σ α} {f g : α → Operation σ β} (hx : Agrees R V x y)
    (hf : ∀ a b, V a b → Agrees R W (f a) (g b)) : Agrees R W (x >>= f) (y >>= g) := by
  intro s t hr
  obtain ⟨hstates, hends⟩ := hx s t hr
  rcases hs : x.outcome s with ⟨rs, s'⟩
  rcases ht : y.outcome t with ⟨rt, t'⟩
  rw [hs, ht] at hstates hends
  cases hends with
  | ok h =>
    rw [outcome_bind_of_ok hs, outcome_bind_of_ok ht]
    exact hf _ _ h s' t' hstates
  | error e =>
    rw [outcome_bind_of_error hs, outcome_bind_of_error ht]
    exact ⟨hstates, .error e⟩

/-- Operations on related parts of the states. -/
theorem within {S : τ → τ → Prop} {get : σ → τ} {set : τ → σ → σ} {x y : Operation τ α}
    (h : Agrees S V x y) (hget : ∀ s t, R s t → S (get s) (get t))
    (hset : ∀ s t u v, R s t → S u v → R (set u s) (set v t)) :
    Agrees R V (x.within get set) (y.within get set) := by
  intro s t hr
  obtain ⟨hstates, hends⟩ := h (get s) (get t) (hget s t hr)
  rw [outcome_within, outcome_within]
  exact ⟨hset s t _ _ hr hstates, hends⟩

end Agrees

end TaggedSql.Operation
