/-
  What calls do to bindings.

  1. **Keeping** — a call keeps what is bound: a name stays bound, to the same value or to one that
     is equal to it (`Extends`).  The equality that a repeated name is checked against is
     transitive, which is what keeps an old value equal to the one that is bound in the end.

  2. **Storing** — what a call stores goes under new names, and what a raw condition brings along
     is bound afterwards (`Remembers`).
-/
import TaggedSql.Proofs.Query.Bindings
import TaggedSql.Proofs.Query.Calls
import TaggedSql.Proofs.Value.Equality

namespace TaggedSql.Query

/-! ## Keeping what is bound -/

/-- `Agrees v w`: the value `w` is `v`, or equal to it. -/
def Agrees (v w : Value) : Prop := w = v ∨ v.same w

/-- `Extends b b'`: what is bound stays bound, to the same value or an equal one. -/
def Extends (b b' : Bindings) : Prop :=
  ∀ name v, b.get? name = some v → ∃ w, b'.get? name = some w ∧ Agrees v w

theorem Agrees.trans {u v w : Value} (huv : Agrees u v) (hvw : Agrees v w) : Agrees u w := by
  rcases huv with rfl | huv
  · exact hvw
  · rcases hvw with rfl | hvw
    · exact Or.inr huv
    · exact Or.inr (Value.same_trans huv hvw)

theorem Extends.refl (b : Bindings) : Extends b b := fun _ v h => ⟨v, h, Or.inl rfl⟩

theorem Extends.trans {b b' b'' : Bindings} (h : Extends b b') (h' : Extends b' b'') :
    Extends b b'' := by
  intro name v hv
  obtain ⟨w, hw, hvw⟩ := h name v hv
  obtain ⟨x, hx, hwx⟩ := h' name w hw
  exact ⟨x, hx, hvw.trans hwx⟩

theorem mem_names_iff {b : Bindings} {name : String} :
    name ∈ b.names ↔ ∃ v, b.get? name = some v := by
  rw [← Option.isSome_iff_exists, Bindings.get?, List.lookup_isSome_iff, Bindings.names,
    List.mem_map]
  constructor
  · rintro ⟨p, hp, rfl⟩
    exact ⟨p, hp, by simp⟩
  · rintro ⟨p, hp, h⟩
    exact ⟨p, hp, by simpa using Eq.symm (LawfulBEq.eq_of_beq h)⟩

theorem Stored.extends {b b' : Bindings} {stored : List (String × Value)}
    (h : Stored b stored b') : Extends b b' := by
  intro name v hv
  have hn : name ∈ b.names := mem_names_iff.mpr ⟨v, hv⟩
  exact ⟨v, by rw [h.get?_of_mem_names hn, hv], Or.inl rfl⟩

/-- Binding a name that no other value is bound to keeps what is bound. -/
theorem extends_put {b : Bindings} {name : String} {v : Value} (h : conflict? b name v = none) :
    Extends b (b.put name v) := by
  intro other w hw
  by_cases ho : other = name
  · -- the name is bound again, to a value that was found equal
    subst ho
    refine ⟨v, b.get?_put_self other v, Or.inr ?_⟩
    rw [conflict?, hw] at h
    simp only at h
    split at h
    · cases h
    · simpa using h
  · exact ⟨w, by rw [Bindings.get?_put_of_ne ho, hw], Or.inl rfl⟩

/-- **Parameters of a raw condition.**  When none of them conflicts, each is bound afterwards. -/
theorem bindNamed_cases {b b' : Bindings} {parameters : List (String × Value)}
    (h : bindNamed b parameters = (b', none)) :
    Extends b b' ∧ ∀ p ∈ parameters, ∃ w, b'.get? p.1 = some w ∧ Agrees p.2 w := by
  induction parameters generalizing b with
  | nil =>
    cases h
    exact ⟨Extends.refl _, by simp⟩
  | cons p parameters ih =>
    obtain ⟨name, v⟩ := p
    rw [bindNamed] at h
    split at h
    · cases h
    · next hnone =>
      obtain ⟨hextends, hall⟩ := ih h
      refine ⟨(extends_put hnone).trans hextends, fun p hp => ?_⟩
      rcases List.mem_cons.mp hp with rfl | hp
      · exact hextends name v (b.get?_put_self name v)
      · exact hall p hp

/-! ## What a call stores -/

/-- A call that was taken, and what it stored under generated names. -/
structure Taken where
  call : Call
  stored : List (String × Value)

/-- The parameters that a call stored or brought along. -/
def Taken.parameters (t : Taken) : List (String × Value) := t.stored ++ t.call.rawParameters

/-- `Remembers b t b'`: the call `t` takes the bindings `b` to `b'`. -/
structure Remembers (b : Bindings) (t : Taken) (b' : Bindings) : Prop where
  generated : ∀ p ∈ t.stored, ∃ k, p.1 = parameterName k
  nodup : (t.stored.map Prod.fst).Nodup
  fresh : ∀ p ∈ t.stored, p.1 ∉ b.names
  keeps : Extends b b'
  parameters : ∀ p ∈ t.parameters, ∃ w, b'.get? p.1 = some w ∧ Agrees p.2 w
  entries : t.call.rawParameters = [] → b'.entries = b.entries ++ t.stored

/-- A call without parameters of its own remembers what it stores. -/
theorem remembers_of_stored {b b' : Bindings} {t : Taken} (hs : Stored b t.stored b')
    (hr : t.call.rawParameters = []) : Remembers b t b' := by
  refine ⟨hs.generated, hs.nodup, hs.fresh, hs.extends, fun p hp => ?_, fun _ => hs.entries⟩
  rw [Taken.parameters, hr, List.append_nil] at hp
  exact ⟨p.2, hs.get?_of_mem hp, Or.inl rfl⟩

/-- A call that stores nothing and brings nothing along changes no bindings. -/
theorem remembers_of_nothing {b : Bindings} {c : Call} (hr : c.rawParameters = []) :
    Remembers b ⟨c, []⟩ b :=
  remembers_of_stored (Stored.nil b) hr

/-- A raw condition remembers its parameters. -/
theorem remembers_of_bindNamed {b b' : Bindings} {expression : String}
    {parameters : List (String × Value)} (h : bindNamed b parameters = (b', none)) :
    Remembers b ⟨.whereRaw expression parameters, []⟩ b' := by
  obtain ⟨hextends, hall⟩ := bindNamed_cases h
  refine ⟨by simp, List.nodup_nil, by simp, hextends, hall, fun hnil => ?_⟩
  obtain rfl : parameters = [] := hnil
  cases h
  exact (List.append_nil _).symm

end TaggedSql.Query
