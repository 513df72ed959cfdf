/-
  Storing values under generated names.

  1. **Names** — generated names are words and differ from each other (`parameterName_injective`);
     the next one is not taken (`next_not_mem`): the search passes over as many names as are taken,
     and one more cannot be taken as well.

  2. **Storing** (`exists_bindAll`) — values are stored in order under names of their own that
     nothing has had before, behind the entries that are there already, and each marker carries
     the name and the type of its value.
-/
import Mathlib.Data.List.Nodup
import Mathlib.Data.List.Perm.Subperm
import TaggedSql.Number.Digits
import TaggedSql.Proofs.Sql.Fragments
import TaggedSql.Query.Bindings

namespace TaggedSql.Query

open TaggedSql.Placeholder TaggedSql.Sql TaggedSql.Text

/-! ## Generated names -/

theorem parameterName_toList (n : Nat) :
    (parameterName n).toList = ['p', 'a', 'r', 'a', 'm', '_'] ++ Nat.toDigits 10 n := by
  rw [parameterName, String.toList_append, Nat.repr]
  simp

/-- Different numbers make different names. -/
theorem parameterName_injective : Function.Injective parameterName := by
  intro m n h
  have hlist := congrArg String.toList h
  rw [parameterName_toList, parameterName_toList] at hlist
  have hread := congrArg Number.read? (List.append_cancel_left hlist)
  rw [Number.read?_toDigits, Number.read?_toDigits] at hread
  exact Option.some.inj hread

/-- A generated name is a word. -/
theorem isWordChar_of_mem_parameterName (n : Nat) :
    ∀ c ∈ (parameterName n).toList, isWordChar c := by
  have hprefix : ∀ c ∈ ['p', 'a', 'r', 'a', 'm', '_'], isWordChar c :=
    List.all_eq_true.mp rfl
  intro c hc
  rw [parameterName_toList] at hc
  rcases List.mem_append.mp hc with hc | hc
  · exact hprefix c hc
  · exact isWordChar_of_isDigit (Nat.isDigit_of_mem_toDigits (by decide) (by decide) hc)

/-- Where the search for a free name ends, the name is free or all names on the way are taken. -/
theorem firstFree_cases (taken : List String) (fuel n : Nat) :
    parameterName (firstFree taken fuel n) ∉ taken ∨
      firstFree taken fuel n = n + fuel ∧ ∀ i < fuel, parameterName (n + i) ∈ taken := by
  induction fuel generalizing n with
  | zero => exact Or.inr ⟨rfl, fun i hi => absurd hi (Nat.not_lt_zero i)⟩
  | succ fuel ih =>
    rw [firstFree]
    split
    · next htaken =>
      rcases ih (n + 1) with hfree | ⟨heq, hall⟩
      · exact Or.inl hfree
      · refine Or.inr ⟨by omega, fun i hi => ?_⟩
        cases i with
        | zero => simpa using htaken
        | succ i =>
          have := hall i (by omega)
          rwa [show n + (i + 1) = n + 1 + i by omega]
    · next hfree => exact Or.inl (by simpa using hfree)

/-- The next generated name is not taken. -/
theorem next_not_mem (b : Bindings) : parameterName b.next ∉ b.names := by
  intro hmem
  have hlength : b.names.length = b.entries.length := List.length_map ..
  rcases firstFree_cases b.names b.entries.length b.counter with hfree | ⟨heq, hall⟩
  · exact hfree hmem
  · -- one name more than there are taken ones, all of them different
    have hnodup : ((List.range (b.entries.length + 1)).map fun i =>
        parameterName (b.counter + i)).Nodup := by
      refine List.Nodup.map (fun i j hij => ?_) List.nodup_range
      have := parameterName_injective hij
      omega
    have hsub : ((List.range (b.entries.length + 1)).map fun i =>
        parameterName (b.counter + i)) ⊆ b.names := by
      intro name hname
      obtain ⟨i, hi, rfl⟩ := List.mem_map.mp hname
      rcases Nat.lt_or_ge i b.entries.length with hlt | hge
      · exact hall i hlt
      · have hi' : i = b.entries.length := by
          have := List.mem_range.mp hi
          omega
        rw [hi', ← heq]
        exact hmem
    have hle := (List.subperm_of_subset hnodup hsub).length_le
    rw [List.length_map, List.length_range] at hle
    omega

/-! ## Storing values -/

/-- The marker of a value stored under a name. -/
def markerOf (p : String × Value) : Marker := .tagged (.infer p.2) p.1

/-- `Stored b stored b'`: from `b` the values of `stored` have been stored, and `b'` was reached. -/
structure Stored (b : Bindings) (stored : List (String × Value)) (b' : Bindings) : Prop where
  generated : ∀ p ∈ stored, ∃ k, p.1 = parameterName k
  nodup : (stored.map Prod.fst).Nodup
  fresh : ∀ p ∈ stored, p.1 ∉ b.names
  entries : b'.entries = b.entries ++ stored

theorem Stored.nil (b : Bindings) : Stored b [] b :=
  ⟨by simp, List.nodup_nil, by simp, (List.append_nil _).symm⟩

theorem putEntry_of_not_mem {name : String} {es : List (String × Value)}
    (h : name ∉ es.map Prod.fst) (v : Value) : putEntry name v es = es ++ [(name, v)] := by
  induction es with
  | nil => rfl
  | cons p es ih =>
    rw [List.map_cons, List.mem_cons, not_or] at h
    rw [putEntry, if_neg (Ne.symm h.1), ih h.2, List.cons_append]

theorem exists_bind (b : Bindings) (v : Value) :
    ∃ name b', b.bind v = (markerOf (name, v), b') ∧ Stored b [(name, v)] b' := by
  have hfresh := next_not_mem b
  refine ⟨parameterName b.next, _, rfl, ?_, List.nodup_singleton _, ?_, ?_⟩
  · intro p hp
    obtain rfl := List.mem_singleton.mp hp
    exact ⟨b.next, rfl⟩
  · intro p hp
    obtain rfl := List.mem_singleton.mp hp
    exact hfresh
  · exact putEntry_of_not_mem hfresh v

theorem Stored.names {b b' : Bindings} {stored : List (String × Value)} (h : Stored b stored b') :
    b'.names = b.names ++ stored.map Prod.fst := by
  rw [Bindings.names, h.entries, List.map_append]
  rfl

/-- Values are stored one after the other. -/
theorem Stored.append {b b' b'' : Bindings} {first rest : List (String × Value)}
    (hf : Stored b first b') (hr : Stored b' rest b'') : Stored b (first ++ rest) b'' := by
  have hnames := hf.names
  have hrest : ∀ p ∈ rest, p.1 ∉ b.names ∧ p.1 ∉ first.map Prod.fst := by
    intro p hp
    have := hr.fresh p hp
    rwa [hnames, List.mem_append, not_or] at this
  refine ⟨?_, ?_, ?_, ?_⟩
  · intro p hp
    rcases List.mem_append.mp hp with hp | hp
    · exact hf.generated p hp
    · exact hr.generated p hp
  · rw [List.map_append, List.nodup_append]
    refine ⟨hf.nodup, hr.nodup, ?_⟩
    rintro n hn m hm rfl
    obtain ⟨p, hp, rfl⟩ := List.mem_map.mp hm
    exact (hrest p hp).2 hn
  · intro p hp
    rcases List.mem_append.mp hp with hp | hp
    · exact hf.fresh p hp
    · exact (hrest p hp).1
  · rw [hr.entries, hf.entries, List.append_assoc]

/-- **Storing.**  Values are stored in order under generated names of their own. -/
theorem exists_bindAll (b : Bindings) (vs : List Value) :
    ∃ stored b', b.bindAll vs = (stored.map markerOf, b') ∧ stored.map Prod.snd = vs ∧
      Stored b stored b' := by
  induction vs generalizing b with
  | nil =>
    exact ⟨[], b, rfl, rfl, Stored.nil b⟩
  | cons v vs ih =>
    obtain ⟨name, b₁, hbind, hfirst⟩ := exists_bind b v
    obtain ⟨rest, b₂, hall, hvalues, hrest⟩ := ih b₁
    refine ⟨(name, v) :: rest, b₂, ?_, by rw [List.map_cons, hvalues], hfirst.append hrest⟩
    simp [Bindings.bindAll, hbind, hall]

/-- Names that differ are found with their values. -/
theorem lookup_of_mem {α : Type} {p : String × α} {es : List (String × α)}
    (h : (es.map Prod.fst).Nodup) (hp : p ∈ es) : es.lookup p.1 = some p.2 := by
  obtain ⟨front, back, rfl⟩ := List.append_of_mem hp
  refine List.lookup_eq_some_iff.mpr ⟨front, back, rfl, fun q hq => ?_⟩
  rw [List.map_append, List.nodup_append] at h
  have hne := h.2.2 q.1 (List.mem_map_of_mem hq) p.1 List.mem_cons_self
  simpa using Ne.symm hne

theorem lookup_eq_none_of_not_mem {α : Type} {name : String} {es : List (String × α)}
    (h : name ∉ es.map Prod.fst) : es.lookup name = none := by
  refine List.lookup_eq_none_iff.mpr fun p hp => ?_
  have hne : name ≠ p.1 := by
    rintro rfl
    exact h (List.mem_map_of_mem hp)
  simpa using hne

/-- A stored value is found under its name. -/
theorem Stored.get?_of_mem {b b' : Bindings} {stored : List (String × Value)}
    (h : Stored b stored b') {p : String × Value} (hp : p ∈ stored) : b'.get? p.1 = some p.2 := by
  rw [Bindings.get?, h.entries, List.lookup_append,
    lookup_eq_none_of_not_mem (h.fresh p hp), lookup_of_mem h.nodup hp]
  rfl

/-- Storing values leaves the names that were there alone. -/
theorem Stored.get?_of_mem_names {b b' : Bindings} {stored : List (String × Value)}
    (h : Stored b stored b') {name : String} (hn : name ∈ b.names) :
    b'.get? name = b.get? name := by
  obtain ⟨p, hp, rfl⟩ := List.mem_map.mp hn
  have hsome : (b.entries.lookup p.1).isSome := List.lookup_isSome_iff.mpr ⟨p, hp, by simp⟩
  rw [Bindings.get?, h.entries, List.lookup_append, Bindings.get?, Option.or_of_isSome hsome]

/-! ## Markers of stored values -/

theorem isNamed_markerOf {p : String × Value} (h : ∃ k, p.1 = parameterName k) :
    (markerOf p).IsNamed := by
  obtain ⟨k, hk⟩ := h
  rw [markerOf, Marker.IsNamed, hk]
  refine ⟨?_, isWordChar_of_mem_parameterName k⟩
  rw [parameterName_toList]
  exact List.cons_ne_nil _ _

/-- The marker of a stored value mentions its name with the type of the value. -/
theorem parameters_markerOf (p : String × Value) :
    parameters (markerOf p).mentions = [(p.1, .infer p.2)] := by
  have htype : typeOfTag (BindType.infer p.2).tag = .infer p.2 := by
    cases BindType.infer p.2 <;> rfl
  simp [parameters, markerOf, Marker.mentions, Lexeme.parameter?, htype]

end TaggedSql.Query
