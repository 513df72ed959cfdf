/-
  Markers have their names to themselves.

  1. **The search** (`FindsFree`) — the next generated name is the first one from the counter on
     that is not taken.  The search for it has no bound of its own, and ends all the same
     (`findsFree_next`): one name more than there are bindings cannot be taken.

  2. **One call** (`Draft.renews_apply`) — a call, taken or not, keeps names apart, and the markers
     that a query holds after it were held before or have been made for values that were stored
     under names free until then.  A call may drop markers, and it may leave names behind that no
     marker refers to.

  3. **Runs** (`markers_have_own_names`) — so every marker of a reachable query refers to a bound
     name that no other marker refers to, and the next name is new.  It is the bindings that carry
     this, and not the counter: a raw condition may take a name that the counter has not come to.
-/
import TaggedSql.Proofs.Query.Freezing
import TaggedSql.Proofs.Query.Markers
import TaggedSql.Proofs.Query.Noninterference
import TaggedSql.Proofs.Query.RefusedRows

namespace TaggedSql.Sql

/-- The name that a marker refers to; a marker that is written out stands for itself. -/
def Marker.name : Marker → String
  | .tagged _ name => name
  | .verbatim text => text

end TaggedSql.Sql

namespace TaggedSql.Query

open TaggedSql.Sql
open scoped List

/-! ## The search for a name -/

/-- `FindsFree taken n k`: from the number `n` on, passing over numbers whose names are taken, the
    search for a free name ends at `k`. -/
inductive FindsFree (taken : List String) : Nat → Nat → Prop
  | free {n : Nat} (h : parameterName n ∉ taken) : FindsFree taken n n
  | passed {n k : Nat} (h : parameterName n ∈ taken) (rest : FindsFree taken (n + 1) k) :
    FindsFree taken n k

/-- Where the bounded search ends at a free name, so does the search without a bound. -/
theorem findsFree_firstFree {taken : List String} {fuel n : Nat}
    (h : parameterName (firstFree taken fuel n) ∉ taken) :
    FindsFree taken n (firstFree taken fuel n) := by
  induction fuel generalizing n with
  | zero => exact .free h
  | succ fuel ih =>
    rw [firstFree] at h ⊢
    split at h
    · next htaken =>
      rw [if_pos htaken]
      exact .passed (by simpa using htaken) (ih h)
    · next hfree =>
      rw [if_neg hfree]
      exact .free h

/-- **The search ends** at the next name. -/
theorem findsFree_next (b : Bindings) : FindsFree b.names b.counter b.next :=
  findsFree_firstFree (next_not_mem b)

-- Names that the caller has chosen are passed over.
example : Bindings.next ⟨[("param_1", .null), ("param_0", .null)], 0⟩ = 2 := rfl

/-! ## Bindings and markers -/

/-- Binding a name does not bind it twice. -/
theorem nodup_names_put {b : Bindings} (h : b.names.Nodup) (name : String) (v : Value) :
    (b.put name v).names.Nodup := by
  show ((putEntry name v b.entries).map Prod.fst).Nodup
  rw [names_putEntry]
  split
  · exact h
  · next hfree =>
    refine List.nodup_append.mpr ⟨h, List.nodup_singleton _, ?_⟩
    rintro other hother _ hname rfl
    rw [List.mem_singleton.mp hname] at hother
    exact hfree hother

theorem nodup_names_bindNamed {b : Bindings} (h : b.names.Nodup)
    (parameters : List (String × Value)) : (bindNamed b parameters).1.names.Nodup := by
  induction parameters generalizing b with
  | nil => exact h
  | cons p parameters ih =>
    rw [bindNamed]
    split
    · exact h
    · exact ih (nodup_names_put h _ _)

theorem Stored.nodup_names {b b' : Bindings} {stored : List (String × Value)}
    (h : Stored b stored b') (hb : b.names.Nodup) : b'.names.Nodup := by
  rw [h.names]
  refine List.nodup_append.mpr ⟨hb, h.nodup, ?_⟩
  rintro name hname _ hother rfl
  obtain ⟨p, hp, rfl⟩ := List.mem_map.mp hother
  exact h.fresh p hp hname

/-- `Renewed b ms b' ms'`: from the bindings `b` and the markers `ms` the bindings `b'` and the
    markers `ms'` have been reached.  No name has come to be bound twice, and the markers are some
    of those from before and of values stored under names of their own that were free. -/
structure Renewed (b : Bindings) (ms : List Marker) (b' : Bindings) (ms' : List Marker) : Prop where
  names : b.names.Nodup → b'.names.Nodup
  markers : ∃ stored : List (String × Value), (stored.map Prod.fst).Nodup ∧
    (∀ p ∈ stored, p.1 ∉ b.names) ∧ ms' <+~ ms ++ stored.map markerOf

theorem Stored.renewed {b b' : Bindings} {stored : List (String × Value)} (h : Stored b stored b')
    {ms ms' : List Marker} (hm : ms' <+~ ms ++ stored.map markerOf) : Renewed b ms b' ms' :=
  ⟨h.nodup_names, stored, h.nodup, h.fresh, hm⟩

/-- The markers stay the same. -/
theorem Renewed.of_names {b b' : Bindings} (h : b.names.Nodup → b'.names.Nodup)
    (ms : List Marker) : Renewed b ms b' ms :=
  ⟨h, [], List.nodup_nil, by simp, (List.sublist_append_left ms []).subperm⟩

/-- Other markers may be held in front. -/
theorem Renewed.prepend {b b' : Bindings} {ms ms' : List Marker} (h : Renewed b ms b' ms')
    (front : List Marker) : Renewed b (front ++ ms) b' (front ++ ms') := by
  obtain ⟨stored, hnodup, hfresh, hms⟩ := h.markers
  refine ⟨h.names, stored, hnodup, hfresh, ?_⟩
  rw [List.append_assoc]
  exact (List.Subperm.refl front).append hms

/-! ## One call -/

theorem Filter.Turns.renewed {f f' : Filter} (h : f.Turns f') :
    Renewed f.bindings f.markers f'.bindings f'.markers := by
  cases h with
  | same => exact .of_names id _
  | compared h =>
    obtain ⟨r, _, hr, rfl⟩ := Filter.compare_cases h
    obtain ⟨stored, op, hstored, -, htest, -⟩ := comparison_cases hr
    refine hstored.renewed ?_
    rw [Filter.markers, List.flatMap_append, List.flatMap_singleton, htest]
    exact .refl _
  | raw expression parameters =>
    obtain ⟨hbindings, hmarkers⟩ := f.whereRaw_state expression parameters
    rw [hbindings, hmarkers]
    exact .of_names (fun h => nodup_names_bindNamed h parameters) _

/-- `Renews q q'`: the query `q` has become `q'` without mixing up names. -/
def Draft.Renews (q q' : Draft) : Prop := Renewed q.bindings q.markers q'.bindings q'.markers

theorem Draft.Renews.refl (q : Draft) : q.Renews q := Renewed.of_names id _

theorem SelectDraft.renews_apply (q : SelectDraft) (c : Call) :
    (Draft.select q).Renews (.select (q.apply c).state) := (q.turns_apply c).renewed

theorem InsertDraft.renews_apply (q : InsertDraft) (c : Call) :
    (Draft.insert q).Renews (.insert (q.apply c).state) := by
  cases c with
  | columns names =>
    rw [InsertDraft.apply]
    split <;> exact Renewed.of_names id _
  | values rows =>
    rw [InsertDraft.apply, InsertDraft.values]
    split
    · next q' markers htake =>
      obtain ⟨stored, -, hinserts, -⟩ := takeRows_cases htake
      refine hinserts.bindings.renewed ?_
      show (q'.rows ++ markers).flatten <+~ q.rows.flatten ++ stored.map markerOf
      rw [List.flatten_append, hinserts.rows, hinserts.markers]
    · next q' f htake =>
      by_cases hf : f.isComplaint
      · rw [if_pos hf]
        exact .refl _
      · -- the rows in front have stored their values, but are not among the rows
        rw [if_neg hf]
        obtain ⟨front, _, _, markers, -, hfront, -⟩ := takeRows_stopped htake
        obtain ⟨stored, -, hinserts, -⟩ := takeRows_cases hfront
        refine hinserts.bindings.renewed ?_
        show q'.rows.flatten <+~ q.rows.flatten ++ stored.map markerOf
        rw [hinserts.rows]
        exact (List.sublist_append_left _ _).subperm
  | _ => exact .refl _

/-- A column has the marker that was assigned to it last; another one may be gone. -/
theorem markers_assign (column : Identifier) (m : Marker) (as : List (Identifier × Marker)) :
    (assign column m as).map Prod.snd <+~ m :: as.map Prod.snd := by
  induction as with
  | nil => exact .refl _
  | cons a as ih =>
    rw [assign]
    split
    · exact ((List.sublist_cons_self a.2 (as.map Prod.snd)).cons_cons m).subperm
    · have hcons : a.2 :: (assign column m as).map Prod.snd <+~ a.2 :: m :: as.map Prod.snd :=
        (List.subperm_cons a.2).mpr ih
      exact hcons.trans (List.Perm.swap m a.2 _).subperm

theorem markers_assignAll (as new : List (Identifier × Marker)) :
    (assignAll as new).map Prod.snd <+~ as.map Prod.snd ++ new.map Prod.snd := by
  induction new generalizing as with
  | nil =>
    rw [List.map_nil, List.append_nil]
    exact .refl _
  | cons a new ih =>
    have hone := (markers_assign a.1 a.2 as).append (.refl (new.map Prod.snd))
    exact ((ih _).trans hone).trans List.perm_middle.symm.subperm

/-- **Assignments** store their values, and those that they replace lose their markers. -/
theorem UpdateDraft.renews_assigned (q : UpdateDraft) (settings : List (Identifier × Value)) :
    (Draft.update q).Renews (.update (settings.foldl (fun q a => q.set a.1 a.2) q)) := by
  obtain ⟨stored, b, hstored, hvalues, hfold⟩ := UpdateDraft.exists_assigned q settings
  have hlength : stored.length ≤ (settings.map Prod.fst).length := by
    have := congrArg List.length hvalues
    simp only [List.length_map] at this ⊢
    omega
  have hassign := markers_assignAll q.clauses.assignments
    (((settings.map Prod.fst).zip stored).map fun a => (a.1, markerOf a.2))
  have hnew : (((settings.map Prod.fst).zip stored).map fun a => (a.1, markerOf a.2)).map
      Prod.snd = stored.map markerOf := by
    conv_rhs => rw [← List.map_snd_zip hlength]
    rw [List.map_map, List.map_map]
    rfl
  rw [hnew] at hassign
  rw [hfold]
  refine hstored.renewed ?_
  -- the markers of the conditions stand behind those of the assignments, old and new
  show (assignAll q.clauses.assignments _).map Prod.snd ++ q.filter.markers <+~
    q.clauses.assignments.map Prod.snd ++ q.filter.markers ++ stored.map markerOf
  refine (hassign.append (.refl q.filter.markers)).trans ?_
  rw [List.append_assoc, List.append_assoc]
  exact (List.perm_append_comm.append_left _).subperm

theorem UpdateDraft.renews_apply (q : UpdateDraft) (c : Call) :
    (Draft.update q).Renews (.update (q.apply c).state) := by
  cases c with
  | compare conjunction column operator value =>
    rw [UpdateDraft.apply]
    refine ofExcept_state (P := fun q' => (Draft.update q).Renews (.update q')) (.refl _)
      fun q' h => ?_
    obtain ⟨f, hf, rfl⟩ := except_map_eq_ok h
    exact (Filter.Turns.compared hf).renewed.prepend _
  | whereRaw expression parameters =>
    exact (Filter.Turns.raw (f := q.filter) expression parameters).renewed.prepend _
  | set column value => exact q.renews_assigned [(column, value)]
  | setValues entries =>
    show (Draft.update q).Renews (.update (q.setValues entries))
    rw [UpdateDraft.setValues_eq_foldl]
    exact q.renews_assigned _
  | _ => exact .refl _

/-- **Every call** keeps names apart, taken or not. -/
theorem Draft.renews_apply (q : Draft) (c : Call) : q.Renews (q.apply c).state := by
  cases q with
  | select q => exact q.renews_apply c
  | insert q => exact q.renews_apply c
  | update q => exact q.renews_apply c

/-! ## Runs -/

/-- A query whose names are bound once, and whose markers refer to bound names, each to another
    one. -/
structure Draft.HasOwnNames (q : Draft) : Prop where
  names : q.bindings.names.Nodup
  anchored : q.IsAnchored
  markers : (q.markers.map Marker.name).Nodup

theorem nodup_map_of_subperm {α β : Type} {f : α → β} {as bs : List α} (h : as <+~ bs)
    (hbs : (bs.map f).Nodup) : (as.map f).Nodup := by
  obtain ⟨cs, hperm, hsub⟩ := h
  exact (hperm.map f).nodup_iff.mp (hbs.sublist (hsub.map f))

/-- An anchored marker refers to a name that is bound. -/
theorem Anchored.mem_names {b : Bindings} {m : Marker} (h : Anchored b m) :
    ∃ type, m = .tagged type m.name ∧ m.name ∈ b.names := by
  obtain ⟨name, origin, v, rfl, hv, -⟩ := h
  exact ⟨.infer origin, rfl, mem_names_iff.mpr ⟨v, hv⟩⟩

/-- **Renewal keeps markers apart**: those from before refer to bound names, and the new ones to
    names that were free. -/
theorem Draft.Renews.nodup_markers {q q' : Draft} (h : q.Renews q') (hq : q.HasOwnNames) :
    (q'.markers.map Marker.name).Nodup := by
  obtain ⟨stored, hnodup, hfresh, hmarkers⟩ := Renewed.markers h
  have hnew : (stored.map markerOf).map Marker.name = stored.map Prod.fst := by
    rw [List.map_map]
    rfl
  refine nodup_map_of_subperm hmarkers ?_
  rw [List.map_append, hnew]
  refine List.nodup_append.mpr ⟨hq.markers, hnodup, ?_⟩
  rintro name hold _ hother rfl
  obtain ⟨m, hm, rfl⟩ := List.mem_map.mp hold
  obtain ⟨p, hp, hname⟩ := List.mem_map.mp hother
  obtain ⟨-, -, hbound⟩ := (hq.anchored m hm).mem_names
  rw [← hname] at hbound
  exact hfresh p hp hbound

theorem Draft.HasOwnNames.of_renews {q q' : Draft} (hq : q.HasOwnNames) (h : q.Renews q')
    (hgrows : q.Grows q') : q'.HasOwnNames :=
  ⟨Renewed.names h hq.names, hgrows.isAnchored hq.anchored, h.nodup_markers hq⟩

/-- **What a call preserves**, taken or not. -/
theorem Draft.HasOwnNames.apply {q : Draft} (hq : q.HasOwnNames) (c : Call) :
    (q.apply c).state.HasOwnNames := hq.of_renews (q.renews_apply c) (q.grows_apply c)

theorem Opening.hasOwnNames_draft (o : Opening) : o.draft.HasOwnNames := by
  cases o with
  | select columns => exact ⟨List.nodup_nil, by rintro _ ⟨⟩, List.nodup_nil⟩
  | insert table columns => exact ⟨List.nodup_nil, by rintro _ ⟨⟩, List.nodup_nil⟩
  | update table values =>
    have hbare : (Draft.update ⟨⟨table, [], []⟩, .empty⟩).HasOwnNames :=
      ⟨List.nodup_nil, by rintro _ ⟨⟩, List.nodup_nil⟩
    show (Draft.update (UpdateDraft.setValues ⟨⟨table, [], []⟩, .empty⟩ values)).HasOwnNames
    rw [UpdateDraft.setValues_eq_foldl]
    exact hbare.of_renews (UpdateDraft.renews_assigned _ _) (UpdateDraft.grows_assigned _ _)

/-- **Markers have their names to themselves.**  After any requests, granted or not: no name is
    bound twice; every marker of a condition, a row or an assignment refers to a bound name; and no
    two of these markers refer to the same one, wherever they are held.  The search for the next
    name ends, at a name that is not bound and so not referred to either, and the next value is
    stored behind all that is bound and overwrites nothing. -/
theorem markers_have_own_names (d : Dialect) (o : Opening) (attached : Bool) (qs : List Request) :
    let q := ((Builder.start d o.draft).asked attached qs).draft
    let b := q.bindings
    b.names.Nodup ∧
      (∀ m ∈ q.markers, ∃ type, m = .tagged type m.name ∧ m.name ∈ b.names) ∧
      (q.markers.map Marker.name).Nodup ∧
      FindsFree b.names b.counter b.next ∧
      parameterName b.next ∉ b.names ∧
      ∀ v, (b.bind v).1 = .tagged (.infer v) (parameterName b.next) ∧
        (b.bind v).2.entries = b.entries ++ [(parameterName b.next, v)] := by
  intro q b
  have hq : q.HasOwnNames :=
    Builder.draft_asked (b := .start d o.draft) (fun _ c hq => hq.apply c) o.hasOwnNames_draft
      attached qs
  refine ⟨hq.names, fun m hm => (hq.anchored m hm).mem_names, hq.markers, findsFree_next b,
    next_not_mem b, fun v => ⟨rfl, ?_⟩⟩
  exact putEntry_of_not_mem (next_not_mem b) v

end TaggedSql.Query
