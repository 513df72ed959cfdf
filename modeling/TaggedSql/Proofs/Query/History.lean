/-
  What a run of calls stores.

  A builder takes calls one after the other (`Takes`).  Beside the run stands its history: every
  call with what it stored.

  1. **Accounts** — `Accounts d h q` says that the query `q` holds what the history `h` says: its
     bindings, its conditions and its assignments.

  2. **Runs** — every step keeps the account (`Accounts.step`), hence every run
     (`exists_history`), and every opening starts with one (`Opening.exists_history`); so there is
     one behind every statement (`exists_rendered`).
-/
import Mathlib.Data.List.Pairwise
import TaggedSql.Proofs.Query.Steps

namespace TaggedSql.Query

open TaggedSql.Placeholder TaggedSql.Sql

/-! ## Runs -/

/-- `Takes b calls b'`: the builder `b` takes the calls one after the other and ends as `b'`. -/
inductive Builder.Takes : Builder → List Call → Builder → Prop
  | nil (b : Builder) : Takes b [] b
  | cons {b b' b'' : Builder} {c : Call} {calls : List Call} :
      b.apply c = .ok b' → Takes b' calls b'' → Takes b (c :: calls) b''

/-- Only an `UPDATE` knows a call that a frozen builder does not refuse. -/
theorem Draft.exists_update_of_knows {q : Draft} {c : Call} (hc : Builder.isUnguarded c)
    (hknows : q.knows c) : ∃ u, q = .update u := by
  cases q with
  | update u => exact ⟨u, rfl⟩
  | select u => cases c <;> first | cases hc; done | cases hknows
  | insert u => cases c <;> first | cases hc; done | cases hknows

/-- Such a call leaves the query as it is. -/
theorem Draft.apply_of_isUnguarded {q : Draft} {c : Call} (hc : Builder.isUnguarded c) :
    (q.apply c).state = q := by
  cases c with
  | setValues values =>
    cases values with
    | nil => cases q <;> rfl
    | cons => cases hc
  | setOther kind => cases q <;> rfl
  | _ => cases hc

/-- A call that a builder takes is carried out on its draft. -/
theorem Builder.apply_cases {b b' : Builder} {c : Call} (h : b.apply c = .ok b') :
    ∃ q, b.draft.apply c = .ok q ∧ b' = { b with draft := q } := by
  rw [Builder.apply] at h
  split_ifs at h with hunknown hfrozen
  · cases h
  · cases h
  · obtain ⟨q, hq, rfl⟩ := map_eq_ok h
    exact ⟨q, hq, rfl⟩

/-- What a builder that was not rendered before builds is its draft, rendered, and its bindings. -/
theorem Builder.build_cases {b : Builder} {r : Rendered} (hb : b.rendered = none)
    (h : b.build.1 = .ok r) :
    ∃ sql, b.draft.render b.dialect = .ok sql ∧ r = ⟨sql, b.draft.bindings.entries⟩ := by
  rw [Builder.build, hb] at h
  simp only at h
  split at h
  · cases h
  · next sql hsql =>
    cases h
    exact ⟨sql, hsql, rfl⟩

/-- A `SELECT` or an `UPDATE` with well-formed clauses. -/
def Draft.IsFiltered (d : Dialect) : Draft → Prop
  | .select q => q.clauses.WellFormed d
  | .update q => q.clauses.WellFormed d
  | .insert _ => False

/-- Every call that is taken is a step. -/
theorem Draft.exists_step {d : Dialect} {q q' : Draft} {c : Call} (hq : q.IsFiltered d)
    (hn : c.namesOnly) (hc : c.IsClosed d) (h : q.apply c = .ok q') :
    ∃ stored, Draft.Step d q ⟨c, stored⟩ q' ∧ q'.IsFiltered d ∧ q'.kind = q.kind := by
  cases q with
  | select q =>
    obtain ⟨q'', hq'', rfl⟩ := map_eq_ok h
    obtain ⟨stored, hstep, hfiltered⟩ := SelectDraft.exists_step hq hn hc hq''
    exact ⟨stored, hstep, hfiltered, rfl⟩
  | update q =>
    obtain ⟨q'', hq'', rfl⟩ := map_eq_ok h
    obtain ⟨stored, hstep, hfiltered⟩ := UpdateDraft.exists_step hq hn hc hq''
    exact ⟨stored, hstep, hfiltered, rfl⟩
  | insert q => exact hq.elim

/-- `Accounts d h q`: the query `q` holds what the history `h` says. -/
structure Accounts (d : Dialect) (h : List Taken) (q : Draft) : Prop where
  generated : ∀ t ∈ h, ∀ p ∈ t.stored, ∃ k, p.1 = parameterName k
  values : ∀ t ∈ h, t.stored.map Prod.snd = t.call.supplied
  nodup : ∀ t ∈ h, (t.stored.map Prod.fst).Nodup
  fresh : h.Pairwise fun t u => ∀ p ∈ t.parameters, ∀ r ∈ u.stored, p.1 ≠ r.1
  bound : ∀ t ∈ h, ∀ p ∈ t.parameters, ∃ w, q.bindings.get? p.1 = some w ∧ Agrees p.2 w
  entries : (∀ t ∈ h, t.call.rawParameters = []) →
    q.bindings.entries = h.flatMap Taken.stored
  conditions : conditionMentions d q.conditions = h.flatMap (Taken.mentions d)
  assignments : q.assignments =
    latest ((h.flatMap Taken.assignments).map fun a => (a.1, markerOf a.2))

/-- A query in which nothing has happened has no history. -/
theorem Accounts.nil {d : Dialect} {q : Draft} (hb : q.bindings.entries = [])
    (hc : q.conditions = []) (ha : q.assignments = []) : Accounts d [] q := by
  refine ⟨by simp, by simp, by simp, List.Pairwise.nil, by simp, fun _ => hb, ?_, ?_⟩
  · rw [hc]
    rfl
  · rw [ha]
    rfl

/-- **What one call preserves.**  The history goes on with the call. -/
theorem Accounts.step {d : Dialect} {h : List Taken} {q q' : Draft} {t : Taken}
    (ha : Accounts d h q) (hs : Draft.Step d q t q') : Accounts d (h ++ [t]) q' := by
  have hall : ∀ {P : Taken → Prop}, (∀ u ∈ h, P u) → P t → ∀ u ∈ h ++ [t], P u := by
    intro P hP ht u hu
    rcases List.mem_append.mp hu with hu | hu
    · exact hP u hu
    · rw [List.mem_singleton.mp hu]
      exact ht
  refine ⟨hall ha.generated hs.bindings.generated, hall ha.values hs.values,
    hall ha.nodup hs.bindings.nodup, ?_, hall (fun u hu p hp => ?_) hs.bindings.parameters, ?_, ?_,
    ?_⟩
  · -- all that was bound so far is bound, and the new names are not
    refine List.pairwise_append.mpr ⟨ha.fresh, List.pairwise_singleton _ _, ?_⟩
    intro u hu t' ht' p hp r hr hne
    rw [List.mem_singleton.mp ht'] at hr
    obtain ⟨w, hw, -⟩ := ha.bound u hu p hp
    refine hs.bindings.fresh r hr ?_
    rw [← hne]
    exact mem_names_iff.mpr ⟨w, hw⟩
  · obtain ⟨w, hw, hpw⟩ := ha.bound u hu p hp
    obtain ⟨x, hx, hwx⟩ := hs.bindings.keeps p.1 w hw
    exact ⟨x, hx, hpw.trans hwx⟩
  · intro hraw
    rw [hs.bindings.entries (hraw t (by simp)),
      ha.entries fun u hu => hraw u (List.mem_append_left [t] hu)]
    simp
  · rw [hs.conditions, ha.conditions]
    simp
  · rw [hs.assignments, ha.assignments, assignAll_latest]
    simp

/-- **What a whole run preserves.**  Beside every run stands a history. -/
theorem exists_history {d : Dialect} {b b' : Builder} {calls : List Call}
    (hrun : Builder.Takes b calls b') (hq : b.draft.IsFiltered d)
    (hn : ∀ c ∈ calls, c.namesOnly) (hc : ∀ c ∈ calls, c.IsClosed d) {h : List Taken}
    (ha : Accounts d h b.draft) :
    ∃ more, more.map Taken.call = calls ∧ Accounts d (h ++ more) b'.draft ∧
      b'.draft.IsFiltered d ∧ b'.draft.kind = b.draft.kind ∧ b'.rendered = b.rendered ∧
      b'.dialect = b.dialect := by
  induction hrun generalizing h with
  | nil b => exact ⟨[], rfl, by rwa [List.append_nil], hq, rfl, rfl, rfl⟩
  | @cons b b' b'' c calls happly _ ih =>
    obtain ⟨q, hq', rfl⟩ := Builder.apply_cases happly
    obtain ⟨stored, hstep, hfiltered, hkind⟩ :=
      Draft.exists_step hq (hn c List.mem_cons_self) (hc c List.mem_cons_self) hq'
    obtain ⟨more, hmore, haccounts, hfiltered', hkind', hrest⟩ := ih hfiltered
      (fun c' hc' => hn c' (List.mem_cons_of_mem c hc'))
      (fun c' hc' => hc c' (List.mem_cons_of_mem c hc')) (ha.step hstep)
    refine ⟨⟨c, stored⟩ :: more, by rw [List.map_cons, hmore], ?_, hfiltered', hkind'.trans hkind,
      hrest⟩
    rwa [List.append_assoc] at haccounts

/-- The calls that an opening stands for: values that are assigned at once. -/
def Opening.calls : Opening → List Call
  | .update _ values => [.setValues values]
  | .select _ | .insert .. => []

/-- Whether an opening is that of a `SELECT` or an `UPDATE`. -/
def Opening.isFiltered : Opening → Bool
  | .select _ | .update .. => true
  | .insert .. => false

/-- **The start.**  An opening that names its columns and its table has a history, too. -/
theorem Opening.exists_history {o : Opening} (d : Dialect) (hf : o.isFiltered)
    (hn : o.identifiers.all isName) :
    ∃ h, h.map Taken.call = o.calls ∧ Accounts d h o.draft ∧ o.draft.IsFiltered d := by
  have hquiet : ∀ i ∈ o.identifiers, i.IsQuiet := fun i hi =>
    isQuiet_of_isName (List.all_eq_true.mp hn i hi)
  cases o with
  | insert table columns => cases hf
  | select columns =>
    refine ⟨[], rfl, Accounts.nil rfl rfl rfl, ?_⟩
    exact ⟨hquiet, by simp [SelectClauses.ofColumns], by simp [SelectClauses.ofColumns],
      by simp [SelectClauses.ofColumns], by simp [SelectClauses.ofColumns],
      by simp [SelectClauses.ofColumns], by simp [SelectClauses.ofColumns],
      by simp [SelectClauses.ofColumns]⟩
  | update table values =>
    have hbare : (UpdateClauses.mk table [] []).WellFormed d :=
      ⟨hquiet table List.mem_cons_self, by simp, by simp⟩
    obtain ⟨stored, hstep, hclauses⟩ := UpdateDraft.exists_step (d := d)
      (q := ⟨⟨table, [], []⟩, .empty⟩) (c := .setValues values) hbare rfl trivial rfl
    have haccounts := (Accounts.nil (d := d) (q := .update ⟨⟨table, [], []⟩, .empty⟩)
      rfl rfl rfl).step hstep
    exact ⟨[⟨.setValues values, stored⟩], rfl, haccounts, hclauses⟩

/-- What holds of the opening's calls and of those that follow holds of all calls in a history. -/
theorem forall_calls {P : Call → Prop} {h : List Taken} {o : Opening} {calls : List Call}
    (hcalls : h.map Taken.call = o.calls ++ calls) (ho : ∀ c ∈ o.calls, P c)
    (hc : ∀ c ∈ calls, P c) : ∀ t ∈ h, P t.call := by
  intro t ht
  have hcall := List.mem_map_of_mem (f := Taken.call) ht
  rw [hcalls] at hcall
  rcases List.mem_append.mp hcall with hcall | hcall
  · exact ho t.call hcall
  · exact hc t.call hcall

/-- **From the start to the statement.**  Behind a rendered `SELECT` or `UPDATE` stands the history
    of its calls. -/
theorem exists_rendered {d : Dialect} {o : Opening} {calls : List Call} {b : Builder} {r : Rendered}
    (hf : o.isFiltered) (ho : o.identifiers.all isName) (hn : ∀ c ∈ calls, c.namesOnly)
    (hc : ∀ c ∈ calls, c.IsClosed d) (hrun : Builder.Takes (.start d o.draft) calls b)
    (hbuild : b.build.1 = .ok r) :
    ∃ h, h.map Taken.call = o.calls ++ calls ∧ Accounts d h b.draft ∧ b.draft.IsFiltered d ∧
      b.draft.kind = o.draft.kind ∧ b.draft.render d = .ok r.sql ∧
      r.parameters = b.draft.bindings.entries := by
  obtain ⟨first, hfirst, hstart, hfiltered⟩ := Opening.exists_history d hf ho
  obtain ⟨more, hmore, haccounts, hfiltered', hkind, hrendered, hdialect⟩ :=
    exists_history hrun hfiltered hn hc hstart
  obtain ⟨sql, hsql, rfl⟩ := Builder.build_cases hrendered hbuild
  rw [hdialect] at hsql
  refine ⟨first ++ more, ?_, haccounts, hfiltered', hkind, hsql, rfl⟩
  rw [List.map_append, hfirst, hmore]

end TaggedSql.Query
