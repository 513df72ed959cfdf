/-
  What a statement mentions.

  1. **Sites** — a statement mentions a value that was stored, or a name of the caller's.
     `sitesOf` lists them as they are written: the latest assignments, then the conditions.  The
     parameters of the rendered text are exactly these (`parameters_render`).

  2. **First occurrences** — a generated name differs from all names mentioned before it
     (`pairwise_sitesOf`), provided that raw conditions mention parameters of their own.  Names that
     a raw condition brings along are bound before any later name is generated, and the assignments,
     which come first, mention generated names only.
-/
import Mathlib.Data.List.Flatten
import TaggedSql.Proofs.Query.History

namespace TaggedSql.Query

open TaggedSql.Placeholder TaggedSql.Sql

/-! ## Sites -/

/-- What a placeholder of a statement stands for: a value that was stored under a name, or a name
    that SQL of the caller's mentions with a type. -/
inductive Site where
  | stored (p : String × Value)
  | mention (p : String × BindType)

/-- The name of a site. -/
def Site.name : Site → String
  | .stored p => p.1
  | .mention p => p.1

/-- The parameter that a site is compiled to. -/
def Site.parameter : Site → String × BindType
  | .stored p => (p.1, .infer p.2)
  | .mention p => p

/-- The sites of a call in the conditions. -/
def Taken.sites (d : Dialect) (t : Taken) : List Site :=
  match t.call with
  | .compare .. => t.stored.map .stored
  | .whereRaw expression _ =>
    (Placeholder.parameters (lex d.lexing expression.toList)).map .mention
  | _ => []

/-- The sites of a statement in the order in which they are written: the latest assignments, then
    the conditions. -/
def sitesOf (d : Dialect) (h : List Taken) : List Site :=
  (latest (h.flatMap Taken.assignments)).map (fun a => .stored a.2) ++ h.flatMap (Taken.sites d)

theorem parameters_markers (ps : List (String × Value)) :
    parameters (ps.flatMap fun p => (markerOf p).mentions) = ps.map fun p => (p.1, .infer p.2) := by
  induction ps with
  | nil => rfl
  | cons p ps ih =>
    rw [List.flatMap_cons, parameters_append, parameters_markerOf, ih]
    rfl

theorem parameters_mentions_taken (d : Dialect) (t : Taken) :
    parameters (t.mentions d) = (t.sites d).map Site.parameter := by
  obtain ⟨c, stored⟩ := t
  cases c with
  | compare conjunction column operator value =>
    show parameters (stored.flatMap fun p => (markerOf p).mentions) =
      (stored.map Site.stored).map Site.parameter
    rw [parameters_markers, List.map_map]
    rfl
  | whereRaw expression own =>
    show parameters (mentions (lex d.lexing expression.toList)) =
      ((parameters (lex d.lexing expression.toList)).map Site.mention).map Site.parameter
    rw [parameters_mentions, List.map_map]
    exact (List.map_id _).symm
  | _ => rfl

/-- The text of a query mentions its assigned markers, then what its conditions mention. -/
theorem mentions_render {d : Dialect} {q : Draft} {sql : String} (hq : q.IsFiltered d)
    (hsql : q.render d = .ok sql) :
    mentions (lex d.lexing sql.toList) =
      (q.assignments.flatMap fun a => a.2.mentions) ++ conditionMentions d q.conditions := by
  cases q with
  | insert q => exact hq.elim
  | select q =>
    obtain ⟨fs, hfs, hreads⟩ := reads_select hq
    rw [Draft.render, SelectDraft.render, hfs] at hsql
    cases hsql
    exact hreads.mentions_write
  | update q =>
    obtain ⟨fs, hfs, hreads⟩ := reads_update hq
    rw [Draft.render, UpdateDraft.render, hfs] at hsql
    split at hsql
    · cases hsql
    · cases hsql
      exact hreads.mentions_write

/-- **The parameters of a statement are its sites.** -/
theorem parameters_render {d : Dialect} {h : List Taken} {q : Draft} {sql : String}
    (ha : Accounts d h q) (hq : q.IsFiltered d) (hsql : q.render d = .ok sql) :
    parameters (lex d.lexing sql.toList) = (sitesOf d h).map Site.parameter := by
  have hassigned : parameters (q.assignments.flatMap fun a => a.2.mentions) =
      (latest (h.flatMap Taken.assignments)).map fun a => (a.2.1, .infer a.2.2) := by
    have hmarkers := parameters_markers ((latest (h.flatMap Taken.assignments)).map Prod.snd)
    rw [List.flatMap_map, List.map_map] at hmarkers
    rw [ha.assignments, latest_map, List.flatMap_map]
    exact hmarkers
  have hconditions : parameters (h.flatMap (Taken.mentions d)) =
      (h.flatMap (Taken.sites d)).map Site.parameter := by
    rw [parameters, List.filterMap_flatMap, List.map_flatMap]
    exact List.flatMap_congr fun t _ => parameters_mentions_taken d t
  rw [← parameters_mentions, mentions_render hq hsql, parameters_append, hassigned, ha.conditions,
    hconditions, sitesOf, List.map_append, List.map_map]
  rfl

/-! ## First occurrences -/

/-- Whether a site stands for a stored value. -/
def Site.isStored : Site → Bool
  | .stored _ => true
  | .mention _ => false

/-- A call whose conditions mention parameters that it stored or brought along. -/
def Taken.IsOwn (d : Dialect) (t : Taken) : Prop :=
  ∀ s ∈ t.sites d, s.name ∈ t.parameters.map Prod.fst

/-- Whether a raw condition mentions parameters of its own call only. -/
def Call.MentionsOwn (d : Dialect) : Call → Prop
  | .whereRaw expression own =>
    ∀ p ∈ Placeholder.parameters (lex d.lexing expression.toList), p.1 ∈ own.map Prod.fst
  | _ => True

theorem Taken.isOwn_of_mentionsOwn {d : Dialect} {t : Taken} (h : t.call.MentionsOwn d) :
    t.IsOwn d := by
  obtain ⟨c, stored⟩ := t
  intro s hs
  cases c with
  | compare conjunction column operator value =>
    obtain ⟨p, hp, rfl⟩ := List.mem_map.mp hs
    exact List.mem_map_of_mem (List.mem_append_left _ hp)
  | whereRaw expression own =>
    obtain ⟨p, hp, rfl⟩ := List.mem_map.mp hs
    obtain ⟨r, hr, hname⟩ := List.mem_map.mp (h p hp)
    exact List.mem_map.mpr ⟨r, List.mem_append_right _ hr, hname⟩
  | _ => cases hs

/-- A call that assigns stores what it assigns, and mentions nothing in a condition. -/
theorem Taken.assignments_cases {t : Taken} (hv : t.stored.map Prod.snd = t.call.supplied) :
    t.assignments = [] ∨ t.assignments.map Prod.snd = t.stored ∧ ∀ d, t.sites d = [] := by
  obtain ⟨c, stored⟩ := t
  have hlength := congrArg List.length hv
  cases c with
  | set column value =>
    refine Or.inr ⟨List.map_snd_zip ?_, fun _ => rfl⟩
    simpa [Call.supplied, Call.operands, Call.settings] using hlength.le
  | setValues entries =>
    refine Or.inr ⟨List.map_snd_zip ?_, fun _ => rfl⟩
    simpa [Call.supplied, Call.operands, Call.settings] using hlength.le
  | _ => exact Or.inl rfl

/-- A stored value that is mentioned in a condition was stored by the call. -/
theorem Taken.mem_stored_of_mem_sites {d : Dialect} {t : Taken} {s : Site} (hs : s ∈ t.sites d)
    (hstored : s.isStored) : ∃ p ∈ t.stored, s = .stored p := by
  obtain ⟨c, stored⟩ := t
  cases c with
  | compare conjunction column operator value =>
    obtain ⟨p, hp, rfl⟩ := List.mem_map.mp hs
    exact ⟨p, hp, rfl⟩
  | whereRaw expression own =>
    obtain ⟨p, -, rfl⟩ := List.mem_map.mp hs
    cases hstored
  | _ => cases hs

theorem Taken.pairwise_sites {d : Dialect} {t : Taken} (hn : (t.stored.map Prod.fst).Nodup) :
    (t.sites d).Pairwise fun s s' => s'.isStored → s.name ≠ s'.name := by
  obtain ⟨c, stored⟩ := t
  cases c with
  | compare conjunction column operator value =>
    refine List.pairwise_map.mpr ((List.pairwise_map.mp hn).imp ?_)
    intro p r hne _
    exact hne
  | whereRaw expression own =>
    refine List.pairwise_map.mpr (List.pairwise_of_forall fun p r hstored => ?_)
    cases hstored
  | _ => exact List.Pairwise.nil

/-- All that the calls of a history stored has names of its own. -/
theorem Accounts.nodup_stored {d : Dialect} {h : List Taken} {q : Draft} (ha : Accounts d h q) :
    (h.flatMap fun t => t.stored.map Prod.fst).Nodup := by
  rw [List.nodup_flatMap]
  refine ⟨ha.nodup, ha.fresh.imp fun {t u} hfresh name hname hname' => ?_⟩
  obtain ⟨p, hp, rfl⟩ := List.mem_map.mp hname
  obtain ⟨r, hr, hpr⟩ := List.mem_map.mp hname'
  exact hfresh p (List.mem_append_left _ hp) r hr hpr.symm

/-- What the calls of a history assigned is part of what they stored. -/
theorem Accounts.nodup_assignments {d : Dialect} {h : List Taken} {q : Draft}
    (ha : Accounts d h q) : ((h.flatMap Taken.assignments).map fun a => a.2.1).Nodup := by
  have hsublist : ((h.flatMap Taken.assignments).map fun a => a.2.1).Sublist
      (h.flatMap fun t => t.stored.map Prod.fst) := by
    rw [List.map_flatMap]
    refine List.Sublist.flatMap_right h fun t ht => ?_
    rcases Taken.assignments_cases (ha.values t ht) with hnil | ⟨hstored, -⟩
    · rw [hnil]
      exact List.nil_sublist _
    · rw [← hstored, List.map_map]
      exact List.Sublist.refl _
  exact ha.nodup_stored.sublist hsublist

/-- **Generated names are new where they are mentioned.** -/
theorem pairwise_sitesOf {d : Dialect} {h : List Taken} {q : Draft} (ha : Accounts d h q)
    (ho : ∀ t ∈ h, t.IsOwn d) :
    (sitesOf d h).Pairwise fun s s' => s'.isStored → s.name ≠ s'.name := by
  refine List.pairwise_append.mpr ⟨?_, ?_, ?_⟩
  · -- assignments: no two of them go to one column
    rw [List.pairwise_map]
    refine (nodup_latest _).imp_of_mem fun {a b} hma hmb hne _ heq => hne ?_
    exact List.inj_on_of_nodup_map ha.nodup_assignments (mem_of_mem_latest hma)
      (mem_of_mem_latest hmb) heq
  · -- conditions: within a call, and from a call to a later one
    rw [List.pairwise_flatMap]
    constructor
    · intro t ht
      exact Taken.pairwise_sites (ha.nodup t ht)
    · refine ha.fresh.imp_of_mem fun {t u} ht hu hfresh s hs s' hs' hstored => ?_
      obtain ⟨r, hr, rfl⟩ := Taken.mem_stored_of_mem_sites hs' hstored
      obtain ⟨p, hp, hname⟩ := List.mem_map.mp (ho t ht s hs)
      rw [← hname]
      exact hfresh p hp r hr
  · -- an assignment and a condition come from different calls, in either order
    have hcalls : ∀ t ∈ h, ∀ u ∈ h, ∀ a ∈ t.assignments, ∀ s ∈ u.sites d, s.isStored →
        a.2.1 ≠ s.name := by
      refine List.Pairwise.forall_of_forall_of_flip (fun t ht a hat s hs _ => ?_) ?_ ?_
      · rcases Taken.assignments_cases (ha.values t ht) with hnil | ⟨-, hsites⟩
        · rw [hnil] at hat
          cases hat
        · rw [hsites] at hs
          cases hs
      · refine ha.fresh.imp fun {t u} hfresh a hat s hs hstored => ?_
        obtain ⟨r, hr, rfl⟩ := Taken.mem_stored_of_mem_sites hs hstored
        exact hfresh a.2 (List.mem_append_left _ (List.of_mem_zip hat).2) r hr
      · refine ha.fresh.imp fun {t u} hfresh a hau s hs hstored => ?_
        obtain ⟨r, hr, rfl⟩ := Taken.mem_stored_of_mem_sites hs hstored
        exact (hfresh r (List.mem_append_left _ hr) a.2 (List.of_mem_zip hau).2).symm
    intro s hs s' hs' hstored
    obtain ⟨a, hlatest, rfl⟩ := List.mem_map.mp hs
    obtain ⟨t, ht, hat⟩ := List.mem_flatMap.mp (mem_of_mem_latest hlatest)
    obtain ⟨u, hu, hsu⟩ := List.mem_flatMap.mp hs'
    exact hcalls t ht u hu a hat s' hsu hstored

/-- **The type of a stored value.**  Where a name is mentioned first decides its type; a stored
    value is mentioned first by its own marker. -/
theorem lookup_sitesOf {d : Dialect} {h : List Taken} {q : Draft} (ha : Accounts d h q)
    (ho : ∀ t ∈ h, t.IsOwn d) {p : String × Value} (hp : .stored p ∈ sitesOf d h) :
    ((sitesOf d h).map Site.parameter).lookup p.1 = some (.infer p.2) := by
  have hpairwise := pairwise_sitesOf ha ho
  obtain ⟨front, back, hsplit⟩ := List.append_of_mem hp
  rw [hsplit] at hpairwise ⊢
  have hfront := (List.pairwise_append.mp hpairwise).2.2
  refine List.lookup_eq_some_iff.mpr
    ⟨front.map Site.parameter, back.map Site.parameter, by simp [Site.parameter], ?_⟩
  intro r hr
  obtain ⟨s, hs, rfl⟩ := List.mem_map.mp hr
  have hne : s.name ≠ p.1 := hfront s hs (.stored p) List.mem_cons_self rfl
  have hname : s.parameter.1 = s.name := by cases s <;> rfl
  rw [hname]
  simpa using Ne.symm hne

/-- Every site is bound. -/
theorem bound_of_mem_sitesOf {d : Dialect} {h : List Taken} {q : Draft} (ha : Accounts d h q)
    (ho : ∀ t ∈ h, t.IsOwn d) {s : Site} (hs : s ∈ sitesOf d h) :
    s.name ∈ q.bindings.names := by
  have hparameters : ∃ t ∈ h, s.name ∈ t.parameters.map Prod.fst := by
    rcases List.mem_append.mp hs with hs | hs
    · obtain ⟨a, hlatest, rfl⟩ := List.mem_map.mp hs
      obtain ⟨t, ht, hat⟩ := List.mem_flatMap.mp (mem_of_mem_latest hlatest)
      have hp := List.mem_append_left t.call.rawParameters (List.of_mem_zip hat).2
      exact ⟨t, ht, List.mem_map_of_mem hp⟩
    · obtain ⟨t, ht, hst⟩ := List.mem_flatMap.mp hs
      exact ⟨t, ht, ho t ht s hst⟩
  obtain ⟨t, ht, hname⟩ := hparameters
  obtain ⟨p, hp, hps⟩ := List.mem_map.mp hname
  obtain ⟨w, hw, -⟩ := ha.bound t ht p hp
  rw [← hps]
  exact mem_names_iff.mpr ⟨w, hw⟩

end TaggedSql.Query
