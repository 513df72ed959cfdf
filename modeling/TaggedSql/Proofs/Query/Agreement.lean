/-
  Rendered statements and what they compile to.

  Four parts have to fit together: names are generated, identifiers are quoted, clauses are written
  in an order of their own, and the text is cut into lexemes again.  This module puts them together
  for statements without raw SQL (`compile_build_agrees`): the compiled names are generated ones, no
  two of them alike, their values are those that the caller supplied, in the order in which
  `Opening.supplied` reads them off the calls, and every name has the type of its value.

  1. **Entries** — a text that mentions the markers of stored values, and nothing else, compiles to
     their names in strict mode as well (`agreement_of_mentions`).

  2. **`SELECT` and `UPDATE`** — the latest assignments, then the comparisons
     (`exists_agreement_filtered`): without raw conditions every site stands for a stored value.

  3. **`INSERT`** — the rows (`exists_agreement_insert`).
-/
import TaggedSql.Proofs.Query.Rows
import TaggedSql.Proofs.Query.Sites

namespace TaggedSql.Query

open TaggedSql.Placeholder TaggedSql.Sql

/-- A compiled statement whose names stand for values, in this order. -/
structure Agreement (r : Rendered) (values : List Value) (c : Compiled) : Prop where
  generated : ∀ name ∈ c.names, ∃ k, name = parameterName k
  nodup : c.names.Nodup
  bound : c.names.map (fun name => r.parameters.lookup name) = values.map some
  typed : c.names.map (fun name => c.types.lookup name) = values.map fun v => some (.infer v)

/-! ## Entries -/

/-- **Entries.**  A text that mentions the markers of stored values agrees with these. -/
theorem agreement_of_mentions {d : Dialect} {r : Rendered} {entries : List (String × Value)}
    (hm : mentions (lex d.lexing r.sql.toList) = entries.flatMap fun p => (markerOf p).mentions)
    (hg : ∀ p ∈ entries, ∃ k, p.1 = parameterName k) (hn : (entries.map Prod.fst).Nodup)
    (hb : ∀ p ∈ entries, r.parameters.lookup p.1 = some p.2) (marker : String) (strict : Bool) :
    ∃ c, (compile ⟨marker, strict, d.lexing⟩ r.sql).outcome = .ok c ∧
      Agreement r (entries.map Prod.snd) c := by
  have hparameters : parameters (lex d.lexing r.sql.toList) =
      entries.map fun p => (p.1, .infer p.2) := by
    rw [← parameters_mentions, hm, parameters_markers]
  -- markers are no ambiguous tokens, so strict compilation goes through as well
  have hclear : firstAmbiguity? 0 (lex d.lexing r.sql.toList) = none := by
    refine firstAmbiguity?_eq_none fun l hl => ?_
    rw [hm] at hl
    obtain ⟨p, -, hp⟩ := List.mem_flatMap.mp hl
    obtain rfl := List.mem_singleton.mp hp
    rfl
  have hcompile : (compile ⟨marker, strict, d.lexing⟩ r.sql).outcome =
      .ok (compiled marker (lex d.lexing r.sql.toList)) := by
    simp only [compile, hclear, ite_self]
  have hnames : (compiled marker (lex d.lexing r.sql.toList)).names = entries.map Prod.fst := by
    rw [compiled, hparameters, List.map_map]
    rfl
  refine ⟨_, hcompile, ?_, ?_, ?_, ?_⟩
  · intro name hname
    rw [hnames] at hname
    obtain ⟨p, hp, rfl⟩ := List.mem_map.mp hname
    exact hg p hp
  · rw [hnames]
    exact hn
  · rw [hnames, List.map_map, List.map_map]
    exact List.map_congr_left hb
  · rw [hnames, List.map_map, List.map_map]
    refine List.map_congr_left fun p hp => ?_
    have hnodup : ((entries.map fun p => (p.1, BindType.infer p.2)).map Prod.fst).Nodup := by
      rw [List.map_map]
      exact hn
    have hmem : (p.1, BindType.infer p.2) ∈ entries.map fun p => (p.1, BindType.infer p.2) :=
      List.mem_map_of_mem hp
    show (compiled marker (lex d.lexing r.sql.toList)).types.lookup p.1 = some (.infer p.2)
    rw [compiled, lookup_keepFirst, hparameters]
    exact lookup_of_mem hnodup hmem

/-! ## `SELECT` and `UPDATE` -/

/-- Whether a call adds raw SQL. -/
def Call.isRaw : Call → Bool
  | .whereRaw .. => true
  | _ => false

/-- What a call stored for a condition. -/
def Taken.compared (t : Taken) : List (String × Value) :=
  match t.call with
  | .compare .. => t.stored
  | _ => []

/-- The stored values that a statement without raw conditions mentions, as they are written. -/
def entriesOf (h : List Taken) : List (String × Value) :=
  (latest (h.flatMap Taken.assignments)).map Prod.snd ++ h.flatMap Taken.compared

theorem Taken.sites_of_not_raw {d : Dialect} {t : Taken} (hr : t.call.isRaw = false) :
    t.sites d = t.compared.map .stored := by
  obtain ⟨c, stored⟩ := t
  cases c with
  | whereRaw expression own => cases hr
  | _ => rfl

theorem Taken.mentions_of_not_raw {d : Dialect} {t : Taken} (hr : t.call.isRaw = false) :
    t.mentions d = t.compared.flatMap fun p => (markerOf p).mentions := by
  obtain ⟨c, stored⟩ := t
  cases c with
  | whereRaw expression own => cases hr
  | _ => rfl

theorem Taken.isOwn_of_not_raw {d : Dialect} {t : Taken} (hr : t.call.isRaw = false) :
    t.IsOwn d := by
  refine Taken.isOwn_of_mentionsOwn ?_
  cases hc : t.call with
  | whereRaw expression own =>
    rw [hc] at hr
    cases hr
  | _ => trivial

theorem Opening.isRaw_of_mem_calls {o : Opening} {c : Call} (hc : c ∈ o.calls) :
    c.isRaw = false := by
  cases o with
  | update table values =>
    rw [List.mem_singleton.mp hc]
    rfl
  | _ => cases hc

theorem Call.rawParameters_of_not_raw {c : Call} (hr : c.isRaw = false) :
    c.rawParameters = [] := by
  cases c with
  | whereRaw expression own => cases hr
  | _ => rfl

theorem Taken.compared_sublist (t : Taken) : t.compared.Sublist t.stored := by
  obtain ⟨c, stored⟩ := t
  cases c with
  | compare conjunction column operator value => exact List.Sublist.refl stored
  | _ => exact List.nil_sublist stored

/-- What a call stored for a condition is what it supplies for one. -/
theorem Taken.values_compared {t : Taken} (hv : t.stored.map Prod.snd = t.call.supplied) :
    t.compared.map Prod.snd = t.call.operands := by
  obtain ⟨c, stored⟩ := t
  cases c with
  | compare conjunction column operator value => exact hv.trans (List.append_nil _)
  | _ => rfl

/-- What a call assigned is what it sets. -/
theorem Taken.values_assignments {t : Taken} (hv : t.stored.map Prod.snd = t.call.supplied) :
    t.assignments.map (fun a => (a.1, a.2.2)) = t.call.settings := by
  have hzip : t.assignments.map (fun a => (a.1, a.2.2)) =
      (t.call.settings.map Prod.fst).zip (t.stored.map Prod.snd) := by
    rw [Taken.assignments, List.zip_map_right]
    rfl
  obtain ⟨c, stored⟩ := t
  rw [hzip, hv]
  cases c with
  | set column value => rfl
  | setValues entries => exact (List.zip_of_prod rfl rfl).symm
  | _ => rfl

/-- The latest values that were assigned are the latest ones that were set. -/
theorem Accounts.latest_settings {d : Dialect} {h : List Taken} {q : Draft}
    (ha : Accounts d h q) : latest ((h.map Taken.call).flatMap Call.settings) =
      (latest (h.flatMap Taken.assignments)).map fun a => (a.1, a.2.2) := by
  have hsettings : (h.flatMap Taken.assignments).map (fun a => (a.1, a.2.2)) =
      (h.map Taken.call).flatMap Call.settings := by
    rw [List.map_flatMap, List.flatMap_map]
    exact List.flatMap_congr fun t ht => Taken.values_assignments (ha.values t ht)
  rw [← hsettings, latest_map]

/-- A `SELECT` sets nothing. -/
theorem Accounts.latest_settings_of_select {d : Dialect} {h : List Taken} {q : Draft}
    (ha : Accounts d h q) (hk : q.kind = .select) :
    latest ((h.map Taken.call).flatMap Call.settings) = [] := by
  have hnone : q.assignments = [] := by
    cases q with
    | select q => rfl
    | _ => cases hk
  have hassignments := ha.assignments
  rw [hnone, latest_map] at hassignments
  rw [ha.latest_settings, List.map_eq_nil_iff.mp hassignments.symm]
  rfl

/-- The values of the entries are those that the calls supply. -/
theorem values_entriesOf {d : Dialect} {h : List Taken} {q : Draft} (ha : Accounts d h q) :
    (entriesOf h).map Prod.snd =
      (latest ((h.map Taken.call).flatMap Call.settings)).map Prod.snd ++
        (h.map Taken.call).flatMap Call.operands := by
  have hoperands : (h.flatMap Taken.compared).map Prod.snd =
      (h.map Taken.call).flatMap Call.operands := by
    rw [List.map_flatMap, List.flatMap_map]
    exact List.flatMap_congr fun t ht => Taken.values_compared (ha.values t ht)
  rw [entriesOf, List.map_append, hoperands, ha.latest_settings, List.map_map, List.map_map]
  rfl

/-- The entries were stored. -/
theorem mem_stored_of_mem_entriesOf {h : List Taken} {p : String × Value} (hp : p ∈ entriesOf h) :
    ∃ t ∈ h, p ∈ t.stored := by
  rcases List.mem_append.mp hp with hp | hp
  · obtain ⟨a, hlatest, rfl⟩ := List.mem_map.mp hp
    obtain ⟨t, ht, hat⟩ := List.mem_flatMap.mp (mem_of_mem_latest hlatest)
    exact ⟨t, ht, (List.of_mem_zip hat).2⟩
  · obtain ⟨t, ht, hpt⟩ := List.mem_flatMap.mp hp
    exact ⟨t, ht, t.compared_sublist.subset hpt⟩

/-- No two entries have the same name. -/
theorem nodup_entriesOf {d : Dialect} {h : List Taken} {q : Draft} (ha : Accounts d h q)
    (hr : ∀ t ∈ h, t.call.isRaw = false) : ((entriesOf h).map Prod.fst).Nodup := by
  -- all sites stand for stored values, and these are new where they are mentioned
  have hsites : sitesOf d h = (entriesOf h).map .stored := by
    rw [sitesOf, entriesOf, List.map_append, List.map_map, List.map_flatMap]
    congr 1
    exact List.flatMap_congr fun t ht => Taken.sites_of_not_raw (hr t ht)
  have hpairwise := pairwise_sitesOf ha fun t ht => Taken.isOwn_of_not_raw (hr t ht)
  rw [hsites, List.pairwise_map] at hpairwise
  exact List.pairwise_map.mpr (hpairwise.imp fun hne => hne rfl)

/-- The text of a `SELECT` or an `UPDATE` mentions the markers of the entries. -/
theorem mentions_entriesOf {d : Dialect} {h : List Taken} {q : Draft} {sql : String}
    (ha : Accounts d h q) (hq : q.IsFiltered d) (hr : ∀ t ∈ h, t.call.isRaw = false)
    (hsql : q.render d = .ok sql) :
    mentions (lex d.lexing sql.toList) =
      (entriesOf h).flatMap fun p => (markerOf p).mentions := by
  have hconditions : h.flatMap (Taken.mentions d) =
      (h.flatMap Taken.compared).flatMap fun p => (markerOf p).mentions := by
    rw [List.flatMap_assoc]
    exact List.flatMap_congr fun t ht => Taken.mentions_of_not_raw (hr t ht)
  rw [mentions_render hq hsql, ha.conditions, hconditions, ha.assignments, latest_map, entriesOf,
    List.flatMap_append, List.flatMap_map, List.flatMap_map]

/-- **`SELECT` and `UPDATE`.**  Without raw conditions the statement agrees with its calls. -/
theorem exists_agreement_filtered {d : Dialect} {o : Opening} {calls : List Call} {b : Builder}
    {r : Rendered} (hf : o.isFiltered) (ho : o.identifiers.all isName)
    (hn : ∀ c ∈ calls, c.namesOnly) (hr : ∀ c ∈ calls, c.isRaw = false)
    (hrun : Builder.Takes (.start d o.draft) calls b) (hbuild : b.build.1 = .ok r)
    (marker : String) (strict : Bool) :
    ∃ c, (compile ⟨marker, strict, d.lexing⟩ r.sql).outcome = .ok c ∧
      Agreement r (o.supplied calls) c := by
  have hclosed : ∀ c ∈ calls, c.IsClosed d := by
    intro c hc
    have hc := hr c hc
    cases c with
    | whereRaw expression own => cases hc
    | _ => trivial
  obtain ⟨h, hcalls, haccounts, hfiltered, hkind, hsql, hparameters⟩ :=
    exists_rendered hf ho hn hclosed hrun hbuild
  have hraw : ∀ t ∈ h, t.call.isRaw = false :=
    forall_calls hcalls (fun c hc => Opening.isRaw_of_mem_calls hc) hr
  have hentries : r.parameters = h.flatMap Taken.stored :=
    hparameters.trans (haccounts.entries fun t ht => Call.rawParameters_of_not_raw (hraw t ht))
  have hnodup : ((h.flatMap Taken.stored).map Prod.fst).Nodup := by
    rw [List.map_flatMap]
    exact haccounts.nodup_stored
  -- an `UPDATE` counts the values it was opened with among its calls
  have hsupplied : (entriesOf h).map Prod.snd = o.supplied calls := by
    cases o with
    | select columns =>
      rw [values_entriesOf haccounts, haccounts.latest_settings_of_select hkind, hcalls]
      rfl
    | insert table columns => cases hf
    | update table values =>
      rw [values_entriesOf haccounts, hcalls]
      rfl
  rw [← hsupplied]
  refine agreement_of_mentions (mentions_entriesOf haccounts hfiltered hraw hsql) (fun p hp => ?_)
    (nodup_entriesOf haccounts hraw) (fun p hp => ?_) marker strict
  · obtain ⟨t, ht, hpt⟩ := mem_stored_of_mem_entriesOf hp
    exact haccounts.generated t ht p hpt
  · obtain ⟨t, ht, hpt⟩ := mem_stored_of_mem_entriesOf hp
    rw [hentries]
    exact lookup_of_mem hnodup (List.mem_flatMap.mpr ⟨t, ht, hpt⟩)

/-! ## `INSERT` -/

/-- **`INSERT`.**  The statement agrees with what its rows supply. -/
theorem exists_agreement_insert {d : Dialect} {table : Identifier} {columns : List Identifier}
    {calls : List Call} {b : Builder} {r : Rendered}
    (ho : (Opening.insert table columns).identifiers.all isName)
    (hn : ∀ c ∈ calls, c.namesOnly)
    (hrun : Builder.Takes (.start d (Opening.insert table columns).draft) calls b)
    (hbuild : b.build.1 = .ok r) (marker : String) (strict : Bool) :
    ∃ c, (compile ⟨marker, strict, d.lexing⟩ r.sql).outcome = .ok c ∧
      Agreement r ((Opening.insert table columns).supplied calls) c := by
  have hnames := List.all_eq_true.mp ho
  have hnamed : InsertDraft.IsNamed ⟨table, columns.map valueOfIdentifier, [], .empty⟩ := by
    refine ⟨isQuiet_of_isName (hnames table List.mem_cons_self), fun v hv => ?_⟩
    obtain ⟨i, hi, rfl⟩ := List.mem_map.mp hv
    exact isText_valueOfIdentifier (hnames i (List.mem_cons_of_mem table hi))
  obtain ⟨stored, q, hdraft, hstored, hrows, hvalues, hq, hrendered, hdialect⟩ :=
    exists_inserted hrun rfl hnamed hn
  obtain ⟨sql, hsql, rfl⟩ := Builder.build_cases hrendered hbuild
  have hmarkers : q.rows.flatten = stored.map markerOf := hrows
  have hentries : b.draft.bindings.entries = stored := by
    rw [hdraft]
    exact hstored.entries
  have hsql : q.render d = .ok sql := by
    rw [hdialect, hdraft] at hsql
    exact hsql
  have hmentions : mentions (lex d.lexing sql.toList) =
      stored.flatMap fun p => (markerOf p).mentions := by
    rw [mentions_insert hq ?_ hsql, hmarkers, List.flatMap_map]
    intro m hm
    rw [hmarkers] at hm
    obtain ⟨p, hp, rfl⟩ := List.mem_map.mp hm
    exact isNamed_markerOf (hstored.generated p hp)
  have hsupplied : (Opening.insert table columns).supplied calls = stored.map Prod.snd := hvalues
  rw [hsupplied]
  refine agreement_of_mentions hmentions hstored.generated hstored.nodup (fun p hp => ?_) marker
    strict
  rw [hentries]
  exact lookup_of_mem hstored.nodup hp

/-! ## All kinds alike -/

/-- **A rendered statement compiles to what the caller supplied.** -/
theorem compile_build_agrees {d : Dialect} {o : Opening} {calls : List Call} {b : Builder}
    {r : Rendered} (ho : o.identifiers.all isName) (hn : ∀ c ∈ calls, c.namesOnly)
    (hr : ∀ c ∈ calls, c.isRaw = false) (hrun : Builder.Takes (.start d o.draft) calls b)
    (hbuild : b.build.1 = .ok r) (marker : String) (strict : Bool) :
    ∃ c, (compile ⟨marker, strict, d.lexing⟩ r.sql).outcome = .ok c ∧
      Agreement r (o.supplied calls) c := by
  cases o with
  | select columns => exact exists_agreement_filtered rfl ho hn hr hrun hbuild marker strict
  | insert table columns => exact exists_agreement_insert ho hn hrun hbuild marker strict
  | update table values => exact exists_agreement_filtered rfl ho hn hr hrun hbuild marker strict

/-- Names with quotes, brackets and colons, a value that is replaced, and a list. -/
theorem compile_build_agrees_quoted :
    ∃ b r, Builder.Takes
        (.start .sqlServer (Opening.update (.name "t]--") [("a':x", .int 1)]).draft)
        [.compare .and (.name "c[:y") (.text "IN") (some (.collection .list [.int 2, .text "z"])),
          .set (.name "a':x") (.text "w")] b ∧
      b.build.1 = .ok r ∧
      ∃ c, (compile ⟨"%s", true, Dialect.sqlServer.lexing⟩ r.sql).outcome = .ok c ∧
        Agreement r [.text "w", .int 2, .text "z"] c := by
  have hrun : ∃ b r, Builder.Takes
      (.start .sqlServer (Opening.update (.name "t]--") [("a':x", .int 1)]).draft)
      [.compare .and (.name "c[:y") (.text "IN") (some (.collection .list [.int 2, .text "z"])),
        .set (.name "a':x") (.text "w")] b ∧ b.build.1 = .ok r :=
    ⟨_, _, .cons rfl (.cons rfl (.nil _)), rfl⟩
  obtain ⟨b, r, htakes, hbuild⟩ := hrun
  exact ⟨b, r, htakes, hbuild, compile_build_agrees
    (o := .update (.name "t]--") [("a':x", .int 1)]) rfl (by decide) (by decide) htakes hbuild
    "%s" true⟩

end TaggedSql.Query
