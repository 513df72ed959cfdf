/-
  What a run of calls inserts.

  1. **Rows** — a row stores its values in column order (`row_cases`), and rows store theirs one
     after the other (`takeRows_cases`); while there are no columns, the first mapping provides
     them.

  2. **Runs** — a run stores what its calls insert, row by row, and the markers of its rows are
     those of the stored values (`exists_inserted`).

  3. **The statement** mentions these markers and nothing else (`mentions_insert`).
-/
import TaggedSql.Proofs.Query.History

namespace TaggedSql.Query

open TaggedSql.Placeholder TaggedSql.Sql

/-! ## Rows -/

/-- `Inserts q stored q'`: from `q` the values of `stored` have been stored in new rows, and `q'`
    was reached. -/
structure Inserts (q : InsertDraft) (stored : List (String × Value)) (markers : List Marker)
    (q' : InsertDraft) : Prop where
  bindings : Stored q.bindings stored q'.bindings
  markers : markers = stored.map markerOf
  table : q'.table = q.table
  rows : q'.rows = q.rows

theorem exists_bindRow (q : InsertDraft) (values : List Value) :
    ∃ stored, stored.map Prod.snd = values ∧
      Inserts q stored (q.bindRow values).1 (q.bindRow values).2 ∧
      (q.bindRow values).2.columns = q.columns := by
  obtain ⟨stored, b, hall, hvalues, hstored⟩ := exists_bindAll q.bindings values
  refine ⟨stored, hvalues, ⟨?_, ?_, rfl, rfl⟩, rfl⟩
  · rw [InsertDraft.bindRow, hall]
    exact hstored
  · rw [InsertDraft.bindRow, hall]

theorem mappingRow_cases {q : InsertDraft} {entries : List (Value × Value)}
    {r : List Marker × InsertDraft} (h : q.mappingRow entries = .ok r) :
    ∃ stored, stored.map Prod.snd = rowValues q.columns (.mapping entries) ∧
      Inserts q stored r.1 r.2 ∧ r.2.columns = columnsAfter q.columns (.mapping entries) := by
  simp only [InsertDraft.mappingRow] at h
  split at h
  · next hempty =>
    -- the keys become the columns
    cases h
    obtain ⟨stored, hvalues, hinserts, hcolumns⟩ :=
      exists_bindRow { q with columns := entries.map Prod.fst } (entries.map Prod.snd)
    refine ⟨stored, ?_, ⟨hinserts.bindings, hinserts.markers, hinserts.table, hinserts.rows⟩, ?_⟩
    · rw [hvalues, rowValues, if_pos hempty]
    · rw [hcolumns, columnsAfter, if_pos hempty]
      rfl
  · next hempty =>
    -- the keys have to be the columns, in any order
    split at h
    · cases h
      obtain ⟨stored, hvalues, hinserts, hcolumns⟩ :=
        exists_bindRow q (q.columns.map (entry entries))
      refine ⟨stored, ?_, hinserts, ?_⟩
      · rw [hvalues, rowValues, if_neg hempty]
      · rw [hcolumns, columnsAfter, if_neg hempty]
    · split at h <;> cases h

/-- The members of a sequence are the values of the row, and it has no keys to take columns from. -/
theorem rowValues_of_sequence {row : Value} {values : List Value}
    (h : sequence? row = some values) (columns : List Value) :
    rowValues columns row = values ∧ columnsAfter columns row = columns := by
  have hkeys : rowKeys row = [] := by
    cases row with
    | mapping entries => cases h
    | _ => rfl
  constructor
  · cases row with
    | mapping entries => cases h
    | _ => simp [rowValues, h]
  · rw [columnsAfter, hkeys]
    split
    · next hempty => exact (List.isEmpty_iff.mp hempty).symm
    · rfl

/-- **A row** stores its values in column order. -/
theorem row_cases {q : InsertDraft} {row : Value} {r : List Marker × InsertDraft}
    (h : q.row row = .ok r) :
    ∃ stored, stored.map Prod.snd = rowValues q.columns row ∧ Inserts q stored r.1 r.2 ∧
      r.2.columns = columnsAfter q.columns row := by
  unfold InsertDraft.row at h
  split at h
  · exact mappingRow_cases h
  · split at h
    · cases h
    · next values hsequence =>
      obtain ⟨hvalues, hafter⟩ := rowValues_of_sequence hsequence q.columns
      rw [hvalues, hafter]
      split at h
      · cases h
        obtain ⟨stored, hstored, hinserts, hcolumns⟩ := exists_bindRow q values
        exact ⟨stored, hstored, hinserts, hcolumns⟩
      · cases h

/-- **Rows** store their values one after the other. -/
theorem takeRows_cases {q q' : InsertDraft} {rows : List Value} {markers : List (List Marker)}
    (h : q.takeRows rows = (q', .ok markers)) :
    ∃ stored, stored.map Prod.snd = rowsValues q.columns rows ∧
      Inserts q stored markers.flatten q' ∧ q'.columns = rows.foldl columnsAfter q.columns := by
  induction rows generalizing q markers with
  | nil =>
    cases h
    exact ⟨[], rfl, ⟨Stored.nil _, rfl, rfl, rfl⟩, rfl⟩
  | cons row rows ih =>
    rw [InsertDraft.takeRows] at h
    split at h
    · cases h
    · next first q₁ hrow =>
      obtain ⟨stored, hvalues, hinserts, hcolumns⟩ := row_cases hrow
      obtain ⟨hstate, hall⟩ := Prod.mk.inj h
      obtain ⟨rest, hrest, rfl⟩ := except_map_eq_ok hall
      obtain ⟨stored', hvalues', hinserts', hcolumns'⟩ := ih (Prod.ext hstate hrest)
      have hmarkers : first = stored.map markerOf := hinserts.markers
      refine ⟨stored ++ stored', ?_, ⟨hinserts.bindings.append hinserts'.bindings, ?_, ?_, ?_⟩, ?_⟩
      · rw [List.map_append, hvalues, hvalues', hcolumns, rowsValues]
      · rw [List.flatten_cons, hmarkers, hinserts'.markers, List.map_append]
      · rw [hinserts'.table, hinserts.table]
      · rw [hinserts'.rows, hinserts.rows]
      · rw [hcolumns', hcolumns, List.foldl_cons]

/-! ## Runs -/

/-- An `INSERT` whose columns are text. -/
structure InsertDraft.IsNamed (q : InsertDraft) : Prop where
  table : q.table.IsQuiet
  columns : ∀ v ∈ q.columns, isText v

theorem isText_columnsAfter {columns : List Value} {rows : List Value}
    (hc : ∀ v ∈ columns, isText v) (hr : ∀ v ∈ rows.flatMap rowKeys, isText v) :
    ∀ v ∈ rows.foldl columnsAfter columns, isText v := by
  induction rows generalizing columns with
  | nil => exact hc
  | cons row rows ih =>
    rw [List.flatMap_cons] at hr
    refine ih ?_ fun v hv => hr v (List.mem_append_right _ hv)
    unfold columnsAfter
    split
    · intro v hv
      exact hr v (List.mem_append_left _ hv)
    · exact hc

theorem isText_valueOfIdentifier {i : Identifier} (h : isName i) :
    isText (valueOfIdentifier i) := by
  cases i with
  | name text => rfl
  | raw sql => cases h

/-- **A call on an `INSERT`** stores what it inserts, and keeps the columns text. -/
theorem InsertDraft.exists_step {q q' : InsertDraft} {c : Call} (hq : q.IsNamed)
    (hn : c.namesOnly) (h : q.apply c = .ok q') :
    ∃ stored, Stored q.bindings stored q'.bindings ∧
      q'.rows.flatten = q.rows.flatten ++ stored.map markerOf ∧
      (∀ calls, insertedValues q.columns (c :: calls) =
        stored.map Prod.snd ++ insertedValues q'.columns calls) ∧ q'.IsNamed := by
  have hnames := (Bool.and_eq_true _ _).mp hn
  cases c with
  | columns names =>
    -- nothing is stored; there are no rows yet
    rw [InsertDraft.apply] at h
    split at h
    · cases h
      refine ⟨[], Stored.nil _, (List.append_nil _).symm, fun calls => rfl, hq.table, ?_⟩
      intro v hv
      obtain ⟨i, hi, rfl⟩ := List.mem_map.mp hv
      exact isText_valueOfIdentifier (List.all_eq_true.mp hnames.1 i hi)
    · cases h
  | values rows =>
    rw [InsertDraft.apply, InsertDraft.values] at h
    split at h
    · next q₁ markers htake =>
      cases h
      obtain ⟨stored, hvalues, hinserts, hcolumns⟩ := takeRows_cases htake
      refine ⟨stored, hinserts.bindings, ?_, fun calls => ?_, ?_, ?_⟩
      · rw [List.flatten_append, hinserts.rows, hinserts.markers]
      · rw [insertedValues, hvalues, hcolumns]
      · show q₁.table.IsQuiet
        rw [hinserts.table]
        exact hq.table
      · show ∀ v ∈ q₁.columns, isText v
        rw [hcolumns]
        exact isText_columnsAfter hq.columns (List.all_eq_true.mp hnames.2)
    · cases h
  | _ => cases h

/-- **Runs.**  A run stores what its calls insert, row by row. -/
theorem exists_inserted {b b' : Builder} {calls : List Call} (hrun : Builder.Takes b calls b')
    {q : InsertDraft} (hb : b.draft = .insert q) (hq : q.IsNamed)
    (hn : ∀ c ∈ calls, c.namesOnly) :
    ∃ stored q', b'.draft = .insert q' ∧ Stored q.bindings stored q'.bindings ∧
      q'.rows.flatten = q.rows.flatten ++ stored.map markerOf ∧
      insertedValues q.columns calls = stored.map Prod.snd ∧ q'.IsNamed ∧
      b'.rendered = b.rendered ∧ b'.dialect = b.dialect := by
  induction hrun generalizing q with
  | nil b =>
    exact ⟨[], q, hb, Stored.nil _, (List.append_nil _).symm, rfl, hq, rfl, rfl⟩
  | @cons b b' b'' c calls happly _ ih =>
    obtain ⟨draft, hdraft, rfl⟩ := Builder.apply_cases happly
    rw [hb] at hdraft
    obtain ⟨q₁, hq₁, rfl⟩ := map_eq_ok hdraft
    obtain ⟨stored, hstored, hrows, hvalues, hnamed⟩ :=
      InsertDraft.exists_step hq (hn c List.mem_cons_self) hq₁
    obtain ⟨stored', q', hdraft', hstored', hrows', hvalues', hnamed', hrest⟩ :=
      ih rfl hnamed fun c' hc' => hn c' (List.mem_cons_of_mem c hc')
    refine ⟨stored ++ stored', q', hdraft', hstored.append hstored', ?_, ?_, hnamed', hrest⟩
    · rw [hrows', hrows, List.append_assoc, List.map_append]
    · rw [hvalues, hvalues', List.map_append]

/-! ## The statement -/

theorem mapM_identifierOf {vs : List Value} (h : ∀ v ∈ vs, isText v) :
    ∃ is, vs.mapM identifierOf = .ok is ∧ ∀ i ∈ is, i.IsQuiet := by
  induction vs with
  | nil => exact ⟨[], rfl, by simp⟩
  | cons v vs ih =>
    obtain ⟨is, his, hquiet⟩ := ih fun w hw => h w (List.mem_cons_of_mem v hw)
    have hv := h v List.mem_cons_self
    cases v with
    | text s =>
      refine ⟨.name s :: is, ?_, fun i hi => ?_⟩
      · rw [List.mapM_cons, his]
        rfl
      · rcases List.mem_cons.mp hi with rfl | hi
        · trivial
        · exact hquiet i hi
    | _ => cases hv

/-- The text of an `INSERT` mentions its markers row by row. -/
theorem mentions_insert {d : Dialect} {q : InsertDraft} {sql : String} (hq : q.IsNamed)
    (hm : ∀ m ∈ q.rows.flatten, m.IsNamed) (hsql : q.render d = .ok sql) :
    mentions (lex d.lexing sql.toList) = q.rows.flatten.flatMap Marker.mentions := by
  obtain ⟨columns, hcolumns, hquiet⟩ := mapM_identifierOf hq.columns
  rw [InsertDraft.render, hcolumns] at hsql
  split at hsql
  · cases hsql
  · cases hsql
    have hwell : (InsertClauses.mk q.table columns q.rows).WellFormed :=
      ⟨hq.table, hquiet, fun row hrow m hmrow => hm m (List.mem_flatten_of_mem hrow hmrow)⟩
    exact (reads_insert hwell).mentions_write

end TaggedSql.Query
