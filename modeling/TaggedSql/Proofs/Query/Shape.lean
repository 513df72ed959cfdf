/-
  The shape of what an `INSERT` writes.

  1. **Later drafts** (`Later`) — columns that are there stay, and what is bound stays bound, to the
     same value; no call does anything else, taken or not.

  2. **Rows** (`Fits`) — a stored row has one marker for each column, and each refers to the value
     that the row supplies for its column.  A row without values may be stored while there are no
     columns; and it stays as it is when a later mapping provides them.

  3. **Runs** (`stored_rows_fit_columns`) — the stored rows are those of the accepted calls, and
     each of them fits, whatever calls were made; so a statement has one value for each column in
     every row that supplies any.
-/
import TaggedSql.Proofs.Query.Supported

namespace TaggedSql.Query

open TaggedSql.Sql

/-! ## Later drafts -/

/-- Whether the second draft is what the first has become. -/
structure InsertDraft.Later (q q' : InsertDraft) : Prop where
  columns : q.columns ≠ [] → q'.columns = q.columns
  keeps : ∀ name v, q.bindings.get? name = some v → q'.bindings.get? name = some v
  table : q'.table = q.table

theorem InsertDraft.Later.refl (q : InsertDraft) : q.Later q := ⟨fun _ => rfl, fun _ _ h => h, rfl⟩

theorem InsertDraft.Later.trans {q q' q'' : InsertDraft} (h : q.Later q') (h' : q'.Later q'') :
    q.Later q'' where
  columns hne := by
    have hcolumns := h.columns hne
    rw [h'.columns (by rwa [hcolumns]), hcolumns]
  keeps name v hv := h'.keeps name v (h.keeps name v hv)
  table := h'.table.trans h.table

/-- What is stored leaves what was bound alone. -/
theorem Stored.keeps {b b' : Bindings} {stored : List (String × Value)} (h : Stored b stored b')
    (name : String) (v : Value) (hv : b.get? name = some v) : b'.get? name = some v := by
  rw [h.get?_of_mem_names (mem_names_iff.mpr ⟨v, hv⟩), hv]

theorem InsertDraft.later_row {q : InsertDraft} {row : Value} {r : List Marker × InsertDraft}
    (h : q.row row = .ok r) : q.Later r.2 := by
  obtain ⟨stored, -, hinserts, hcolumns⟩ := row_cases h
  refine ⟨fun hne => ?_, hinserts.bindings.keeps, hinserts.table⟩
  rw [hcolumns, columnsAfter, if_neg (by simpa using hne)]

/-- Rows, taken or not, lead to a later draft. -/
theorem InsertDraft.later_takeRows (q : InsertDraft) (rows : List Value) :
    q.Later (q.takeRows rows).1 := by
  induction rows generalizing q with
  | nil => exact .refl q
  | cons row rows ih =>
    rw [InsertDraft.takeRows]
    split
    · exact .refl q
    · next markers q' hrow => exact (later_row hrow).trans (ih q')

/-! ## Rows -/

/-- `Supplies columns row values`: the row supplies the values for the columns. -/
inductive Supplies (columns : List Value) : Value → List Value → Prop
  /-- A sequence supplies its items by position. -/
  | sequence {row : Value} {items : List Value} (h : sequence? row = some items)
      (hlength : items.length = columns.length) : Supplies columns row items
  /-- A mapping supplies its entries by key. -/
  | mapping {entries : List (Value × Value)} (h : sameMembers (entries.map Prod.fst) columns) :
      Supplies columns (.mapping entries) (columns.map (entry entries))
  /-- A mapping that has provided the columns supplies its values in their order. -/
  | provider {entries : List (Value × Value)} (h : columns = entries.map Prod.fst) :
      Supplies columns (.mapping entries) (entries.map Prod.snd)

theorem Supplies.length_eq {columns values : List Value} {row : Value}
    (h : Supplies columns row values) : values.length = columns.length := by
  cases h with
  | sequence h hlength => exact hlength
  | mapping h => exact List.length_map _
  | provider h => rw [h, List.length_map, List.length_map]

/-- Whether a row has no values at all. -/
def IsBlank (row : Value) : Prop := sequence? row = some [] ∨ row = .mapping []

/-- A row that supplies values for no columns has none. -/
theorem Supplies.isBlank {values : List Value} {row : Value} (h : Supplies [] row values) :
    values = [] ∧ IsBlank row := by
  have hnil : values = [] := List.length_eq_zero_iff.mp h.length_eq
  refine ⟨hnil, ?_⟩
  cases h with
  | sequence h hlength => exact .inl (by rw [h, hnil])
  | @mapping entries h =>
    have hkeys : entries.map Prod.fst = [] := by
      cases entries with
      | nil => rfl
      | cons e entries => simp [sameMembers] at h
    exact .inr (by rw [List.map_eq_nil_iff.mp hkeys])
  | @provider entries h => exact .inr (by rw [List.map_eq_nil_iff.mp h.symm])

/-- `Fits q markers row`: the markers are those of the row, as the draft stands. -/
inductive InsertDraft.Fits (q : InsertDraft) : List Marker → Value → Prop
  /-- A marker for each column refers to the value that the row supplies for it. -/
  | whole {stored : List (String × Value)} {row : Value}
      (hbound : ∀ p ∈ stored, q.bindings.get? p.1 = some p.2)
      (hsupplies : Supplies q.columns row (stored.map Prod.snd)) : Fits q (stored.map markerOf) row
  /-- The row has no values, and was stored when there were no columns. -/
  | blank {row : Value} (hblank : IsBlank row) (hcolumns : q.columns ≠ []) : Fits q [] row

/-- There is a marker for each column, or none at all for a row without values. -/
theorem InsertDraft.Fits.length_eq {q : InsertDraft} {markers : List Marker} {row : Value}
    (h : q.Fits markers row) : markers.length = q.columns.length ∨ markers = [] ∧ IsBlank row := by
  cases h with
  | whole hbound hsupplies =>
    have hlength := hsupplies.length_eq
    rw [List.length_map] at hlength
    exact .inl (by rw [List.length_map, hlength])
  | blank hblank hcolumns => exact .inr ⟨rfl, hblank⟩

/-- **What fits a draft fits what it becomes.** -/
theorem InsertDraft.Fits.later {q q' : InsertDraft} (hq : q.Later q') {markers : List Marker}
    {row : Value} (h : q.Fits markers row) : q'.Fits markers row := by
  cases h with
  | @whole stored _ hbound hsupplies =>
    have hbound' : ∀ p ∈ stored, q'.bindings.get? p.1 = some p.2 :=
      fun p hp => hq.keeps p.1 p.2 (hbound p hp)
    by_cases hcolumns : q.columns = []
    · -- the columns may have been provided since, after a row without values
      rw [hcolumns] at hsupplies
      obtain ⟨hnil, hblank⟩ := hsupplies.isBlank
      by_cases hcolumns' : q'.columns = []
      · exact .whole hbound' (by rwa [hcolumns'])
      · rw [List.map_eq_nil_iff.mp hnil]
        exact .blank hblank hcolumns'
    · exact .whole hbound' (by rwa [hq.columns hcolumns])
  | blank hblank hcolumns => exact .blank hblank (by rwa [hq.columns hcolumns])

/-- A row that is taken supplies the values that it stores. -/
theorem InsertDraft.supplies_of_row {q : InsertDraft} {row : Value} {r : List Marker × InsertDraft}
    (h : q.row row = .ok r) :
    Supplies (columnsAfter q.columns row) row (rowValues q.columns row) := by
  unfold InsertDraft.row at h
  split at h
  · next entries =>
    simp only [InsertDraft.mappingRow] at h
    rw [columnsAfter, rowValues]
    split at h
    · next hempty =>
      rw [if_pos hempty, if_pos hempty]
      exact .provider rfl
    · next hempty =>
      rw [if_neg hempty, if_neg hempty]
      split at h
      · next hsame => exact .mapping hsame
      · split at h <;> cases h
  · split at h
    · cases h
    · next values hsequence =>
      obtain ⟨hvalues, hafter⟩ := rowValues_of_sequence hsequence q.columns
      rw [hvalues, hafter]
      split at h
      · next hlength => exact .sequence hsequence hlength
      · cases h

/-- **A row that is taken fits.** -/
theorem InsertDraft.fits_row {q : InsertDraft} {row : Value} {r : List Marker × InsertDraft}
    (h : q.row row = .ok r) : r.2.Fits r.1 row := by
  obtain ⟨stored, hvalues, hinserts, hcolumns⟩ := row_cases h
  rw [hinserts.markers]
  refine .whole (fun p hp => hinserts.bindings.get?_of_mem hp) ?_
  rw [hvalues, hcolumns]
  exact InsertDraft.supplies_of_row h

/-- **Rows that are taken fit**, each of them also after the others. -/
theorem InsertDraft.fits_takeRows {q q' : InsertDraft} {rows : List Value}
    {markers : List (List Marker)} (h : q.takeRows rows = (q', .ok markers)) :
    List.Forall₂ q'.Fits markers rows := by
  induction rows generalizing q markers with
  | nil =>
    cases h
    exact .nil
  | cons row rows ih =>
    rw [InsertDraft.takeRows] at h
    split at h
    · cases h
    · next first q₁ hrow =>
      obtain ⟨hstate, hall⟩ := Prod.mk.inj h
      obtain ⟨rest, hrest, rfl⟩ := except_map_eq_ok hall
      have hlater : q₁.Later q' := hstate ▸ InsertDraft.later_takeRows q₁ rows
      exact .cons ((InsertDraft.fits_row hrow).later hlater) (ih (Prod.ext hstate hrest))

/-! ## Runs -/

/-- What follows from being related to a member of the second list holds of the first. -/
theorem forall_left_of_forall₂ {α β : Type} {R : α → β → Prop} {P : α → Prop} {as : List α}
    {bs : List β} (h : List.Forall₂ R as bs) (hP : ∀ a, ∀ b ∈ bs, R a b → P a) :
    ∀ a ∈ as, P a := by
  induction h with
  | nil => simp
  | cons hab _ ih =>
    refine List.forall_mem_cons.mpr ⟨hP _ _ List.mem_cons_self hab, ih fun a b hb => ?_⟩
    exact hP a b (List.mem_cons_of_mem _ hb)

/-- The rows of a call. -/
def Call.rows : Call → List Value
  | .values rows => rows
  | _ => []

/-- The stored rows fit the rows that were accepted. -/
def InsertDraft.FitsAll (q : InsertDraft) (rows : List Value) : Prop :=
  List.Forall₂ q.Fits q.rows rows

/-- Rows that fit still do when the draft becomes another one with the same rows. -/
theorem InsertDraft.FitsAll.later {q q' : InsertDraft} {rows : List Value} (h : q.FitsAll rows)
    (hlater : q.Later q') (hrows : q'.rows = q.rows) : q'.FitsAll rows := by
  rw [InsertDraft.FitsAll, hrows]
  exact h.imp fun _ _ hfits => hfits.later hlater

/-- **What one call preserves**, taken or not: the rows go on with its rows if it is accepted. -/
theorem InsertDraft.FitsAll.apply {q : InsertDraft} {rows : List Value} (h : q.FitsAll rows)
    (c : Call) :
    (q.apply c).state.FitsAll (rows ++ if (q.apply c).fault.isNone then c.rows else []) ∧
      (q.apply c).state.table = q.table := by
  cases c with
  | columns names =>
    rw [InsertDraft.apply]
    split
    · next hnone =>
      -- there are no rows yet
      have hnil : q.rows = [] := List.isEmpty_iff.mp hnone
      rw [InsertDraft.FitsAll, hnil, List.forall₂_nil_left_iff] at h
      subst h
      refine ⟨?_, rfl⟩
      show List.Forall₂ _ q.rows _
      rw [hnil]
      exact .nil
    · exact ⟨by simpa [Attempt.stopped] using h, rfl⟩
  | values new =>
    have hlater := q.later_takeRows new
    have hrows := rows_takeRows q new
    rw [InsertDraft.apply, InsertDraft.values]
    split
    · next q' markers htake =>
      rw [htake] at hlater hrows
      have hold : q'.FitsAll rows := h.later hlater hrows
      have hall : List.Forall₂ q'.Fits (q'.rows ++ markers) (rows ++ new) :=
        List.rel_append hold (InsertDraft.fits_takeRows htake)
      have hadded : q'.Later { q' with rows := q'.rows ++ markers } :=
        ⟨fun _ => rfl, fun _ _ h => h, rfl⟩
      exact ⟨hall.imp fun _ _ hfits => hfits.later hadded, hlater.table⟩
    · next q' f htake =>
      rw [htake] at hlater hrows
      have hnone : (rows ++ if (Attempt.stopped (if f.isComplaint then q else q') f).fault.isNone
          then Call.rows (.values new) else []) = rows := by
        simp [Attempt.stopped]
      rw [hnone]
      by_cases hf : f.isComplaint
      · rw [if_pos hf]
        exact ⟨h, rfl⟩
      · rw [if_neg hf]
        exact ⟨h.later hlater hrows, hlater.table⟩
  | _ => exact ⟨by simpa [InsertDraft.apply, Attempt.stopped] using h, rfl⟩

/-- A builder of an `INSERT` refuses a call, or hands it on. -/
theorem Builder.apply_insert {b : Builder} {q : InsertDraft} (hb : b.draft = .insert q) (c : Call) :
    (∃ f, b.apply c = .stopped b f) ∨
      b.apply c = (q.apply c).map fun q => { b with draft := .insert q } := by
  rw [Builder.apply, hb]
  split_ifs with hunknown hfrozen
  · exact .inl ⟨_, rfl⟩
  · exact .inl ⟨_, rfl⟩
  · exact .inr rfl

/-- **Runs.**  The rows that are stored fit those that were accepted, whatever calls were made. -/
theorem Builder.fits_after {b : Builder} {q : InsertDraft} (hb : b.draft = .insert q)
    {rows : List Value} (hq : q.FitsAll rows) (calls : List Call) :
    ∃ q', (b.after calls).draft = .insert q' ∧ q'.table = q.table ∧
      q'.FitsAll (rows ++ (b.accepted calls).flatMap Call.rows) ∧
      (b.after calls).rendered = b.rendered ∧ (b.after calls).dialect = b.dialect := by
  induction calls generalizing b q rows with
  | nil => exact ⟨q, hb, rfl, by simpa [Builder.accepted] using hq, rfl, rfl⟩
  | cons c calls ih =>
    rw [Builder.after_cons]
    rcases Builder.apply_insert hb c with ⟨f, hstopped⟩ | happly
    · have haccepted : b.accepted (c :: calls) = b.accepted calls := by
        rw [Builder.accepted, hstopped]
        rfl
      rw [hstopped, haccepted]
      exact ih hb hq
    · obtain ⟨hfits, htable⟩ := hq.apply c
      obtain ⟨q', hdraft, htable', hfits', hrendered, hdialect⟩ :=
        ih (b := (b.apply c).state) (q := (q.apply c).state) (by rw [happly]; rfl) hfits
      refine ⟨q', hdraft, htable'.trans htable, ?_, by rw [hrendered, happly]; rfl,
        by rw [hdialect, happly]; rfl⟩
      have haccepted : (b.accepted (c :: calls)).flatMap Call.rows =
          (if (q.apply c).fault.isNone then c.rows else []) ++
            ((b.apply c).state.accepted calls).flatMap Call.rows := by
        have hfault : (b.apply c).fault = (q.apply c).fault := by rw [happly]; rfl
        rw [Builder.accepted, hfault]
        split <;> rfl
      rw [haccepted, ← List.append_assoc]
      exact hfits'

theorem length_of_mapM {vs : List Value} {names : List Identifier}
    (h : vs.mapM identifierOf = .ok names) : names.length = vs.length := by
  induction vs generalizing names with
  | nil =>
    cases h
    rfl
  | cons v vs ih =>
    rw [List.mapM_cons] at h
    rcases hv : identifierOf v with f | name <;> rw [hv] at h
    · cases h
    · rcases hvs : vs.mapM identifierOf with f | rest <;> rw [hvs] at h
      · cases h
      · cases h
        rw [List.length_cons, List.length_cons, ih hvs]

/-- A rendered `INSERT` lists its columns and its rows. -/
theorem InsertDraft.render_cases {d : Dialect} {q : InsertDraft} {sql : String}
    (h : q.render d = .ok sql) :
    ∃ names, q.columns.mapM identifierOf = .ok names ∧ names.length = q.columns.length ∧
      sql = write d (insertLayout ⟨q.table, names, q.rows⟩) := by
  rw [InsertDraft.render] at h
  split at h
  · cases h
  · obtain ⟨names, hnames, rfl⟩ := except_map_eq_ok h
    exact ⟨names, hnames, length_of_mapM hnames, rfl⟩

/-- **The shape of an `INSERT`.**  After any calls, taken or not, the stored rows are those of the
    accepted calls, one for one.  Each of them fits: it has a marker for each column, and this
    refers to the value that the row supplies for the column.  The only rows that may not are those
    without values that were stored when there were no columns yet.  What is built lists the columns
    and the rows as they are stored. -/
theorem stored_rows_fit_columns (d : Dialect) (table : Identifier) (columns : List Identifier)
    (calls : List Call) :
    let first := Builder.start d (Opening.insert table columns).draft
    let rows := (first.accepted calls).flatMap Call.rows
    ∃ q, (first.after calls).draft = .insert q ∧ List.Forall₂ q.Fits q.rows rows ∧
      (∀ markers ∈ q.rows, markers.length = q.columns.length ∨ markers = []) ∧
      ((∀ row ∈ rows, ¬ IsBlank row) → ∀ markers ∈ q.rows, markers.length = q.columns.length) ∧
      ∀ r, (first.after calls).build.1 = .ok r → ∃ names, q.columns.mapM identifierOf = .ok names ∧
        names.length = q.columns.length ∧ r.parameters = q.bindings.entries ∧
        r.sql = write d (insertLayout ⟨table, names, q.rows⟩) := by
  intro first rows
  have hnone : InsertDraft.FitsAll ⟨table, columns.map valueOfIdentifier, [], .empty⟩ [] := .nil
  obtain ⟨q, hdraft, htable, hfits, hrendered, hdialect⟩ :=
    Builder.fits_after (b := first) rfl hnone calls
  rw [List.nil_append] at hfits
  have hlengths : List.Forall₂ (fun markers row =>
      markers.length = q.columns.length ∨ markers = [] ∧ IsBlank row) q.rows rows :=
    hfits.imp fun _ _ h => h.length_eq
  refine ⟨q, hdraft, hfits, ?_, fun hblank => ?_, fun r hr => ?_⟩
  · exact forall_left_of_forall₂ hlengths fun _ _ _ h => h.imp_right And.left
  · exact forall_left_of_forall₂ hlengths fun _ row hrow h =>
      h.resolve_right fun ⟨_, hb⟩ => hblank row hrow hb
  · obtain ⟨sql, hsql, rfl⟩ := Builder.build_cases hrendered hr
    rw [hdraft, hdialect] at hsql
    obtain ⟨names, hnames, hlength, hwrite⟩ := InsertDraft.render_cases hsql
    exact ⟨names, hnames, hlength, by rw [hdraft]; rfl, by rw [hwrite, htable]; rfl⟩

/-- A row without values, and then a mapping that provides a column: the statement has one name and
    a row of no values. -/
theorem blank_row_does_not_fit_columns :
    let b := (Builder.start .ansi (Opening.insert (.name "t") []).draft).after
      [.values [.collection .list []], .values [.mapping [(.text "a", .int 1)]]]
    ∃ q, b.draft = .insert q ∧ q.columns = [.text "a"] ∧ q.rows.map List.length = [0, 1] :=
  ⟨_, rfl, rfl, rfl⟩

end TaggedSql.Query
