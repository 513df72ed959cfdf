/-
  What an `INSERT` keeps of rows that it refuses.

  1. **Where rows stop** (`takeRows_stopped`) — rows are taken one after the other, and the first
     that is refused stops them.  Its fault is a complaint, unless the row is a mapping whose keys
     are not the columns and cannot be reported (`row_refused`): they have no order, or one of
     them or of the columns is too long to be written.

  2. **One call** (`refused_rows_leave`) — a complaint undoes the rows in front, and so the
     builder is as before.  Keys that cannot be reported are no complaint: then the columns and
     the values of the rows in front stay, although no row is stored.

  3. **Runs** (`after_accepted_rows`) — where the keys of each mapping can be reported, as texts
     can, the calls that were refused might as well not have been made.
-/
import TaggedSql.Proofs.Query.Refusals
import TaggedSql.Proofs.Query.Rendering
import TaggedSql.Proofs.Query.Shape
import TaggedSql.Proofs.Value.Sorting

namespace TaggedSql.Query

open TaggedSql.Sql

/-! ## Where rows stop -/

/-- **Stopping at a row.**  The rows in front of it are taken, all of them. -/
theorem takeRows_stopped {q q' : InsertDraft} {rows : List Value} {f : Fault}
    (h : q.takeRows rows = (q', .error f)) :
    ∃ front row back markers, rows = front ++ row :: back ∧
      q.takeRows front = (q', .ok markers) ∧ q'.row row = .error f := by
  induction rows generalizing q with
  | nil => cases h
  | cons row rows ih =>
    rw [InsertDraft.takeRows] at h
    split at h
    · next f' hrow =>
      cases h
      exact ⟨[], row, rows, [], rfl, rfl, hrow⟩
    · next first q₁ hrow =>
      rcases hrest : q₁.takeRows rows with ⟨q₂, f' | markers⟩ <;> rw [hrest] at h <;> cases h
      obtain ⟨front, last, back, markers, rfl, hfront, hlast⟩ := ih hrest
      refine ⟨row :: front, last, back, first :: markers, rfl, ?_, hlast⟩
      rw [InsertDraft.takeRows, hrow]
      dsimp only
      rw [hfront]
      rfl

/-- `Unreported keys columns f`: it is not possible to report that the keys are not the columns, and
    the fault is `f` instead. -/
inductive Unreported (keys columns : List Value) : Fault → Prop
  /-- The keys have no order to be reported in. -/
  | unordered {cause : Value.Incomparable} (h : Value.sort keys = .error cause) :
      Unreported keys columns (.incomparable cause)
  /-- The keys or the columns cannot be written. -/
  | unwritable {sorted : List Value} (h : Value.sort keys = .ok sorted)
      (hnone : (Value.collection .list sorted).display? = none ∨
        (Value.collection .list columns).display? = none) :
      Unreported keys columns .unwritable

theorem Unreported.not_isComplaint {keys columns : List Value} {f : Fault}
    (h : Unreported keys columns f) : ¬ f.isComplaint := by
  cases h <;> rintro ⟨⟩

/-- The keys of the mapping are not the columns, and that cannot be reported. -/
structure InsertDraft.CannotReport (q : InsertDraft) (entries : List (Value × Value))
    (f : Fault) : Prop where
  columns : q.columns ≠ []
  keys : sameMembers (entries.map Prod.fst) q.columns = false
  report : Unreported (entries.map Prod.fst) q.columns f

/-- Sorted keys and the columns are reported, or one of the two lists cannot be written. -/
theorem keyFault_cases (keys columns : List Value) :
    (keyFault keys columns).isComplaint ∨ keyFault keys columns = .unwritable ∧
      ((Value.collection .list keys).display? = none ∨
        (Value.collection .list columns).display? = none) := by
  rw [keyFault]
  cases hkeys : (Value.collection .list keys).display? with
  | none => exact .inr ⟨Fault.showing_of_none hkeys _, .inl rfl⟩
  | some shown =>
    rw [Fault.showing_of_some hkeys]
    cases hcolumns : (Value.collection .list columns).display? with
    | none => exact .inr ⟨Fault.showing_of_none hcolumns _, .inr rfl⟩
    | some shown' =>
      rw [Fault.showing_of_some hcolumns]
      exact .inl rfl

theorem keyFault_of_none {keys columns : List Value}
    (h : (Value.collection .list keys).display? = none ∨
      (Value.collection .list columns).display? = none) : keyFault keys columns = .unwritable := by
  rw [keyFault]
  cases hkeys : (Value.collection .list keys).display? with
  | none => exact Fault.showing_of_none hkeys _
  | some shown =>
    rw [Fault.showing_of_some hkeys]
    exact Fault.showing_of_none (h.resolve_left (by simp [hkeys])) _

/-- **A row that is refused** is complained about, unless its keys cannot be reported. -/
theorem row_refused {q : InsertDraft} {row : Value} {f : Fault} (h : q.row row = .error f) :
    f.isComplaint ∨ ∃ entries, row = .mapping entries ∧ q.CannotReport entries f := by
  unfold InsertDraft.row at h
  split at h
  · next entries =>
    simp only [InsertDraft.mappingRow] at h
    split_ifs at h with hempty hsame
    have hreport : Unreported (entries.map Prod.fst) q.columns f → q.CannotReport entries f :=
      fun hunreported => ⟨by simpa using hempty, by simpa using hsame, hunreported⟩
    split at h
    · next sorted hsort =>
      cases h
      rcases keyFault_cases sorted q.columns with hcomplaint | ⟨hfault, hnone⟩
      · exact .inl hcomplaint
      · rw [hfault] at hreport ⊢
        exact .inr ⟨entries, rfl, hreport (.unwritable hsort hnone)⟩
    · next cause hsort =>
      cases h
      exact .inr ⟨entries, rfl, hreport (.unordered hsort)⟩
  · split at h
    · cases h
      exact .inl rfl
    · split_ifs at h
      cases h
      exact .inl rfl

/-- Keys that cannot be reported are refused, and that is no complaint. -/
theorem row_of_cannotReport {q : InsertDraft} {entries : List (Value × Value)} {f : Fault}
    (h : q.CannotReport entries f) : q.row (.mapping entries) = .error f := by
  rw [InsertDraft.row, InsertDraft.mappingRow, if_neg (by simpa using h.columns),
    if_neg (by simp [h.keys])]
  cases h.report with
  | unordered hsort => rw [hsort]
  | unwritable hsort hnone =>
    rw [hsort]
    exact congrArg Except.error (keyFault_of_none hnone)

/-- Rows that are taken do not keep a row behind them from stopping the rest. -/
theorem takeRows_of_refused {q q' : InsertDraft} {front back : List Value} {row : Value}
    {markers : List (List Marker)} {f : Fault} (hfront : q.takeRows front = (q', .ok markers))
    (hrow : q'.row row = .error f) : q.takeRows (front ++ row :: back) = (q', .error f) := by
  induction front generalizing q markers with
  | nil =>
    cases hfront
    rw [List.nil_append, InsertDraft.takeRows, hrow]
  | cons first front ih =>
    rw [InsertDraft.takeRows] at hfront
    split at hfront
    · cases hfront
    · next m q₁ hfirst =>
      rcases hrest : q₁.takeRows front with ⟨q₂, f' | ms⟩ <;> rw [hrest] at hfront <;> cases hfront
      rw [List.cons_append, InsertDraft.takeRows, hfirst]
      dsimp only
      rw [ih hrest]
      rfl

/-! ## Keys that can be reported -/

/-- Whether each of the values can be written. -/
def AllWritten (vs : List Value) : Prop := ∀ v ∈ vs, v.display?.isSome

/-- Whether keys can be reported: they have an order, and each can be written. -/
structure CanReport (keys : List Value) : Prop where
  order : Value.AllCompare keys
  written : AllWritten keys

/-- A list of values that can be written can be written. -/
theorem AllWritten.exists_display {vs : List Value} (h : AllWritten vs) :
    ∃ shown, (Value.collection .list vs).display? = some shown := by
  have hall : ∃ xs, Value.displayAll? vs = some xs := by
    induction vs with
    | nil => exact ⟨[], rfl⟩
    | cons v vs ih =>
      obtain ⟨x, hx⟩ := Option.isSome_iff_exists.mp (h v List.mem_cons_self)
      obtain ⟨xs, hxs⟩ := ih fun w hw => h w (List.mem_cons_of_mem v hw)
      exact ⟨x :: xs, by rw [Value.displayAll?, hx, hxs]⟩
  obtain ⟨xs, hxs⟩ := hall
  exact ⟨_, by rw [Value.display?, hxs]; rfl⟩

theorem exists_text_of_isText {v : Value} (h : isText v) : ∃ s, v = .text s := by
  cases v with
  | text s => exact ⟨s, rfl⟩
  | _ => cases h

/-- Texts can be reported. -/
theorem canReport_of_isText {vs : List Value} (h : ∀ v ∈ vs, isText v) : CanReport vs where
  order v hv w hw := by
    obtain ⟨s, rfl⟩ := exists_text_of_isText (h v hv)
    obtain ⟨t, rfl⟩ := exists_text_of_isText (h w hw)
    exact Value.compares_text s t
  written v hv := by
    obtain ⟨s, rfl⟩ := exists_text_of_isText (h v hv)
    rfl

theorem not_unreported {keys columns : List Value} (hkeys : CanReport keys)
    (hcolumns : AllWritten columns) (f : Fault) : ¬ Unreported keys columns f := by
  obtain ⟨sorted, hsorted, hmem⟩ := Value.exists_sort hkeys.order
  intro h
  cases h with
  | unordered hsort => cases hsorted.symm.trans hsort
  | unwritable hsort hnone =>
    obtain rfl := Except.ok.inj (hsorted.symm.trans hsort)
    have hwritten : AllWritten sorted := fun v hv => hkeys.written v ((hmem v).mp hv)
    obtain ⟨shown, hshown⟩ := hwritten.exists_display
    obtain ⟨shown', hshown'⟩ := hcolumns.exists_display
    rcases hnone with hnone | hnone
    · cases hshown.symm.trans hnone
    · cases hshown'.symm.trans hnone

/-- The columns after rows whose keys can be reported can be written if those before can. -/
theorem allWritten_takeRows {q : InsertDraft} {rows : List Value} (hcolumns : AllWritten q.columns)
    (hkeys : ∀ row ∈ rows, CanReport (rowKeys row)) : AllWritten (q.takeRows rows).1.columns := by
  intro v hv
  rcases InsertDraft.mem_columns_takeRows hv with hold | hkey
  · exact hcolumns v hold
  · obtain ⟨row, hrow, hmem⟩ := List.mem_flatMap.mp hkey
    exact (hkeys row hrow).written v hmem

/-! ## One call -/

/-- `Leaves q rows f q'`: the draft `q`, refusing the rows for the fault `f`, is left as `q'`. -/
inductive InsertDraft.Leaves (q : InsertDraft) : List Value → Fault → InsertDraft → Prop
  /-- A complaint leaves nothing. -/
  | nothing (rows : List Value) {f : Fault} (hf : f.isComplaint) : Leaves q rows f q
  /-- Keys that cannot be reported leave what the rows in front of them have brought along. -/
  | front {front back : List Value} {entries : List (Value × Value)} {f : Fault}
      {q' : InsertDraft} {markers : List (List Marker)}
      (hfront : q.takeRows front = (q', .ok markers)) (hkeys : q'.CannotReport entries f) :
      Leaves q (front ++ .mapping entries :: back) f q'

namespace InsertDraft.Leaves

variable {q q' : InsertDraft} {rows : List Value} {f : Fault}

/-- Whatever is left, the table and the stored rows are as before. -/
theorem table_rows (h : q.Leaves rows f q') : q'.table = q.table ∧ q'.rows = q.rows := by
  cases h with
  | nothing => exact ⟨rfl, rfl⟩
  | front hfront =>
    obtain ⟨stored, -, hinserts, -⟩ := takeRows_cases hfront
    exact ⟨hinserts.table, hinserts.rows⟩

/-- A complaint leaves nothing. -/
theorem eq_of_isComplaint (h : q.Leaves rows f q') (hf : f.isComplaint) : q' = q := by
  cases h with
  | nothing => rfl
  | front hfront hreport => exact absurd hf hreport.report.not_isComplaint

/-- Where the keys of each row can be reported, and the columns written, nothing is left. -/
theorem eq_of_canReport (h : q.Leaves rows f q') (hcolumns : AllWritten q.columns)
    (hkeys : ∀ row ∈ rows, CanReport (rowKeys row)) : q' = q := by
  cases h with
  | nothing => rfl
  | @front front back entries _ _ markers hfront hreport =>
    have hwritten : AllWritten q'.columns := by
      have hall : AllWritten (q.takeRows front).1.columns :=
        allWritten_takeRows hcolumns fun row hrow => hkeys row (List.mem_append_left _ hrow)
      rwa [hfront] at hall
    have hreportable : CanReport (entries.map Prod.fst) := hkeys (.mapping entries) (by simp)
    exact absurd hreport.report (not_unreported hreportable hwritten f)

end InsertDraft.Leaves

theorem InsertDraft.values_refused {q : InsertDraft} {rows : List Value} {f : Fault}
    (h : (q.values rows).fault = some f) : q.Leaves rows f (q.values rows).state := by
  rw [InsertDraft.values] at h ⊢
  split at h
  · cases h
  · next q' f' htake =>
    cases h
    show q.Leaves rows f (if f.isComplaint then q else q')
    by_cases hf : f.isComplaint
    · rw [if_pos hf]
      exact .nothing rows hf
    · rw [if_neg hf]
      obtain ⟨front, row, back, markers, rfl, hfront, hrow⟩ := takeRows_stopped htake
      obtain ⟨entries, rfl, hreport⟩ := (row_refused hrow).resolve_left hf
      exact .front hfront hreport

/-- Rows are handed on to the draft, unless the query was rendered. -/
theorem Builder.apply_values {b : Builder} {q : InsertDraft} (hb : b.draft = .insert q)
    (rows : List Value) :
    b.apply (.values rows) =
      if b.rendered.isSome then .stopped b (.frozen .insert)
      else (q.values rows).map fun q => { b with draft := .insert q } := by
  have hguarded : Builder.isUnguarded (.values rows) = false := rfl
  rw [Builder.apply, hb, hguarded, Bool.not_false, Bool.and_true]
  rfl

theorem Builder.values_refused {b : Builder} {q : InsertDraft} (hb : b.draft = .insert q)
    {rows : List Value} {f : Fault} (h : (b.apply (.values rows)).fault = some f) :
    ∃ q', (b.apply (.values rows)).state = { b with draft := .insert q' } ∧ q.Leaves rows f q' := by
  rw [Builder.apply_values hb] at h ⊢
  split_ifs at h ⊢
  · cases h
    exact ⟨q, by rw [← hb]; rfl, .nothing rows rfl⟩
  · exact ⟨_, rfl, InsertDraft.values_refused h⟩

/-- Rows that leave nothing behind when they are refused leave the builder as it was. -/
theorem Builder.state_of_values_refused {b : Builder} {q : InsertDraft} (hb : b.draft = .insert q)
    {rows : List Value} {f : Fault} (h : (b.apply (.values rows)).fault = some f)
    (hf : f.isComplaint ∨ AllWritten q.columns ∧ ∀ row ∈ rows, CanReport (rowKeys row)) :
    (b.apply (.values rows)).state = b := by
  obtain ⟨q', hstate, hleaves⟩ := Builder.values_refused hb h
  obtain rfl : q' = q := hf.elim hleaves.eq_of_isComplaint fun ⟨hcolumns, hkeys⟩ =>
    hleaves.eq_of_canReport hcolumns hkeys
  rw [hstate, ← hb]

/-- Keys that cannot be reported leave what the rows in front of them have brought along. -/
theorem Builder.apply_values_of_cannotReport {b : Builder} {q q' : InsertDraft}
    {front : List Value} (back : List Value) {markers : List (List Marker)}
    {entries : List (Value × Value)} {f : Fault} (hb : b.draft = .insert q)
    (hopen : b.rendered = none) (hfront : q.takeRows front = (q', .ok markers))
    (hkeys : q'.CannotReport entries f) :
    b.apply (.values (front ++ .mapping entries :: back)) =
      .stopped { b with draft := .insert q' } f := by
  rw [Builder.apply_values hb, hopen, if_neg (by simp), InsertDraft.values,
    takeRows_of_refused hfront (row_of_cannotReport hkeys)]
  simp only [if_neg hkeys.report.not_isComplaint]
  rfl

/-- **Rows that are refused** leave the builder of an `INSERT` as it was, unless the keys of one of
    them are not the columns and that cannot be reported: the keys have no order, or a key or a
    column is too long to be written.  This leaves the columns and the values that the rows in front
    of it have brought along.  No row is stored in any case.  So a complaint, or any fault of rows
    whose keys can be reported, is as if the call had not been made: whatever the builder is asked
    for afterwards, it becomes the same. -/
theorem refused_rows_leave {b : Builder} {q : InsertDraft} (hb : b.draft = .insert q)
    {rows : List Value} {f : Fault} (h : (b.apply (.values rows)).fault = some f) :
    (∃ q', (b.apply (.values rows)).state = { b with draft := .insert q' } ∧ q.Leaves rows f q' ∧
      q'.table = q.table ∧ q'.rows = q.rows) ∧
    ((f.isComplaint ∨ AllWritten q.columns ∧ ∀ row ∈ rows, CanReport (rowKeys row)) →
      (b.apply (.values rows)).state = b ∧ ∀ attached more,
        (b.apply (.values rows)).state.asked attached more = b.asked attached more) := by
  refine ⟨?_, fun hf => ?_⟩
  · obtain ⟨q', hstate, hleaves⟩ := Builder.values_refused hb h
    exact ⟨q', hstate, hleaves, hleaves.table_rows⟩
  · have hsame := Builder.state_of_values_refused hb h hf
    refine ⟨hsame, fun attached more => ?_⟩
    rw [hsame]

/-- A mapping that provides a column, and a number that is no row. -/
theorem refused_rows_leave_nothing :
    let b := Builder.start .ansi (Opening.insert (.name "t") []).draft
    let rows : List Value := [.mapping [(.text "a", .int 1)], .int 3]
    (b.apply (.values rows)).fault = some (.rowKind (.int 3)) ∧ (b.apply (.values rows)).state = b := by
  intro b rows
  have hfault : (b.apply (.values rows)).fault = some (.rowKind (.int 3)) := rfl
  exact ⟨hfault, ((refused_rows_leave rfl hfault).2 (.inl rfl)).1⟩

/-- The keys of the second mapping are a number and a text, which have no order: the column and the
    value of the first mapping stay. -/
theorem unreported_keys_leave_column :
    let b := Builder.start .ansi (Opening.insert (.name "t") []).draft
    let rows := [.mapping [(.text "a", .int 1)],
      .mapping [(.int 1, .int 2), (.text "b", .int 3)]]
    (b.apply (.values rows)).fault = some (.incomparable .kinds) ∧
      b.draft = .insert ⟨.name "t", [], [], ⟨[], 0⟩⟩ ∧
      (b.apply (.values rows)).state.draft =
        .insert ⟨.name "t", [.text "a"], [], ⟨[("param_0", .int 1)], 1⟩⟩ := by
  intro b rows
  have hkeys : InsertDraft.CannotReport ⟨.name "t", [.text "a"], [], ⟨[("param_0", .int 1)], 1⟩⟩
      [(.int 1, .int 2), (.text "b", .int 3)] (.incomparable .kinds) :=
    ⟨by simp, by simp [sameMembers, Value.same, Value.sameNumber, Value.magnitude?],
      .unordered (by simp [Value.sort, Value.firstRun, Value.lt, Value.ltNumber, Value.magnitude?])⟩
  have hfront : InsertDraft.takeRows ⟨.name "t", [], [], ⟨[], 0⟩⟩
      [.mapping [(.text "a", .int 1)]] =
        (⟨.name "t", [.text "a"], [], ⟨[("param_0", .int 1)], 1⟩⟩,
          .ok [[.tagged .int "param_0"]]) := rfl
  have happly : b.apply (.values rows) = _ :=
    Builder.apply_values_of_cannotReport [] rfl rfl hfront hkeys
  exact ⟨congrArg Attempt.fault happly, rfl, congrArg (fun a => a.state.draft) happly⟩

/-! ## Runs -/

/-- A draft is left as it was by a call that it refuses, where the keys of each row can be
    reported. -/
theorem InsertDraft.state_of_refused {q : InsertDraft} {c : Call} {f : Fault}
    (h : (q.apply c).fault = some f) (hcolumns : AllWritten q.columns)
    (hkeys : ∀ row ∈ c.rows, CanReport (rowKeys row)) : (q.apply c).state = q := by
  cases c with
  | columns names =>
    rw [InsertDraft.apply] at h ⊢
    split_ifs at h ⊢
    · cases h
    · rfl
  | values rows => exact (InsertDraft.values_refused h).eq_of_canReport hcolumns hkeys
  | _ => rfl

/-- An identifier can be written. -/
theorem display_of_isIdentifier {v : Value} (h : isIdentifier v) : v.display?.isSome := by
  cases v with
  | text s => rfl
  | raw sql => rfl
  | _ => cases h

theorem keys_eq_flatMap_rows (c : Call) : c.keys = c.rows.flatMap rowKeys := by
  cases c <;> rfl

/-- A call whose keys can be reported keeps the columns such that they can be written. -/
theorem InsertDraft.allWritten_apply {q : InsertDraft} {c : Call} (hcolumns : AllWritten q.columns)
    (hkeys : ∀ row ∈ c.rows, CanReport (rowKeys row)) : AllWritten (q.apply c).state.columns := by
  intro v hv
  rcases InsertDraft.mem_columns_apply hv with hold | hkey | hidentifier
  · exact hcolumns v hold
  · rw [keys_eq_flatMap_rows] at hkey
    obtain ⟨row, hrow, hmem⟩ := List.mem_flatMap.mp hkey
    exact (hkeys row hrow).written v hmem
  · exact display_of_isIdentifier hidentifier

/-- **Refused calls might as well not have been made**, where the keys of each row can be
    reported. -/
theorem after_accepted_rows {b : Builder} {q : InsertDraft} (hb : b.draft = .insert q)
    (hcolumns : AllWritten q.columns) {calls : List Call}
    (hkeys : ∀ c ∈ calls, ∀ row ∈ c.rows, CanReport (rowKeys row)) :
    b.after (b.accepted calls) = b.after calls := by
  refine Builder.after_accepted_of
    (I := fun b => ∃ q, b.draft = .insert q ∧ AllWritten q.columns) ⟨q, hb, hcolumns⟩ ?_
  rintro b ⟨q, hb, hcolumns⟩ c hc
  rcases Builder.apply_insert hb c with ⟨f', hstopped⟩ | happly
  · rw [hstopped]
    exact ⟨⟨q, hb, hcolumns⟩, fun _ _ => rfl⟩
  · rw [happly]
    refine ⟨⟨_, rfl, InsertDraft.allWritten_apply hcolumns (hkeys c hc)⟩, fun f hf => ?_⟩
    show { b with draft := .insert (q.apply c).state } = b
    rw [InsertDraft.state_of_refused hf hcolumns (hkeys c hc), ← hb]

/-- Rows whose keys are texts are such. -/
theorem after_accepted_text_rows {b : Builder} {q : InsertDraft} (hb : b.draft = .insert q)
    (hcolumns : AllWritten q.columns) {calls : List Call}
    (htext : ∀ c ∈ calls, ∀ row ∈ c.rows, ∀ key ∈ rowKeys row, isText key) :
    b.after (b.accepted calls) = b.after calls :=
  after_accepted_rows hb hcolumns fun c hc row hrow => canReport_of_isText (htext c hc row hrow)

end TaggedSql.Query
