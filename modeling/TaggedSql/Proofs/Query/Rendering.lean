/-
  Rendering fails on unfinished queries only.

  1. **Layouts exist** (`exists_conditionsLayout`) — a supported condition has a marker wherever its
     operator wants one, so supported conditions can be laid out.

  2. **Columns stay identifiers** (`Draft.HasIdentifiers`) — the columns of an `INSERT` come from
     identifiers, or from the keys of a mapping; where all keys are identifiers, so are the columns,
     whatever became of the calls that brought them along.

  3. **Unfinished queries** (`Draft.render_cases`) — an `INSERT` without rows and an `UPDATE`
     without assignments cannot be rendered, and the complaint says so; every other query can.

  4. **Runs** (`rendering_fails_on_unfinished_only`) — this holds of every query that a builder
     reaches, whatever it was asked for on the way.
-/
import TaggedSql.Proofs.Query.Freezing

namespace TaggedSql.Query

open TaggedSql.Sql

/-! ## Layouts exist -/

/-- A supported test can be laid out: an operator that compares has a marker to compare with. -/
theorem exists_testLayout {t : Test} (h : t.IsSupported) : ∃ fs, testLayout? t = some fs := by
  cases t with
  | raw sql => exact ⟨_, rfl⟩
  | column column operator markers =>
    obtain ⟨-, -, hcount⟩ := h
    rw [testLayout?]
    split
    · exact ⟨_, rfl⟩
    · next hnull =>
      rw [if_neg hnull] at hcount
      split
      · split <;> exact ⟨_, rfl⟩
      · next hlist =>
        -- a comparison, which has its one marker
        obtain ⟨m, rfl⟩ : ∃ m, markers = [m] := by
          rcases hcount with hin | hnotIn | hone
          · exact absurd (Or.inl hin) hlist
          · exact absurd (Or.inr hnotIn) hlist
          · exact hone
        exact ⟨_, rfl⟩

theorem exists_furtherConditionsLayout {cs : List Condition} (h : ∀ c ∈ cs, c.IsSupported) :
    ∃ fs, furtherConditionsLayout? cs = some fs := by
  induction cs with
  | nil => exact ⟨[], rfl⟩
  | cons c cs ih =>
    obtain ⟨first, hfirst⟩ := exists_testLayout (h c List.mem_cons_self).2
    obtain ⟨rest, hrest⟩ := ih fun c' hc' => h c' (List.mem_cons_of_mem c hc')
    rw [furtherConditionsLayout?, hfirst, hrest]
    exact ⟨_, rfl⟩

/-- **Supported conditions** can be laid out. -/
theorem exists_conditionsLayout {cs : List Condition} (h : ∀ c ∈ cs, c.IsSupported) :
    ∃ fs, conditionsLayout? cs = some fs := by
  cases cs with
  | nil => exact ⟨[], rfl⟩
  | cons c cs =>
    obtain ⟨first, hfirst⟩ := exists_testLayout (h c List.mem_cons_self).2
    obtain ⟨rest, hrest⟩ := exists_furtherConditionsLayout fun c' hc' =>
      h c' (List.mem_cons_of_mem c hc')
    rw [conditionsLayout?, hfirst, hrest]
    exact ⟨_, rfl⟩

/-! ## Columns stay identifiers -/

/-- Whether a value can be written as an identifier. -/
def isIdentifier : Value → Bool
  | .text _ | .raw _ => true
  | _ => false

theorem exists_identifiers {vs : List Value} (h : ∀ v ∈ vs, isIdentifier v) :
    ∃ is, vs.mapM identifierOf = .ok is := by
  induction vs with
  | nil => exact ⟨[], rfl⟩
  | cons v vs ih =>
    obtain ⟨is, his⟩ := ih fun w hw => h w (List.mem_cons_of_mem v hw)
    obtain ⟨i, hi⟩ : ∃ i, identifierOf v = .ok i := by
      have hv := h v List.mem_cons_self
      cases v with
      | text s => exact ⟨.name s, rfl⟩
      | raw sql => exact ⟨.raw sql, rfl⟩
      | _ => cases hv
    rw [List.mapM_cons, hi, his]
    exact ⟨i :: is, rfl⟩

theorem isIdentifier_valueOfIdentifier (i : Identifier) : isIdentifier (valueOfIdentifier i) := by
  cases i <;> rfl

/-- The columns after rows, taken or not, were there before or are keys of the rows. -/
theorem InsertDraft.mem_columns_takeRows {q : InsertDraft} {rows : List Value} {v : Value}
    (h : v ∈ (q.takeRows rows).1.columns) : v ∈ q.columns ∨ v ∈ rows.flatMap rowKeys := by
  induction rows generalizing q with
  | nil => exact .inl h
  | cons row rows ih =>
    rw [InsertDraft.takeRows] at h
    split at h
    · exact .inl h
    · next markers q' hrow =>
      rw [List.flatMap_cons, List.mem_append]
      rcases ih h with hv | hv
      · obtain ⟨-, -, -, hcolumns⟩ := row_cases hrow
        rw [show q'.columns = columnsAfter q.columns row from hcolumns, columnsAfter] at hv
        split at hv
        · exact .inr (.inl hv)
        · exact .inl hv
      · exact .inr (.inr hv)

/-- Whether the columns of a query are identifiers; only those of an `INSERT` can be others. -/
def Draft.HasIdentifiers : Draft → Prop
  | .insert q => ∀ v ∈ q.columns, isIdentifier v
  | .select _ | .update _ => True

theorem Opening.hasIdentifiers_draft (o : Opening) : o.draft.HasIdentifiers := by
  cases o with
  | select | update => trivial
  | insert table columns =>
    intro v hv
    obtain ⟨i, -, rfl⟩ := List.mem_map.mp hv
    exact isIdentifier_valueOfIdentifier i

/-- **The columns after a call**, taken or not, were there before, are keys of its rows, or
    identifiers. -/
theorem InsertDraft.mem_columns_apply {q : InsertDraft} {c : Call} {v : Value}
    (h : v ∈ (q.apply c).state.columns) : v ∈ q.columns ∨ v ∈ c.keys ∨ isIdentifier v := by
  cases c with
  | columns names =>
    rw [InsertDraft.apply] at h
    split at h
    · obtain ⟨i, -, rfl⟩ := List.mem_map.mp h
      exact .inr (.inr (isIdentifier_valueOfIdentifier i))
    · exact .inl h
  | values rows =>
    have htaken : v ∈ (q.takeRows rows).1.columns → v ∈ q.columns ∨ v ∈ rows.flatMap rowKeys :=
      InsertDraft.mem_columns_takeRows
    rw [InsertDraft.apply, InsertDraft.values] at h
    split at h
    · next q' markers htake =>
      rw [htake] at htaken
      exact (htaken h).imp_right .inl
    · next q' f htake =>
      rw [htake] at htaken
      by_cases hf : f.isComplaint
      · rw [if_pos hf] at h
        exact .inl h
      · rw [if_neg hf] at h
        exact (htaken h).imp_right .inl
  | _ => exact .inl h

/-- **A call** whose keys are identifiers keeps the columns identifiers, taken or not. -/
theorem Draft.HasIdentifiers.apply {q : Draft} (hq : q.HasIdentifiers) {c : Call}
    (hc : ∀ v ∈ c.keys, isIdentifier v) : (q.apply c).state.HasIdentifiers := by
  cases q with
  | select | update => trivial
  | insert q =>
    intro v hv
    rcases InsertDraft.mem_columns_apply hv with hold | hkey | hidentifier
    · exact hq v hold
    · exact hc v hkey
    · exact hidentifier

/-! ## Unfinished queries -/

/-- What keeps a query from being rendered: an `INSERT` needs rows, and an `UPDATE` assignments. -/
def Draft.lacks? : Draft → Option Fault
  | .select _ => none
  | .insert q => if q.rows.isEmpty then some (.noRows q.table) else none
  | .update q =>
    if q.clauses.assignments.isEmpty then some (.noAssignments q.clauses.table) else none

/-- What a query lacks is a complaint. -/
theorem Draft.isComplaint_of_lacks {q : Draft} {f : Fault} (h : q.lacks? = some f) :
    f.isComplaint := by
  cases q with
  | select q => cases h
  | insert q =>
    rw [Draft.lacks?] at h
    split at h <;> cases h
    rfl
  | update q =>
    rw [Draft.lacks?] at h
    split at h <;> cases h
    rfl

/-- **Rendering** a supported query whose columns are identifiers fails if something is lacking, and
    succeeds otherwise. -/
theorem Draft.render_cases {q : Draft} (hq : q.IsSupported) (hi : q.HasIdentifiers) (d : Dialect) :
    (∃ f, q.lacks? = some f ∧ q.render d = .error f) ∨
      (q.lacks? = none ∧ ∃ sql, q.render d = .ok sql) := by
  cases q with
  | select q =>
    obtain ⟨fs, hfs⟩ := exists_conditionsLayout hq.conditions
    refine .inr ⟨rfl, ?_⟩
    rw [Draft.render, SelectDraft.render, selectLayout?, hfs]
    exact ⟨_, rfl⟩
  | insert q =>
    obtain ⟨names, hnames⟩ := exists_identifiers hi
    rw [Draft.render, Draft.lacks?, InsertDraft.render, hnames]
    split
    · exact .inl ⟨_, rfl, rfl⟩
    · exact .inr ⟨rfl, _, rfl⟩
  | update q =>
    obtain ⟨fs, hfs⟩ := exists_conditionsLayout hq.conditions
    rw [Draft.render, Draft.lacks?, UpdateDraft.render, updateLayout?, hfs]
    split
    · exact .inl ⟨_, rfl, rfl⟩
    · exact .inr ⟨rfl, _, rfl⟩

/-! ## Runs -/

/-- The keys that a request brings along. -/
def Request.keys : Request → List Value
  | .call c => c.keys
  | .build | .text | .execute => []

/-- What rendering relies on. -/
structure Builder.IsReady (d : Dialect) (b : Builder) : Prop where
  supported : b.draft.IsSupported
  identifiers : b.draft.HasIdentifiers
  dialect : b.dialect = d

/-- **What one request preserves**, whatever comes of it. -/
theorem Builder.IsReady.become {d : Dialect} {b : Builder} (hb : b.IsReady d) (attached : Bool)
    {q : Request} (hq : ∀ v ∈ q.keys, isIdentifier v) : (b.become attached q).IsReady d := by
  by_cases hrendering : q.isRendering
  · -- rendering leaves the query alone
    rw [Builder.become_of_isRendering attached b hrendering]
    cases b.renders? attached q with
    | none => exact hb
    | some r => exact ⟨hb.supported, hb.identifiers, hb.dialect⟩
  · cases q with
    | call c =>
      rw [Builder.become_call]
      rcases b.apply_state c with hsame | hdraft
      · rwa [hsame]
      · rw [hdraft]
        exact ⟨Draft.isSupported_apply hb.supported c, hb.identifiers.apply hq, hb.dialect⟩
    | _ => exact absurd rfl hrendering

/-- **What a whole run preserves.** -/
theorem Builder.IsReady.asked {d : Dialect} {b : Builder} (hb : b.IsReady d) (attached : Bool)
    {qs : List Request} (hqs : ∀ q ∈ qs, ∀ v ∈ q.keys, isIdentifier v) :
    (b.asked attached qs).IsReady d := by
  induction qs generalizing b with
  | nil => exact hb
  | cons q qs ih =>
    have hfirst := hb.become attached (hqs q List.mem_cons_self)
    exact ih hfirst fun p hp => hqs p (List.mem_cons_of_mem q hp)

/-- **Rendering fails on unfinished queries only.**  After any requests, granted or not, whose rows
    have identifiers for keys: the conditions, joins and sort terms of the query are supported ones,
    each condition with as many markers as its operator wants; and the query is rendered, unless it
    is an `INSERT` without rows or an `UPDATE` without assignments, which is the complaint then. -/
theorem rendering_fails_on_unfinished_only (d : Dialect) (o : Opening) (attached : Bool)
    (qs : List Request) (hqs : ∀ q ∈ qs, ∀ v ∈ q.keys, isIdentifier v) :
    let b := (Builder.start d o.draft).asked attached qs
    b.draft.IsSupported ∧
      (∀ f, b.preview = .error f ↔ b.draft.lacks? = some f) ∧
      (∀ f, b.draft.lacks? = some f → f.isComplaint) := by
  intro b
  have hstart : (Builder.start d o.draft).IsReady d :=
    ⟨o.isSupported_draft, o.hasIdentifiers_draft, rfl⟩
  have hb : b.IsReady d := hstart.asked attached hqs
  refine ⟨hb.supported, ?_, fun f hf => Draft.isComplaint_of_lacks hf⟩
  intro f
  rw [Builder.preview]
  rcases Draft.render_cases hb.supported hb.identifiers b.dialect with
    ⟨f', hlacks, hrender⟩ | ⟨hlacks, sql, hrender⟩
  · rw [hlacks, hrender]
    constructor
    · rintro ⟨⟩
      rfl
    · rintro ⟨⟩
      rfl
  · rw [hlacks, hrender]
    constructor <;> rintro ⟨⟩

/-- An `INSERT` that is asked for too early, and then given a row that is none, which undoes the row
    in front of it, before it is given a row that counts. -/
theorem rendering_after_refused_rows :
    let qs : List Request := [.build, .call (.values [.mapping [(.text "a", .int 1)], .int 3]),
      .call (.values [.mapping [(.raw "b", .null), (.text "c", .text "x")]])]
    let b := (Builder.start .mysql (Opening.insert (.name "t") []).draft).asked false qs
    (∀ q ∈ qs, ∀ v ∈ q.keys, isIdentifier v) ∧ b.draft.IsSupported ∧
      ∃ sql, b.preview = .ok sql := by
  intro qs b
  have hqs : ∀ q ∈ qs, ∀ v ∈ q.keys, isIdentifier v := by decide
  obtain ⟨hsupported, hfails, -⟩ :=
    rendering_fails_on_unfinished_only .mysql (.insert (.name "t") []) false qs hqs
  have hlacks : b.draft.lacks? = none := rfl
  refine ⟨hqs, hsupported, ?_⟩
  cases hpreview : b.preview with
  | ok sql => exact ⟨sql, rfl⟩
  | error f =>
    have hf := (hfails f).mp hpreview
    rw [hlacks] at hf
    cases hf

end TaggedSql.Query
