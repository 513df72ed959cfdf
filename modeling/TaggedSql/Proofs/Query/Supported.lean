/-
  The statements that builders write.

  1. **Supported clauses** — the operators are those that a comparison can have, each with as many
     markers as it compares with, the kinds of joins and the directions are the known ones, counts
     are not negative, and every marker refers to a generated name.

  2. **Reachable queries are supported** (`Builder.isSupported_after`), whatever calls were made on
     the way to them and whether these were taken or not; so every statement that a builder writes
     is one of supported clauses (`Draft.exists_clauses`).

  3. **Names keep to their quotes** (`names_keep_structure`) — supported clauses that refer to
     columns and tables by name only, and hold no raw condition, are well formed in every dialect;
     so two of them with the same mask are written with the same tokens, quoted names aside.
-/
import TaggedSql.Proofs.Query.History
import TaggedSql.Proofs.Query.Rows
import TaggedSql.Proofs.Sql.Masks

namespace TaggedSql.Sql

open TaggedSql.Query

/-! ## Supported clauses -/

/-- Whether a marker refers to a parameter with a generated name. -/
def Marker.IsGenerated (m : Marker) : Prop := ∃ type k, m = .tagged type (parameterName k)

/-- Raw SQL, or a known operator with as many generated markers as it compares with. -/
def Test.IsSupported : Test → Prop
  | .raw _ => True
  | .column _ operator markers =>
    operator ∈ operators ∧ (∀ m ∈ markers, m.IsGenerated) ∧
      (if operator = "IS" ∨ operator = "IS NOT" then markers = []
        else operator = "IN" ∨ operator = "NOT IN" ∨ ∃ m, markers = [m])

/-- A supported test behind one of the two conjunctions. -/
def Condition.IsSupported (c : Condition) : Prop :=
  (∃ conjunction : Conjunction, c.conjunction = conjunction.text) ∧ c.test.IsSupported

/-- The clauses of a `SELECT` as a builder makes them. -/
structure SelectClauses.IsSupported (s : SelectClauses) : Prop where
  joins : ∀ j ∈ s.joins, j.kind ∈ joinKinds
  conditions : ∀ c ∈ s.conditions, c.IsSupported
  orderBy : ∀ item ∈ s.orderBy, item.direction ∈ directions
  limit : ∀ n ∈ s.limit, 0 ≤ n
  offset : ∀ n ∈ s.offset, 0 ≤ n

/-- The clauses of an `UPDATE` as a builder makes them. -/
structure UpdateClauses.IsSupported (s : UpdateClauses) : Prop where
  assignments : ∀ a ∈ s.assignments, a.2.IsGenerated
  conditions : ∀ c ∈ s.conditions, c.IsSupported

/-- The clauses of a statement as a builder makes them. -/
def Clauses.IsSupported : Clauses → Prop
  | select s => s.IsSupported
  | insert s => ∀ row ∈ s.rows, ∀ m ∈ row, m.IsGenerated
  | update s => s.IsSupported

/-! ## Names only -/

/-- Whether a condition is a test of a column that is referred to by name. -/
def Condition.namesOnly (c : Condition) : Bool :=
  match c.test with
  | .raw _ => false
  | .column i _ _ => isName i

/-- Whether clauses refer to columns and tables by name only, and hold no SQL of the caller's. -/
def Clauses.namesOnly : Clauses → Bool
  | select s =>
    s.columns.all isName && s.table.all isName &&
      s.joins.all (fun j => isName j.table && isName j.left && isName j.right) &&
      s.conditions.all Condition.namesOnly && s.groupBy.all isName &&
      s.orderBy.all fun item => isName item.column
  | insert s => isName s.table && s.columns.all isName
  | update s =>
    isName s.table && (s.assignments.all fun a => isName a.1) &&
      s.conditions.all Condition.namesOnly

theorem Marker.IsGenerated.isNamed {m : Marker} (h : m.IsGenerated) : m.IsNamed := by
  obtain ⟨type, k, rfl⟩ := h
  refine ⟨?_, isWordChar_of_mem_parameterName k⟩
  rw [parameterName_toList]
  exact List.cons_ne_nil _ _

theorem Condition.wellFormed_of_isSupported {d : Dialect} {c : Condition} (h : c.IsSupported)
    (hn : c.namesOnly) : c.WellFormed d := by
  obtain ⟨⟨conjunction, hconjunction⟩, htest⟩ := h
  refine ⟨?_, ?_⟩
  · rw [hconjunction]
    exact isQuiet_conjunction conjunction
  · obtain ⟨_, test⟩ := c
    cases test with
    | raw sql => cases hn
    | column i operator markers =>
      obtain ⟨hop, hmarkers, hcount⟩ := htest
      exact ⟨isQuiet_of_isName hn, isQuiet_of_mem_operators operator hop,
        fun m hm => (hmarkers m hm).isNamed, hcount⟩

/-- **Supported clauses** that refer to everything by name are well formed in every dialect. -/
theorem Clauses.wellFormed_of_isSupported {c : Clauses} (h : c.IsSupported) (hn : c.namesOnly)
    (d : Dialect) : c.WellFormed d := by
  cases c with
  | select s =>
    simp only [namesOnly, Bool.and_eq_true, List.all_eq_true] at hn
    obtain ⟨⟨⟨⟨⟨hcolumns, htable⟩, hjoins⟩, hconditions⟩, hgroup⟩, horder⟩ := hn
    refine ⟨fun i hi => isQuiet_of_isName (hcolumns i hi), fun t ht => ?_, fun j hj => ?_,
      fun c hc => Condition.wellFormed_of_isSupported (h.conditions c hc) (hconditions c hc),
      fun i hi => isQuiet_of_isName (hgroup i hi), fun item hitem => ?_, h.limit, h.offset⟩
    · rw [Option.mem_def.mp ht] at htable
      exact isQuiet_of_isName htable
    · obtain ⟨⟨htable, hleft⟩, hright⟩ := hjoins j hj
      exact ⟨isQuiet_of_isName htable, isQuiet_of_isName hleft, isQuiet_of_isName hright,
        isQuiet_of_mem_joinKinds j.kind (h.joins j hj)⟩
    · exact ⟨isQuiet_of_isName (horder item hitem),
        isQuiet_of_mem_directions item.direction (h.orderBy item hitem)⟩
  | insert s =>
    simp only [namesOnly, Bool.and_eq_true, List.all_eq_true] at hn
    exact ⟨isQuiet_of_isName hn.1, fun i hi => isQuiet_of_isName (hn.2 i hi),
      fun row hrow m hm => (h row hrow m hm).isNamed⟩
  | update s =>
    simp only [namesOnly, Bool.and_eq_true, List.all_eq_true] at hn
    obtain ⟨⟨htable, hassignments⟩, hconditions⟩ := hn
    exact ⟨isQuiet_of_isName htable,
      fun a ha => ⟨isQuiet_of_isName (hassignments a ha), (h.assignments a ha).isNamed⟩,
      fun c hc => Condition.wellFormed_of_isSupported (h.conditions c hc) (hconditions c hc)⟩

end TaggedSql.Sql

namespace TaggedSql.Query

open TaggedSql.Placeholder TaggedSql.Sql

/-! ## Calls keep clauses supported -/

theorem isGenerated_markerOf {p : String × Value} (h : ∃ k, p.1 = parameterName k) :
    (markerOf p).IsGenerated := by
  obtain ⟨k, hk⟩ := h
  exact ⟨.infer p.2, k, by rw [markerOf, hk]⟩

/-- A comparison that is taken adds a supported condition. -/
theorem Filter.isSupported_compare {f f' : Filter} {conjunction : Conjunction}
    {column : Identifier} {operator : Value} {value : Option Value}
    (hf : ∀ c ∈ f.conditions, c.IsSupported)
    (h : f.compare conjunction column operator value = .ok f') :
    ∀ c ∈ f'.conditions, c.IsSupported := by
  obtain ⟨r, _, hr, rfl⟩ := Filter.compare_cases h
  obtain ⟨stored, op, hstored, -, htest, hop, hcount⟩ := comparison_cases hr
  intro c hc
  rcases List.mem_append.mp hc with hc | hc
  · exact hf c hc
  · obtain rfl := List.mem_singleton.mp hc
    refine ⟨⟨conjunction, rfl⟩, ?_⟩
    rw [htest]
    refine ⟨hop, fun m hm => ?_, ?_⟩
    · obtain ⟨p, hp, rfl⟩ := List.mem_map.mp hm
      exact isGenerated_markerOf (hstored.generated p hp)
    · split at hcount
      · next his =>
        rw [if_pos his, hcount]
        rfl
      · next his =>
        rw [if_neg his]
        refine hcount.imp_right (Or.imp_right ?_)
        rintro ⟨p, rfl⟩
        exact ⟨markerOf p, rfl⟩

/-- Raw SQL is supported, and a raw condition that is not taken adds no condition. -/
theorem Filter.isSupported_whereRaw {f : Filter} (hf : ∀ c ∈ f.conditions, c.IsSupported)
    (expression : String) (parameters : List (String × Value)) :
    ∀ c ∈ (f.whereRaw expression parameters).state.conditions, c.IsSupported := by
  unfold Filter.whereRaw
  split
  · exact hf
  · intro c hc
    rcases List.mem_append.mp hc with hc | hc
    · exact hf c hc
    · obtain rfl := List.mem_singleton.mp hc
      exact ⟨⟨.and, rfl⟩, trivial⟩

/-- What holds of a state and of all that an attempt can turn it into holds of what is reached. -/
theorem ofExcept_state {σ : Type} {P : σ → Prop} {s : σ} {r : Except Fault σ} (hs : P s)
    (hr : ∀ t, r = .ok t → P t) : P (Attempt.ofExcept s r).state := by
  cases r with
  | error f => exact hs
  | ok t => exact hr t rfl

theorem SelectDraft.isSupported_apply {q : SelectDraft} (hq : q.clauses.IsSupported) (c : Call) :
    (q.apply c).state.clauses.IsSupported := by
  have hkeep : ∀ r : Except Fault SelectDraft, (∀ q', r = .ok q' → q'.clauses.IsSupported) →
      (Attempt.ofExcept q r).state.clauses.IsSupported := fun r hr =>
    ofExcept_state (P := fun q : SelectDraft => q.clauses.IsSupported) hq hr
  cases c with
  | compare conjunction column operator value =>
    rw [SelectDraft.apply]
    refine hkeep _ fun q' h => ?_
    obtain ⟨f, hf, rfl⟩ := except_map_eq_ok h
    exact { hq with conditions := Filter.isSupported_compare hq.conditions hf }
  | whereRaw expression parameters =>
    exact { hq with conditions :=
      Filter.isSupported_whereRaw (f := q.filter) hq.conditions expression parameters }
  | join table left right kind label =>
    refine hkeep _ fun q' h => ?_
    obtain ⟨hkind, rfl⟩ := SelectDraft.join_cases h
    refine { hq with joins := fun j hj => ?_ }
    rcases List.mem_append.mp hj with hj | hj
    · exact hq.joins j hj
    · rw [List.mem_singleton.mp hj]
      exact hkind
  | orderBy column direction =>
    refine hkeep _ fun q' h => ?_
    obtain ⟨hdirection, rfl⟩ := SelectDraft.orderBy_cases h
    refine { hq with orderBy := fun item hitem => ?_ }
    rcases List.mem_append.mp hitem with hitem | hitem
    · exact hq.orderBy item hitem
    · rw [List.mem_singleton.mp hitem]
      exact hdirection
  | limit value =>
    refine hkeep _ fun q' h => ?_
    obtain ⟨n, hcount, rfl⟩ := except_map_eq_ok h
    exact { hq with limit := readCount_nonneg hcount }
  | offset value =>
    refine hkeep _ fun q' h => ?_
    obtain ⟨n, hcount, rfl⟩ := except_map_eq_ok h
    exact { hq with offset := readCount_nonneg hcount }
  | _ => exact { hq with }

/-- The rows of an `INSERT` as a builder makes them. -/
def InsertDraft.IsSupported (q : InsertDraft) : Prop := ∀ row ∈ q.rows, ∀ m ∈ row, m.IsGenerated

theorem rows_takeRows (q : InsertDraft) (rows : List Value) :
    (q.takeRows rows).1.rows = q.rows := by
  induction rows generalizing q with
  | nil => rfl
  | cons row rows ih =>
    rw [InsertDraft.takeRows]
    split
    · rfl
    · next markers q' hrow =>
      obtain ⟨stored, -, hinserts, -⟩ := row_cases hrow
      exact (ih q').trans hinserts.rows

theorem InsertDraft.isSupported_apply {q : InsertDraft} (hq : q.IsSupported) (c : Call) :
    (q.apply c).state.IsSupported := by
  cases c with
  | columns names =>
    rw [InsertDraft.apply]
    split <;> exact hq
  | values rows =>
    have hrows := rows_takeRows q rows
    rw [InsertDraft.apply, InsertDraft.values]
    split
    · next q' markers htake =>
      obtain ⟨stored, -, hinserts, -⟩ := takeRows_cases htake
      intro row hrow m hm
      rcases List.mem_append.mp hrow with hrow | hrow
      · rw [hinserts.rows] at hrow
        exact hq row hrow m hm
      · have hmarkers := List.mem_flatten_of_mem hrow hm
        rw [hinserts.markers] at hmarkers
        obtain ⟨p, hp, rfl⟩ := List.mem_map.mp hmarkers
        exact isGenerated_markerOf (hinserts.bindings.generated p hp)
    · next q' f htake =>
      rw [htake] at hrows
      by_cases hf : f.isComplaint
      · rw [if_pos hf]
        exact hq
      · rw [if_neg hf]
        intro row hrow
        exact hq row (hrows ▸ hrow)
  | _ => exact hq

theorem UpdateDraft.isSupported_assigned {q : UpdateDraft} (hq : q.clauses.IsSupported)
    (settings : List (Identifier × Value)) :
    (settings.foldl (fun q a => q.set a.1 a.2) q).clauses.IsSupported := by
  obtain ⟨stored, b, hstored, -, hfold⟩ := UpdateDraft.exists_assigned q settings
  rw [hfold]
  refine ⟨fun a ha => ?_, hq.conditions⟩
  rcases mem_assignAll ha with ha | ha
  · obtain ⟨x, hx, rfl⟩ := List.mem_map.mp ha
    exact isGenerated_markerOf (hstored.generated x.2 (List.of_mem_zip hx).2)
  · exact hq.assignments a ha

theorem UpdateDraft.setValues_eq_foldl (q : UpdateDraft) (entries : List (String × Value)) :
    q.setValues entries = (entries.map fun p => (Identifier.name p.1, p.2)).foldl
      (fun q a => q.set a.1 a.2) q := by
  rw [UpdateDraft.setValues, List.foldl_map]

theorem UpdateDraft.isSupported_apply {q : UpdateDraft} (hq : q.clauses.IsSupported) (c : Call) :
    (q.apply c).state.clauses.IsSupported := by
  cases c with
  | compare conjunction column operator value =>
    rw [UpdateDraft.apply]
    refine ofExcept_state (P := fun q : UpdateDraft => q.clauses.IsSupported) hq fun q' h => ?_
    obtain ⟨f, hf, rfl⟩ := except_map_eq_ok h
    exact { hq with conditions := Filter.isSupported_compare hq.conditions hf }
  | whereRaw expression parameters =>
    exact { hq with conditions :=
      Filter.isSupported_whereRaw (f := q.filter) hq.conditions expression parameters }
  | set column value => exact UpdateDraft.isSupported_assigned hq [(column, value)]
  | setValues entries =>
    show (q.setValues entries).clauses.IsSupported
    rw [UpdateDraft.setValues_eq_foldl]
    exact UpdateDraft.isSupported_assigned hq _
  | _ => exact hq

/-! ## Runs -/

/-- A query whose clauses are as a builder makes them. -/
def Draft.IsSupported : Draft → Prop
  | .select q => q.clauses.IsSupported
  | .insert q => q.IsSupported
  | .update q => q.clauses.IsSupported

/-- A query is supported from its start. -/
theorem Opening.isSupported_draft (o : Opening) : o.draft.IsSupported := by
  cases o with
  | select columns =>
    exact ⟨by simp [SelectClauses.ofColumns], by simp [SelectClauses.ofColumns],
      by simp [SelectClauses.ofColumns], by simp [SelectClauses.ofColumns],
      by simp [SelectClauses.ofColumns]⟩
  | insert table columns =>
    intro row hrow
    cases hrow
  | update table values =>
    show (UpdateDraft.setValues ⟨⟨table, [], []⟩, .empty⟩ values).clauses.IsSupported
    rw [UpdateDraft.setValues_eq_foldl]
    exact UpdateDraft.isSupported_assigned ⟨by simp, by simp⟩ _

theorem Draft.isSupported_apply {q : Draft} (h : q.IsSupported) (c : Call) :
    (q.apply c).state.IsSupported := by
  cases q with
  | select q => exact SelectDraft.isSupported_apply h c
  | insert q => exact InsertDraft.isSupported_apply h c
  | update q => exact UpdateDraft.isSupported_apply h c

/-- A call leaves a builder as it is, or does to it what it does to its draft. -/
theorem Builder.apply_state (b : Builder) (c : Call) :
    (b.apply c).state = b ∨ (b.apply c).state = { b with draft := (b.draft.apply c).state } := by
  rw [Builder.apply]
  split_ifs
  · exact .inl rfl
  · exact .inl rfl
  · exact .inr rfl

/-- **What one call preserves**, taken or not. -/
theorem Builder.isSupported_apply {b : Builder} (h : b.draft.IsSupported) (c : Call) :
    (b.apply c).state.draft.IsSupported := by
  rcases b.apply_state c with hsame | hdraft
  · rwa [hsame]
  · rw [hdraft]
    exact Draft.isSupported_apply h c

/-- The builder after calls, taken or not. -/
def Builder.after (b : Builder) (calls : List Call) : Builder :=
  calls.foldl (fun b c => (b.apply c).state) b

theorem Builder.after_cons (b : Builder) (c : Call) (calls : List Call) :
    b.after (c :: calls) = (b.apply c).state.after calls := rfl

/-- Those of some calls that a builder accepts when they are made one after the other. -/
def Builder.accepted (b : Builder) : List Call → List Call
  | [] => []
  | c :: calls =>
    if (b.apply c).fault.isNone then c :: (b.apply c).state.accepted calls
    else (b.apply c).state.accepted calls

/-- **What a whole run preserves.**  A builder reaches supported clauses only. -/
theorem Builder.isSupported_after (d : Dialect) (o : Opening) (calls : List Call) :
    ((Builder.start d o.draft).after calls).draft.IsSupported := by
  refine List.foldlRecOn calls _ (motive := fun b : Builder => b.draft.IsSupported) ?_
    fun b hb c _ => ?_
  · exact o.isSupported_draft
  · exact Builder.isSupported_apply hb c

/-- What a query of supported clauses renders is a statement of supported clauses. -/
theorem Draft.exists_clauses {d : Dialect} {q : Draft} {sql : String} (hq : q.IsSupported)
    (h : q.render d = .ok sql) : ∃ c : Clauses, c.IsSupported ∧ c.write? d = some sql := by
  cases q with
  | select q =>
    rw [Draft.render, SelectDraft.render] at h
    split at h
    · next fs hfs =>
      cases h
      exact ⟨.select q.clauses, hq, congrArg (Option.map (write d)) hfs⟩
    · cases h
  | insert q =>
    rw [Draft.render, InsertDraft.render] at h
    split at h
    · cases h
    · obtain ⟨columns, -, rfl⟩ := except_map_eq_ok h
      exact ⟨.insert ⟨q.table, columns, q.rows⟩, hq, rfl⟩
  | update q =>
    rw [Draft.render, UpdateDraft.render] at h
    split at h
    · cases h
    · split at h
      · next fs hfs =>
        cases h
        exact ⟨.update q.clauses, hq, congrArg (Option.map (write d)) hfs⟩
      · cases h

/-! ## Names and structure -/

/-- **Names do not change the structure of a statement.**  Two statements whose clauses differ in
    the text of their names only are read as the same tokens, quoted names aside. -/
theorem names_keep_structure {c c' : Clauses} (hc : c.IsSupported) (hc' : c'.IsSupported)
    (hn : c.namesOnly) (hn' : c'.namesOnly) (hmask : c.masked = c'.masked) (d : Dialect) :
    ∃ sql sql', c.write? d = some sql ∧ c'.write? d = some sql' ∧
      List.Forall₂ (SameBesideNames d) (lex d.lexing sql.toList) (lex d.lexing sql'.toList) := by
  obtain ⟨fs, ls, hfs, hreads⟩ := Clauses.exists_layout (Clauses.wellFormed_of_isSupported hc hn d)
  obtain ⟨gs, ms, hgs, hreads'⟩ :=
    Clauses.exists_layout (Clauses.wellFormed_of_isSupported hc' hn' d)
  have hmasks : maskedAll fs = maskedAll gs := by
    have hlayouts := congrArg (Clauses.layout? d) hmask
    rw [Clauses.layout?_masked, Clauses.layout?_masked, hfs, hgs] at hlayouts
    exact Option.some.inj hlayouts
  exact ⟨write d fs, write d gs, congrArg (Option.map (write d)) hfs,
    congrArg (Option.map (write d)) hgs, forall₂_lex_write hreads hreads' hmasks⟩

/-- A tame statement, and one whose names try every way out of their quotes. -/
theorem hostile_names_keep_structure :
    ∃ sql sql',
      (Clauses.update ⟨.name "app.users", [(.name "a", .tagged .text (parameterName 1))],
        [⟨"AND", .column (.name "b.*") "=" [.tagged .int (parameterName 2)]⟩]⟩).write? .sqlServer =
          some sql ∧
      (Clauses.update ⟨.name "--].\"'", [(.name "s:p/*", .tagged .text (parameterName 1))],
        [⟨"AND", .column (.name "]] = [\n.*") "=" [.tagged .int (parameterName 2)]⟩]⟩).write?
          .sqlServer = some sql' ∧
      List.Forall₂ (SameBesideNames .sqlServer) (lex Dialect.sqlServer.lexing sql.toList)
        (lex Dialect.sqlServer.lexing sql'.toList) := by
  have hsupported : ∀ table assigned tested : Identifier,
      (Clauses.update ⟨table, [(assigned, .tagged .text (parameterName 1))],
        [⟨"AND", .column tested "=" [.tagged .int (parameterName 2)]⟩]⟩).IsSupported := by
    refine fun table assigned tested => ⟨fun a ha => ?_, fun c hc => ?_⟩
    · rw [List.mem_singleton.mp ha]
      exact ⟨.text, 1, rfl⟩
    · rw [List.mem_singleton.mp hc]
      exact ⟨⟨.and, rfl⟩, by decide, fun m hm => ⟨.int, 2, List.mem_singleton.mp hm⟩, by simp⟩
  exact names_keep_structure (hsupported _ _ _) (hsupported _ _ _) rfl rfl (by decide +kernel)
    .sqlServer

end TaggedSql.Query
