/-
  What a single call does to a `SELECT` or an `UPDATE`.

  1. **Steps** — `Step d q t q'` says all that a call does: it remembers what it stores, and
     conditions and assignments grow by what the call stored or mentions.

  2. **Every call that is taken is a step** (`exists_step`), one case per call, and keeps the
     clauses well formed.  A comparison tests its column against the markers of its operands
     (`comparison_cases`).
-/
import TaggedSql.Proofs.Query.Memory
import TaggedSql.Proofs.Sql.Layouts

namespace TaggedSql.Query

open TaggedSql.Placeholder TaggedSql.Sql

/-! ## Comparisons -/

theorem isQuiet_of_mem_operators : ∀ op ∈ operators, isQuiet op := by decide

theorem isQuiet_conjunction (c : Conjunction) : isQuiet c.text := by
  cases c <;> decide

/-- A comparison that is taken has an operator with a text. -/
theorem exists_comparisonBy {column : Identifier} {operator value : Value} {b : Bindings}
    {r : Test × Bindings} (h : comparison column operator value b = .ok r) :
    ∃ text, operator.plain? = some text ∧ comparisonBy column text value b = .ok r := by
  rw [comparison] at h
  cases hplain : operator.plain? with
  | none => simp [hplain] at h
  | some text => exact ⟨text, rfl, by simpa only [hplain] using h⟩

/-- **A comparison** stores its operands and tests its column against their markers. -/
theorem comparison_cases {column : Identifier} {operator value : Value} {b : Bindings}
    {r : Test × Bindings} (h : comparison column operator value b = .ok r) :
    ∃ stored op, Stored b stored r.2 ∧ stored.map Prod.snd = operands value ∧
      r.1 = .column column op (stored.map markerOf) ∧ op ∈ operators ∧
      (if op = "IS" ∨ op = "IS NOT" then stored = []
        else op = "IN" ∨ op = "NOT IN" ∨ ∃ p, stored = [p]) := by
  replace h := exists_comparisonBy h
  obtain ⟨text, -, h⟩ := h
  unfold comparisonBy at h
  simp only at h
  split at h
  · cases h
  · next hop =>
    split at h
    · -- the absent value
      split at h
      · next positive _ =>
        cases h
        refine ⟨[], if positive then "IS" else "IS NOT", Stored.nil b, rfl, rfl, ?_, ?_⟩
        · cases positive <;> decide
        · cases positive <;> rfl
      · cases h
    · -- a collection
      split at h
      · next items _ positive _ =>
        cases h
        obtain ⟨stored, b', hall, hvalues, hs⟩ := exists_bindAll b items
        refine ⟨stored, if positive then "IN" else "NOT IN", ?_, hvalues, ?_, ?_, ?_⟩
        · rw [hall]
          exact hs
        · rw [hall]
        · cases positive <;> decide
        · cases positive <;> simp
      · cases h
    · -- any other value
      split at h
      · cases h
      · next hnull hcollection hnot =>
        cases h
        obtain ⟨name, b', hbind, hs⟩ := exists_bind b value
        have hvalue : operands value = [value] := by
          unfold operands
          split
          · exact absurd rfl hnull
          · exact absurd rfl (hcollection _ _)
          · rfl
        refine ⟨[(name, value)], normalized text, ?_, hvalue.symm, ?_, ?_, ?_⟩
        · rw [hbind]
          exact hs
        · rw [hbind]
          rfl
        · simpa using hop
        · simp only [not_or] at hnot
          rw [if_neg (by simp [hnot])]
          exact Or.inr (Or.inr ⟨_, rfl⟩)

/-! ## Steps -/

theorem except_map_eq_ok {ε α β : Type} {f : α → β} {r : Except ε α} {b : β}
    (h : r.map f = .ok b) : ∃ a, r = .ok a ∧ f a = b := by
  cases r with
  | error e => cases h
  | ok a => exact ⟨a, rfl, Except.ok.inj h⟩

/-- What a call that was taken mentions in a condition. -/
def Taken.mentions (d : Dialect) (t : Taken) : List Lexeme :=
  match t.call with
  | .compare .. => t.stored.flatMap fun p => (markerOf p).mentions
  | .whereRaw expression _ => Placeholder.mentions (lex d.lexing expression.toList)
  | _ => []

/-- The columns that a call assigned to, each with the name and the value that it stored. -/
def Taken.assignments (t : Taken) : List (Identifier × String × Value) :=
  (t.call.settings.map Prod.fst).zip t.stored

/-- The values that a call supplies. -/
def Call.supplied (c : Call) : List Value := c.operands ++ c.settings.map Prod.snd

/-- Whether the SQL that a call brings along is closed. -/
def Call.IsClosed (d : Dialect) : Call → Prop
  | .whereRaw expression _ => Closed d.lexing expression.toList
  | _ => True

/-- The conditions of a query. -/
def Draft.conditions : Draft → List Condition
  | .select q => q.clauses.conditions
  | .update q => q.clauses.conditions
  | .insert _ => []

/-- The assignments of a query. -/
def Draft.assignments : Draft → List (Identifier × Marker)
  | .update q => q.clauses.assignments
  | .select _ | .insert _ => []

/-- Assigns markers to columns one after the other. -/
def assignAll (as new : List (Identifier × Marker)) : List (Identifier × Marker) :=
  new.foldl (fun as a => assign a.1 a.2 as) as

/-- `Step d q t q'`: the call `t` takes the query `q` to `q'`. -/
structure Draft.Step (d : Dialect) (q : Draft) (t : Taken) (q' : Draft) : Prop where
  bindings : Remembers q.bindings t q'.bindings
  values : t.stored.map Prod.snd = t.call.supplied
  conditions : conditionMentions d q'.conditions = conditionMentions d q.conditions ++ t.mentions d
  assignments : q'.assignments =
    assignAll q.assignments (t.assignments.map fun a => (a.1, markerOf a.2))

/-- A call that neither stores values nor adds conditions. -/
theorem Draft.Step.idle {d : Dialect} {q q' : Draft} {c : Call} (hc : c.supplied = [])
    (hr : c.rawParameters = []) (hm : Taken.mentions d ⟨c, []⟩ = [])
    (hb : q'.bindings = q.bindings) (hq : q'.conditions = q.conditions)
    (ha : q'.assignments = q.assignments) : Draft.Step d q ⟨c, []⟩ q' := by
  refine ⟨?_, hc.symm, ?_, ?_⟩
  · rw [hb]
    exact remembers_of_nothing hr
  · rw [hq, hm, List.append_nil]
  · rw [ha]
    simp [Taken.assignments, assignAll]

/-- `Step d f t f'`: the call `t` adds a condition to `f`. -/
structure Filter.Step (d : Dialect) (f : Filter) (t : Taken) (f' : Filter) : Prop where
  bindings : Remembers f.bindings t f'.bindings
  values : t.stored.map Prod.snd = t.call.supplied
  assigns : t.assignments = []
  conditions : ∃ c, f'.conditions = f.conditions ++ [c] ∧ c.WellFormed d ∧
    c.test.mentions d = t.mentions d

theorem isQuiet_of_isName {i : Identifier} (h : isName i) : i.IsQuiet := by
  cases i with
  | name text => trivial
  | raw sql => cases h

/-- Without a value the operator is the value. -/
theorem Filter.compare_cases {f f' : Filter} {conjunction : Conjunction} {column : Identifier}
    {operator : Value} {value : Option Value}
    (h : f.compare conjunction column operator value = .ok f') :
    ∃ r op, comparison column op (value.getD operator) f.bindings = .ok r ∧
      f' = ⟨r.2, f.conditions ++ [⟨conjunction.text, r.1⟩]⟩ := by
  unfold Filter.compare at h
  cases value with
  | some v =>
    obtain ⟨r, hr, rfl⟩ := except_map_eq_ok h
    exact ⟨r, _, hr, rfl⟩
  | none =>
    obtain ⟨r, hr, rfl⟩ := except_map_eq_ok h
    exact ⟨r, _, hr, rfl⟩

theorem Filter.compare_step {d : Dialect} {f f' : Filter} {conjunction : Conjunction}
    {column : Identifier} {operator : Value} {value : Option Value} (hn : column.IsQuiet)
    (h : f.compare conjunction column operator value = .ok f') :
    ∃ stored, Filter.Step d f ⟨.compare conjunction column operator value, stored⟩ f' := by
  obtain ⟨r, _, hr, rfl⟩ := Filter.compare_cases h
  obtain ⟨stored, op, hs, hvalues, htest, hop, hcount⟩ := comparison_cases hr
  refine ⟨stored, remembers_of_stored hs rfl, ?_, rfl, _, rfl, ?_, ?_⟩
  · rw [hvalues]
    exact (List.append_nil _).symm
  · refine ⟨isQuiet_conjunction conjunction, ?_⟩
    rw [htest]
    refine ⟨hn, isQuiet_of_mem_operators op hop, fun m hm => ?_, ?_⟩
    · obtain ⟨p, hp, rfl⟩ := List.mem_map.mp hm
      exact isNamed_markerOf (hs.generated p hp)
    · split at hcount
      · next his =>
        rw [if_pos his, hcount]
        rfl
      · next his =>
        rw [if_neg his]
        refine hcount.imp_right (Or.imp_right ?_)
        rintro ⟨p, rfl⟩
        exact ⟨markerOf p, rfl⟩
  · rw [htest]
    exact List.flatMap_map ..

theorem Filter.whereRaw_step {d : Dialect} {f f' : Filter} {expression : String}
    {parameters : List (String × Value)} (hc : Closed d.lexing expression.toList)
    (h : f.whereRaw expression parameters = .ok f') :
    Filter.Step d f ⟨.whereRaw expression parameters, []⟩ f' := by
  unfold Filter.whereRaw at h
  split at h
  · cases h
  · next b hb =>
    cases h
    exact ⟨remembers_of_bindNamed hb, rfl, rfl, _, rfl,
      ⟨isQuiet_conjunction .and, hc⟩, rfl⟩

/-- A step of bindings and conditions as one of the query that holds them. -/
theorem Filter.Step.draft {d : Dialect} {q q' : Draft} {f f' : Filter} {t : Taken}
    (h : Filter.Step d f t f') (hb : f.bindings = q.bindings) (hb' : f'.bindings = q'.bindings)
    (hc : f.conditions = q.conditions) (hc' : f'.conditions = q'.conditions)
    (ha : q'.assignments = q.assignments) : Draft.Step d q t q' := by
  obtain ⟨c, hcs, -, hmentions⟩ := h.conditions
  refine ⟨?_, h.values, ?_, ?_⟩
  · rw [← hb, ← hb']
    exact h.bindings
  · rw [← hc, ← hc', hcs, conditionMentions, List.flatMap_append, List.flatMap_singleton, hmentions]
    rfl
  · rw [h.assigns, ha]
    rfl

/-- The conditions of a step are well formed when those before it were. -/
theorem Filter.Step.wellFormed {d : Dialect} {f f' : Filter} {t : Taken}
    (h : Filter.Step d f t f') (hf : ∀ c ∈ f.conditions, c.WellFormed d) :
    ∀ c ∈ f'.conditions, c.WellFormed d := by
  obtain ⟨c, hcs, hc, -⟩ := h.conditions
  intro c' hc'
  rw [hcs] at hc'
  rcases List.mem_append.mp hc' with hc' | hc'
  · exact hf c' hc'
  · rw [List.mem_singleton.mp hc']
    exact hc

/-! ## The calls of a `SELECT` -/

theorem isQuiet_of_mem_joinKinds : ∀ kind ∈ joinKinds, isQuiet kind := by decide

theorem isQuiet_of_mem_directions : ∀ direction ∈ directions, isQuiet direction := by decide

theorem readCount_nonneg {keyword : String} {v : Value} {count : Option Int}
    (h : readCount keyword v = .ok count) : ∀ n ∈ count, 0 ≤ n := by
  unfold readCount at h
  split at h
  · cases h
    intro n hn
    cases hn
  · split at h
    · cases h
    · next m hm =>
      cases h
      intro n hn
      obtain rfl := Option.some.inj hn
      omega
  · cases h

theorem ofExcept_eq_ok {σ : Type} {s t : σ} {r : Except Fault σ}
    (h : Attempt.ofExcept s r = .ok t) : r = .ok t := by
  cases r with
  | error f => cases h
  | ok u =>
    cases h
    rfl

theorem map_eq_ok {σ τ : Type} {f : σ → τ} {a : Attempt σ} {t : τ} (h : a.map f = .ok t) :
    ∃ s, a = .ok s ∧ f s = t := by
  obtain ⟨s, fault⟩ := a
  cases h
  exact ⟨s, rfl, rfl⟩

theorem SelectDraft.withFilter_wellFormed {d : Dialect} {q : SelectDraft} {f : Filter}
    (hq : q.clauses.WellFormed d) (hf : ∀ c ∈ f.conditions, c.WellFormed d) :
    (q.withFilter f).clauses.WellFormed d :=
  ⟨hq.columns, hq.table, hq.joins, hf, hq.groupBy, hq.orderBy, hq.limit, hq.offset⟩

/-- A join that is taken is of a supported kind. -/
theorem SelectDraft.join_cases {q q' : SelectDraft} {table left right : Identifier} {kind : String}
    {label : Option String} (h : q.join table left right kind label = .ok q') :
    Text.upper kind ∈ joinKinds ∧ q' = q.withClauses { q.clauses with
      joins := q.clauses.joins ++ [⟨table, left, right, Text.upper kind, label⟩] } := by
  rw [SelectDraft.join] at h
  simp only at h
  split at h
  · next hkind =>
    cases h
    exact ⟨by simpa using hkind, rfl⟩
  · cases h

/-- A sort term that is taken is of a supported direction. -/
theorem SelectDraft.orderBy_cases {q q' : SelectDraft} {column : Identifier} {direction : String}
    (h : q.orderBy column direction = .ok q') :
    Text.upper direction ∈ directions ∧ q' = q.withClauses { q.clauses with
      orderBy := q.clauses.orderBy ++ [⟨column, Text.upper direction⟩] } := by
  rw [SelectDraft.orderBy] at h
  simp only at h
  split at h
  · next hdirection =>
    cases h
    exact ⟨by simpa using hdirection, rfl⟩
  · cases h

/-- **A call on a `SELECT`** is a step, and keeps its clauses well formed. -/
theorem SelectDraft.exists_step {d : Dialect} {q q' : SelectDraft} {c : Call}
    (hq : q.clauses.WellFormed d) (hn : c.namesOnly) (hc : c.IsClosed d)
    (h : q.apply c = .ok q') :
    ∃ stored, Draft.Step d (.select q) ⟨c, stored⟩ (.select q') ∧ q'.clauses.WellFormed d := by
  have hnames : ∀ i ∈ c.identifiers, i.IsQuiet := by
    intro i hi
    have hall := (Bool.and_eq_true _ _).mp hn
    exact isQuiet_of_isName (List.all_eq_true.mp hall.1 i hi)
  have happend : ∀ {is js : List Identifier}, (∀ i ∈ is, i.IsQuiet) → (∀ i ∈ js, i.IsQuiet) →
      ∀ i ∈ is ++ js, i.IsQuiet := by
    intro is js his hjs i hi
    exact (List.mem_append.mp hi).elim (his i) (hjs i)
  cases c with
  | compare conjunction column operator value =>
    rw [SelectDraft.apply] at h
    obtain ⟨f', hf, rfl⟩ := except_map_eq_ok (ofExcept_eq_ok h)
    obtain ⟨stored, hs⟩ := Filter.compare_step (d := d) (hnames column List.mem_cons_self) hf
    exact ⟨stored, hs.draft rfl rfl rfl rfl rfl,
      SelectDraft.withFilter_wellFormed hq (hs.wellFormed hq.conditions)⟩
  | whereRaw expression parameters =>
    rw [SelectDraft.apply] at h
    obtain ⟨f', hf, rfl⟩ := map_eq_ok h
    have hs := Filter.whereRaw_step (d := d) hc hf
    exact ⟨[], hs.draft rfl rfl rfl rfl rfl,
      SelectDraft.withFilter_wellFormed hq (hs.wellFormed hq.conditions)⟩
  | columns names =>
    cases h
    exact ⟨[], Draft.Step.idle rfl rfl rfl rfl rfl rfl,
      { hq with columns := happend hq.columns hnames }⟩
  | distinct flag =>
    cases h
    exact ⟨[], Draft.Step.idle rfl rfl rfl rfl rfl rfl, { hq with }⟩
  | fromTable table label =>
    cases h
    refine ⟨[], Draft.Step.idle rfl rfl rfl rfl rfl rfl, { hq with table := fun t ht => ?_ }⟩
    obtain rfl := Option.some.inj ht
    exact hnames _ List.mem_cons_self
  | join table left right kind label =>
    rw [SelectDraft.apply] at h
    obtain ⟨hkind, rfl⟩ := SelectDraft.join_cases (ofExcept_eq_ok h)
    have hjoin : Join.IsQuiet ⟨table, left, right, Text.upper kind, label⟩ :=
      ⟨hnames table (by simp [Call.identifiers]), hnames left (by simp [Call.identifiers]),
        hnames right (by simp [Call.identifiers]), isQuiet_of_mem_joinKinds _ hkind⟩
    refine ⟨[], Draft.Step.idle rfl rfl rfl rfl rfl rfl, { hq with joins := fun j hj => ?_ }⟩
    rcases List.mem_append.mp hj with hj | hj
    · exact hq.joins j hj
    · rw [List.mem_singleton.mp hj]
      exact hjoin
  | groupBy names =>
    cases h
    exact ⟨[], Draft.Step.idle rfl rfl rfl rfl rfl rfl,
      { hq with groupBy := happend hq.groupBy hnames }⟩
  | orderBy column direction =>
    rw [SelectDraft.apply] at h
    obtain ⟨hdirection, rfl⟩ := SelectDraft.orderBy_cases (ofExcept_eq_ok h)
    have hitem : OrderItem.IsQuiet ⟨column, Text.upper direction⟩ :=
      ⟨hnames column List.mem_cons_self, isQuiet_of_mem_directions _ hdirection⟩
    refine ⟨[], Draft.Step.idle rfl rfl rfl rfl rfl rfl, { hq with orderBy := fun i hi => ?_ }⟩
    rcases List.mem_append.mp hi with hi | hi
    · exact hq.orderBy i hi
    · rw [List.mem_singleton.mp hi]
      exact hitem
  | limit value =>
    rw [SelectDraft.apply] at h
    obtain ⟨n, hcount, rfl⟩ := except_map_eq_ok (ofExcept_eq_ok h)
    exact ⟨[], Draft.Step.idle rfl rfl rfl rfl rfl rfl,
      { hq with limit := readCount_nonneg hcount }⟩
  | offset value =>
    rw [SelectDraft.apply] at h
    obtain ⟨n, hcount, rfl⟩ := except_map_eq_ok (ofExcept_eq_ok h)
    exact ⟨[], Draft.Step.idle rfl rfl rfl rfl rfl rfl,
      { hq with offset := readCount_nonneg hcount }⟩
  | values rows => cases h
  | set column value => cases h
  | setValues entries => cases h
  | setOther kind => cases h

/-! ## The calls of an `UPDATE` -/

/-- Assigning more is setting more. -/
theorem assignAll_latest (settings new : List (Identifier × Marker)) :
    assignAll (latest settings) new = latest (settings ++ new) := by
  induction new generalizing settings with
  | nil => rw [List.append_nil]; rfl
  | cons a new ih =>
    have := ih (settings ++ [a])
    rwa [latest_concat, List.append_assoc] at this

theorem mem_assign {a : Identifier × Marker} {column : Identifier} {m : Marker}
    {as : List (Identifier × Marker)} (h : a ∈ assign column m as) : a = (column, m) ∨ a ∈ as := by
  induction as with
  | nil => exact Or.inl (List.mem_singleton.mp h)
  | cons b as ih =>
    rw [assign] at h
    split at h
    · exact (List.mem_cons.mp h).imp_right (List.mem_cons_of_mem b)
    · rcases List.mem_cons.mp h with rfl | h
      · exact Or.inr List.mem_cons_self
      · exact (ih h).imp_right (List.mem_cons_of_mem b)

theorem mem_assignAll {a : Identifier × Marker} {as new : List (Identifier × Marker)}
    (h : a ∈ assignAll as new) : a ∈ new ∨ a ∈ as := by
  induction new generalizing as with
  | nil => exact Or.inr h
  | cons b new ih =>
    rcases ih h with h | h
    · exact Or.inl (List.mem_cons_of_mem b h)
    · rcases mem_assign h with rfl | h
      · exact Or.inl List.mem_cons_self
      · exact Or.inr h

/-- Assigning values stores them in order, and assigns their markers. -/
theorem UpdateDraft.exists_assigned (q : UpdateDraft) (settings : List (Identifier × Value)) :
    ∃ stored b', Stored q.bindings stored b' ∧ stored.map Prod.snd = settings.map Prod.snd ∧
      settings.foldl (fun q a => q.set a.1 a.2) q =
        ⟨⟨q.clauses.table, assignAll q.clauses.assignments
            (((settings.map Prod.fst).zip stored).map fun a => (a.1, markerOf a.2)),
          q.clauses.conditions⟩, b'⟩ := by
  induction settings generalizing q with
  | nil => exact ⟨[], q.bindings, Stored.nil q.bindings, rfl, rfl⟩
  | cons a settings ih =>
    obtain ⟨name, b, hbind, hfirst⟩ := exists_bind q.bindings a.2
    have hset : q.set a.1 a.2 = ⟨⟨q.clauses.table,
        assign a.1 (markerOf (name, a.2)) q.clauses.assignments, q.clauses.conditions⟩, b⟩ := by
      rw [UpdateDraft.set, hbind]
    obtain ⟨stored, b', hrest, hvalues, hfold⟩ := ih (q.set a.1 a.2)
    rw [hset] at hrest hfold
    refine ⟨(name, a.2) :: stored, b', hfirst.append hrest, ?_, ?_⟩
    · rw [List.map_cons, List.map_cons, hvalues]
    · rw [List.foldl_cons, hset, hfold]
      rfl

/-- **Assignments** are a step, and keep the clauses well formed. -/
theorem UpdateDraft.assign_step {d : Dialect} {q : UpdateDraft} {c : Call}
    (hq : q.clauses.WellFormed d) (hs : ∀ a ∈ c.settings, a.1.IsQuiet) (ho : c.operands = [])
    (hr : c.rawParameters = []) (hm : ∀ stored, Taken.mentions d ⟨c, stored⟩ = []) :
    ∃ stored, Draft.Step d (.update q) ⟨c, stored⟩
        (.update (c.settings.foldl (fun q a => q.set a.1 a.2) q)) ∧
      (c.settings.foldl (fun q a => q.set a.1 a.2) q).clauses.WellFormed d := by
  obtain ⟨stored, b', hstored, hvalues, hfold⟩ := UpdateDraft.exists_assigned q c.settings
  rw [hfold]
  refine ⟨stored, ⟨?_, ?_, ?_, rfl⟩, ?_⟩
  · exact remembers_of_stored hstored hr
  · rw [Call.supplied, ho]
    exact hvalues
  · rw [hm, List.append_nil]
    rfl
  · refine ⟨hq.table, fun a ha => ?_, hq.conditions⟩
    rcases mem_assignAll ha with ha | ha
    · obtain ⟨b, hb, rfl⟩ := List.mem_map.mp ha
      obtain ⟨hcolumn, hp⟩ := List.of_mem_zip hb
      obtain ⟨setting, hsetting, hfst⟩ := List.mem_map.mp hcolumn
      refine ⟨?_, isNamed_markerOf (hstored.generated b.2 hp)⟩
      rw [← hfst]
      exact hs setting hsetting
    · exact hq.assignments a ha

theorem isQuiet_of_mem_settings {c : Call} (hn : c.namesOnly) :
    ∀ a ∈ c.settings, a.1.IsQuiet := by
  have hnames := ((Bool.and_eq_true _ _).mp hn).1
  intro a ha
  cases c with
  | set column value =>
    rw [List.mem_singleton.mp ha]
    exact isQuiet_of_isName (List.all_eq_true.mp hnames column List.mem_cons_self)
  | setValues entries =>
    obtain ⟨p, -, rfl⟩ := List.mem_map.mp ha
    trivial
  | _ => cases ha

/-- **A call on an `UPDATE`** is a step, and keeps its clauses well formed. -/
theorem UpdateDraft.exists_step {d : Dialect} {q q' : UpdateDraft} {c : Call}
    (hq : q.clauses.WellFormed d) (hn : c.namesOnly) (hc : c.IsClosed d)
    (h : q.apply c = .ok q') :
    ∃ stored, Draft.Step d (.update q) ⟨c, stored⟩ (.update q') ∧ q'.clauses.WellFormed d := by
  have hsettings := isQuiet_of_mem_settings hn
  cases c with
  | compare conjunction column operator value =>
    rw [UpdateDraft.apply] at h
    obtain ⟨f', hf, rfl⟩ := except_map_eq_ok (ofExcept_eq_ok h)
    have hcolumn : column.IsQuiet := by
      have hnames := ((Bool.and_eq_true _ _).mp hn).1
      exact isQuiet_of_isName (List.all_eq_true.mp hnames column List.mem_cons_self)
    obtain ⟨stored, hs⟩ := Filter.compare_step (d := d) hcolumn hf
    exact ⟨stored, hs.draft rfl rfl rfl rfl rfl,
      ⟨hq.table, hq.assignments, hs.wellFormed hq.conditions⟩⟩
  | whereRaw expression parameters =>
    rw [UpdateDraft.apply] at h
    obtain ⟨f', hf, rfl⟩ := map_eq_ok h
    have hs := Filter.whereRaw_step (d := d) hc hf
    exact ⟨[], hs.draft rfl rfl rfl rfl rfl,
      ⟨hq.table, hq.assignments, hs.wellFormed hq.conditions⟩⟩
  | set column value =>
    cases h
    exact UpdateDraft.assign_step hq hsettings rfl rfl fun _ => rfl
  | setValues entries =>
    rw [UpdateDraft.apply] at h
    cases h
    have hfold : q.setValues entries =
        (Call.setValues entries).settings.foldl (fun q a => q.set a.1 a.2) q := by
      rw [UpdateDraft.setValues, Call.settings, List.foldl_map]
    rw [hfold]
    exact UpdateDraft.assign_step hq hsettings rfl rfl fun _ => rfl
  | _ => cases h

end TaggedSql.Query
