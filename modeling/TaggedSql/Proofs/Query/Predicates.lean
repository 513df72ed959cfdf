/-
  One predicate for each call.

  1. **Added conditions** — `c.Adds k` says that `k` is the condition that the call `c` makes: what
     a comparison tests, behind the conjunction of the call, or the SQL of a raw condition.

  2. **Runs** (`Builder.adds_after`) — every comparison and every raw condition that is taken adds
     its one condition at the end, and nothing else touches the conditions.

  3. **The statement** (`predicates_stay_apart`) — the written conditions, split at the conjunctions
     outside of all tokens and all parentheses, are the conditions as each is written alone, one for
     every such call and in the order of the calls.  What a raw condition holds, or a column is
     called, makes no difference, as long as raw SQL closes what it opens.
-/
import TaggedSql.Proofs.Sql.Predicates

namespace TaggedSql.Query

open TaggedSql.Placeholder TaggedSql.Sql

/-! ## Added conditions -/

/-- Whether a call adds a condition. -/
def Call.isFilter : Call → Bool
  | .compare .. | .whereRaw .. => true
  | _ => false

/-- The word in front of the condition that a call adds. -/
def Call.conjunction : Call → String
  | .compare conjunction .. => conjunction.text
  | _ => Conjunction.and.text

/-- `c.Adds k`: the condition that the call `c` makes is `k`.  Without a value the operator is the
    value, and the comparison is for equality. -/
def Call.Adds : Call → Condition → Prop
  | .compare conjunction column operator value, k =>
    k.conjunction = conjunction.text ∧ ∃ b b' : Bindings,
      comparison column (value.elim (.text "=") fun _ => operator) (value.getD operator) b =
        .ok (k.test, b')
  | .whereRaw expression _, k => k = ⟨Conjunction.and.text, .raw expression⟩
  | _, _ => False

/-- Whether a call names the column that it tests, and closes the quotes, comments and parentheses
    that its SQL opens. -/
def Call.IsSelfContained (d : Dialect) : Call → Prop
  | .compare _ column _ _ => isName column
  | .whereRaw expression _ =>
    Closed d.lexing expression.toList ∧ ParensMatch d.lexing expression.toList
  | _ => True

theorem Call.Adds.conjunction_eq {c : Call} {k : Condition} (h : c.Adds k) :
    k.conjunction = c.conjunction := by
  cases c with
  | compare conjunction column operator value => exact h.1
  | whereRaw expression parameters =>
    rw [show k = ⟨Conjunction.and.text, .raw expression⟩ from h]
    rfl
  | _ => exact h.elim

theorem Call.Adds.isSelfContained {d : Dialect} {c : Call} {k : Condition} (h : c.Adds k)
    (hc : c.IsSelfContained d) : k.test.IsSelfContained d := by
  cases c with
  | compare conjunction column operator value =>
    obtain ⟨-, b, b', hcomparison⟩ := h
    obtain ⟨stored, op, -, -, htest, -⟩ := comparison_cases hcomparison
    rw [show k.test = .column column op (stored.map markerOf) from htest]
    exact hc
  | whereRaw expression parameters =>
    rw [show k = ⟨Conjunction.and.text, .raw expression⟩ from h]
    exact hc
  | _ => exact h.elim

theorem conjunctions_of_adds {cs : List Call} {ks : List Condition}
    (h : List.Forall₂ Call.Adds cs ks) :
    ks.map Condition.conjunction = cs.map Call.conjunction := by
  induction h with
  | nil => rfl
  | cons hadds _ ih => rw [List.map_cons, List.map_cons, hadds.conjunction_eq, ih]

theorem isSelfContained_of_adds {d : Dialect} {cs : List Call} {ks : List Condition}
    (h : List.Forall₂ Call.Adds cs ks) (hc : ∀ c ∈ cs, c.IsSelfContained d) :
    ∀ k ∈ ks, k.test.IsSelfContained d := by
  induction h with
  | nil => simp
  | cons hadds _ ih =>
    obtain ⟨hfirst, hrest⟩ := List.forall_mem_cons.mp hc
    exact List.forall_mem_cons.mpr ⟨hadds.isSelfContained hfirst, ih hrest⟩

/-! ## Runs -/

/-- `AddsTo c fault ks ls`: the call `c`, made on conditions `ks` and stopped by `fault` if by any,
    leads to the conditions `ls`. -/
inductive AddsTo (c : Call) (fault : Option Fault) (ks : List Condition) : List Condition → Prop
  | taken (k : Condition) : fault = none → c.Adds k → AddsTo c fault ks (ks ++ [k])
  | idle : c.isFilter = false → AddsTo c fault ks ks
  | refused : fault.isSome → AddsTo c fault ks ks

theorem Call.Adds.isFilter_eq {c : Call} {k : Condition} (h : c.Adds k) : c.isFilter = true := by
  cases c with
  | compare | whereRaw => rfl
  | _ => exact h.elim

/-- A comparison that is taken adds its condition. -/
theorem Filter.adds_compare {f f' : Filter} {conjunction : Conjunction} {column : Identifier}
    {operator : Value} {value : Option Value}
    (h : f.compare conjunction column operator value = .ok f') :
    ∃ k, (Call.compare conjunction column operator value).Adds k ∧
      f'.conditions = f.conditions ++ [k] := by
  unfold Filter.compare at h
  cases value with
  | none =>
    obtain ⟨r, hr, rfl⟩ := except_map_eq_ok h
    exact ⟨⟨conjunction.text, r.1⟩, ⟨rfl, f.bindings, r.2, hr⟩, rfl⟩
  | some v =>
    obtain ⟨r, hr, rfl⟩ := except_map_eq_ok h
    exact ⟨⟨conjunction.text, r.1⟩, ⟨rfl, f.bindings, r.2, hr⟩, rfl⟩

/-- A raw condition is added, or it is refused; its parameters may stay then, but nothing else. -/
theorem Filter.addsTo_whereRaw (f : Filter) (expression : String)
    (parameters : List (String × Value)) :
    AddsTo (.whereRaw expression parameters) (f.whereRaw expression parameters).fault f.conditions
      (f.whereRaw expression parameters).state.conditions := by
  unfold Filter.whereRaw
  split
  · exact .refused rfl
  · exact .taken _ rfl rfl

/-- An attempt that adds a condition when it goes through, and leaves its state when it does not. -/
theorem addsTo_ofExcept {σ : Type} (conditions : σ → List Condition) {s : σ} {r : Except Fault σ}
    {c : Call} (h : ∀ s', r = .ok s' → ∃ k, c.Adds k ∧ conditions s' = conditions s ++ [k]) :
    AddsTo c (Attempt.ofExcept s r).fault (conditions s)
      (conditions (Attempt.ofExcept s r).state) := by
  cases r with
  | error fault => exact .refused rfl
  | ok s' =>
    obtain ⟨k, hk, hconditions⟩ := h s' rfl
    show AddsTo c none (conditions s) (conditions s')
    rw [hconditions]
    exact .taken k rfl hk

/-- The other calls on a `SELECT` leave the conditions alone. -/
theorem SelectDraft.conditions_apply {c : Call} (h : c.isFilter = false) (q : SelectDraft) :
    (q.apply c).state.clauses.conditions = q.clauses.conditions := by
  have hkeep : ∀ r : Except Fault SelectDraft,
      (∀ q', r = .ok q' → q'.clauses.conditions = q.clauses.conditions) →
      (Attempt.ofExcept q r).state.clauses.conditions = q.clauses.conditions := by
    intro r hr
    exact ofExcept_state
      (P := fun q' : SelectDraft => q'.clauses.conditions = q.clauses.conditions) rfl hr
  cases c with
  | compare | whereRaw => cases h
  | join table left right kind label =>
    refine hkeep _ fun q' hjoin => ?_
    obtain ⟨-, rfl⟩ := SelectDraft.join_cases hjoin
    rfl
  | orderBy column direction =>
    refine hkeep _ fun q' horder => ?_
    obtain ⟨-, rfl⟩ := SelectDraft.orderBy_cases horder
    rfl
  | limit value | offset value =>
    refine hkeep _ fun q' hcount => ?_
    obtain ⟨n, -, rfl⟩ := except_map_eq_ok hcount
    rfl
  | _ => rfl

/-- Assignments leave the conditions alone. -/
theorem UpdateDraft.conditions_setValues (q : UpdateDraft) (entries : List (String × Value)) :
    (q.setValues entries).clauses.conditions = q.clauses.conditions := by
  obtain ⟨stored, b, -, -, hfold⟩ :=
    UpdateDraft.exists_assigned q (entries.map fun p => (Identifier.name p.1, p.2))
  rw [UpdateDraft.setValues_eq_foldl, hfold]

theorem SelectDraft.addsTo_apply (q : SelectDraft) (c : Call) :
    AddsTo c (q.apply c).fault q.clauses.conditions (q.apply c).state.clauses.conditions := by
  cases hc : c.isFilter with
  | false =>
    rw [SelectDraft.conditions_apply hc]
    exact .idle hc
  | true =>
    cases c with
    | compare conjunction column operator value =>
      rw [SelectDraft.apply]
      refine addsTo_ofExcept (fun q => q.clauses.conditions) (s := q) fun q' hq' => ?_
      obtain ⟨f', hf', rfl⟩ := except_map_eq_ok hq'
      exact Filter.adds_compare (f := q.filter) hf'
    | whereRaw expression parameters => exact q.filter.addsTo_whereRaw expression parameters
    | _ => cases hc

theorem UpdateDraft.addsTo_apply (q : UpdateDraft) (c : Call) :
    AddsTo c (q.apply c).fault q.clauses.conditions (q.apply c).state.clauses.conditions := by
  cases c with
  | compare conjunction column operator value =>
    rw [UpdateDraft.apply]
    refine addsTo_ofExcept (fun q => q.clauses.conditions) (s := q) fun q' hq' => ?_
    obtain ⟨f', hf', rfl⟩ := except_map_eq_ok hq'
    exact Filter.adds_compare (f := q.filter) hf'
  | whereRaw expression parameters => exact q.filter.addsTo_whereRaw expression parameters
  | setValues entries =>
    have hkeep : (q.apply (.setValues entries)).state.clauses.conditions = q.clauses.conditions :=
      q.conditions_setValues entries
    rw [hkeep]
    exact .idle rfl
  | _ => exact .idle rfl

/-- **What one call does to the conditions.** -/
theorem Draft.addsTo_apply (q : Draft) (c : Call) :
    AddsTo c (q.apply c).fault q.conditions (q.apply c).state.conditions := by
  cases q with
  | select q => exact q.addsTo_apply c
  | insert q =>
    cases hc : c.isFilter with
    | false => exact .idle hc
    | true =>
      cases c with
      | compare | whereRaw => exact .refused rfl
      | _ => cases hc
  | update q => exact q.addsTo_apply c

/-- A builder does to the conditions what its draft does, or nothing. -/
theorem Builder.addsTo_apply (b : Builder) (c : Call) :
    AddsTo c (b.apply c).fault b.draft.conditions (b.apply c).state.draft.conditions := by
  rw [Builder.apply]
  split_ifs with hunknown hfrozen
  · exact .refused rfl
  · exact .refused rfl
  · exact b.draft.addsTo_apply c

/-- **Runs.**  The conditions that calls have added are those of the filtering calls that were
    accepted, in order. -/
theorem Builder.adds_after (b : Builder) (calls : List Call) :
    ∃ added, List.Forall₂ Call.Adds ((b.accepted calls).filter Call.isFilter) added ∧
      (b.after calls).draft.conditions = b.draft.conditions ++ added := by
  induction calls generalizing b with
  | nil => exact ⟨[], .nil, (List.append_nil _).symm⟩
  | cons c calls ih =>
    obtain ⟨added, hadds, hconditions⟩ := ih (b.apply c).state
    have hstep := b.addsTo_apply c
    rw [Builder.after_cons, hconditions, Builder.accepted]
    generalize (b.apply c).state.draft.conditions = reached at hstep
    cases hstep with
    | taken k htaken hk =>
      refine ⟨k :: added, ?_, List.append_assoc ..⟩
      rw [htaken, if_pos Option.isNone_none, List.filter_cons_of_pos hk.isFilter_eq]
      exact .cons hk hadds
    | idle hidle =>
      refine ⟨added, ?_, rfl⟩
      split
      · rwa [List.filter_cons_of_neg (by rw [hidle]; decide)]
      · exact hadds
    | refused hrefused =>
      refine ⟨added, ?_, rfl⟩
      rwa [if_neg (by rw [Option.isNone_eq_false_iff.mpr hrefused]; decide)]

theorem Opening.conditions_draft (o : Opening) : o.draft.conditions = [] := by
  cases o with
  | select columns | insert table columns => rfl
  | update table values => exact UpdateDraft.conditions_setValues _ values

/-! ## The statement -/

/-- **Predicates stay apart.**  Split at the conjunctions outside of all tokens and all parentheses,
    the written conditions are those that the accepted calls have added, each as it is written alone
    and behind its own conjunction.  The raw conditions have to be self-contained; how a conjunction
    may be spelled is up to the reader. -/
theorem predicates_stay_apart {d : Dialect} {o : Opening} {calls : List Call}
    (h : ∀ c ∈ (Builder.start d o.draft).accepted calls, c.IsSelfContained d) :
    ∃ conditions fs, ((Builder.start d o.draft).after calls).draft.conditions = conditions ∧
      List.Forall₂ Call.Adds
        (((Builder.start d o.draft).accepted calls).filter Call.isFilter) conditions ∧
      conditionsLayout? conditions = some fs ∧ ∀ anyCase,
        (split anyCase d.lexing (write d fs)).1.map some =
          (conditions.map fun k => (testLayout? k.test).map (write d)) ∧
        (split anyCase d.lexing (write d fs)).2 =
          ((((Builder.start d o.draft).accepted calls).filter Call.isFilter).map
            Call.conjunction).tail := by
  obtain ⟨added, hadds, hconditions⟩ := (Builder.start d o.draft).adds_after calls
  have hadded : ((Builder.start d o.draft).after calls).draft.conditions = added :=
    hconditions.trans (congrArg (· ++ added) o.conditions_draft)
  have hsupported : ∀ k ∈ added, k.IsSupported := by
    have hrun := Builder.isSupported_after d o calls
    rw [← hadded]
    generalize ((Builder.start d o.draft).after calls).draft = q at hrun
    cases q with
    | select q => exact hrun.conditions
    | insert q => simp [Draft.conditions]
    | update q => exact hrun.conditions
  have hcontained := isSelfContained_of_adds hadds fun c hc => h c (List.mem_filter.mp hc).1
  obtain ⟨fs, hfs, hsplit⟩ := split_conditions (d := d) fun k hk =>
    ⟨hsupported k hk, hcontained k hk⟩
  refine ⟨added, fs, hadded, hadds, hfs, fun anyCase => ⟨(hsplit anyCase).1, ?_⟩⟩
  rw [(hsplit anyCase).2, conjunctions_of_adds hadds]

/-- A membership, a raw condition with conjunctions, parentheses and a literal of its own, and a
    test of a column that is called like a pair of conditions. -/
def mixedCalls : List Call :=
  [.compare .and (.name "t.a") (.text "in") (some (.collection .list [.int 1, .int 2])),
    .whereRaw "x = ')' OR (y AND z)" [], .compare .or (.name "b OR c") (.text "IS") (some .null)]

/-- The parenthesis in the literal does not count. -/
theorem parensMatch_mixedCalls :
    ParensMatch Dialect.sqlServer.lexing "x = ')' OR (y AND z)".toList := by
  have htext : "x = ')' OR (y AND z)".toList =
      "x = ".toList ++ (['\'', ')', '\''] ++ " OR (y AND z)".toList) := by decide
  have hliteral : lex Dialect.sqlServer.lexing ['\'', ')', '\''] =
      [.region .literal ['\'', ')', '\'']] := by
    have htoken : token? Dialect.sqlServer.lexing none ['\'', ')', '\''] =
      some (.region .literal ['\'', ')', '\''], []) := rfl
    rw [lex, lexemes_of_token htoken, lexemes_nil]
  -- a blank stands on either side of the literal
  have hfront : Apart "x = ".toList (['\'', ')', '\''] ++ " OR (y AND z)".toList) := by
    intro x hx y _
    obtain rfl : ' ' = x := Option.some.inj hx
    exact Or.inl rfl
  have hback : Apart ['\'', ')', '\''] " OR (y AND z)".toList := by
    intro x _ y hy
    obtain rfl : ' ' = y := Option.some.inj hy
    exact Or.inr rfl
  rw [ParensMatch, htext, lex_append_of_apart (by decide) hfront,
    lex_append_of_apart (by decide) hback, hliteral,
    lex_of_inert (s := "x = ".toList) (List.all_eq_true.mp rfl) (by decide),
    lex_of_inert (s := " OR (y AND z)".toList) (List.all_eq_true.mp rfl) (by decide)]
  decide

/-- The mixed calls make three predicates. -/
theorem predicates_of_mixedCalls :
    (Builder.start .sqlServer (Opening.select []).draft).accepted mixedCalls = mixedCalls ∧
      ∃ fs, conditionsLayout?
          ((Builder.start .sqlServer (Opening.select []).draft).after mixedCalls).draft.conditions =
            some fs ∧
        ∀ anyCase, split anyCase Dialect.sqlServer.lexing (write .sqlServer fs) =
          (["[t].[a] IN (i:param_0, i:param_1)", "(x = ')' OR (y AND z))", "[b OR c] IS NULL"],
            ["AND", "OR"]) := by
  have haccepted :
      (Builder.start .sqlServer (Opening.select []).draft).accepted mixedCalls = mixedCalls := rfl
  have hcontained : ∀ c ∈ (Builder.start .sqlServer (Opening.select []).draft).accepted mixedCalls,
      c.IsSelfContained .sqlServer := by
    rw [haccepted]
    refine List.forall_mem_cons.mpr ⟨rfl, List.forall_mem_cons.mpr ⟨⟨?_, ?_⟩,
      List.forall_mem_singleton.mpr rfl⟩⟩
    · show Closed Dialect.sqlServer.lexing "x = ')' OR (y AND z)".toList
      decide
    · exact parensMatch_mixedCalls
  obtain ⟨conditions, fs, hconditions, -, hfs, hsplit⟩ := predicates_stay_apart hcontained
  have hmade : conditions =
      [⟨"AND", .column (.name "t.a") "IN"
          [.tagged .int (parameterName 0), .tagged .int (parameterName 1)]⟩,
        ⟨"AND", .raw "x = ')' OR (y AND z)"⟩, ⟨"OR", .column (.name "b OR c") "IS" []⟩] :=
    hconditions.symm
  refine ⟨haccepted, fs, hconditions ▸ hfs, fun anyCase => ?_⟩
  obtain ⟨hpieces, hwords⟩ := hsplit anyCase
  rw [hmade] at hpieces
  have htexts : (split anyCase Dialect.sqlServer.lexing (write .sqlServer fs)).1.map some =
      ["[t].[a] IN (i:param_0, i:param_1)", "(x = ')' OR (y AND z))",
        "[b OR c] IS NULL"].map some :=
    hpieces.trans (by decide +kernel)
  exact Prod.ext ((List.map_inj_right fun _ _ h => Option.some.inj h).mp htexts) hwords

end TaggedSql.Query
