/-
  Values do not show in the text of a statement.

  1. **Alike values, rows and calls** — what of a value a statement may show: whether it is absent,
     whether it is a collection and of how many items, and under which type it is bound.  Calls are
     alike when they are the same but for values of which all this is the same.

  2. **Alike bindings** — the same names and the same next name.  They stay alike when alike values
     are bound, and the markers are the same (`Bindings.Alike.bind`, `Bindings.Alike.bindAll`).

  3. **Calls** — alike calls on queries that differ in their bindings only lead to such queries
     (`Draft.Alike.apply`), one lemma per kind of query.

  4. **Runs** (`values_do_not_show`) — so two scripts of alike calls, all of them taken, build the
     same text with the same names.
-/
import TaggedSql.Proofs.Query.Refusals

namespace TaggedSql.Query

open TaggedSql.Sql

/-! ## Alike values, rows and calls -/

/-- Whether a value is compared with as a whole: it is neither absent nor a collection. -/
def isSingle : Value → Bool
  | .null | .collection .. => false
  | _ => true

/-- Two values that a comparison does not tell apart in its text. -/
inductive ValueAlike : Value → Value → Prop
  | absent : ValueAlike .null .null
  | items {kind kind' : CollectionKind} {vs ws : List Value}
      (h : vs.map BindType.infer = ws.map BindType.infer) :
      ValueAlike (.collection kind vs) (.collection kind' ws)
  | single {v w : Value} (hv : isSingle v) (hw : isSingle w)
      (h : BindType.infer v = BindType.infer w) : ValueAlike v w

/-- Entries with the types of their values. -/
def typed {α : Type} (entries : List (α × Value)) : List (α × BindType) :=
  entries.map fun e => (e.1, .infer e.2)

/-- Two rows of the same shape: mappings of the same keys, or sequences of the same length. -/
inductive RowAlike : Value → Value → Prop
  | mapping {entries entries' : List (Value × Value)} (h : typed entries = typed entries') :
      RowAlike (.mapping entries) (.mapping entries')
  | sequence {row row' : Value} {vs ws : List Value} (hv : sequence? row = some vs)
      (hw : sequence? row' = some ws) (h : vs.map BindType.infer = ws.map BindType.infer) :
      RowAlike row row'

/-- Whether a call binds no values. -/
def Call.isPlain : Call → Bool
  | .compare .. | .whereRaw .. | .values _ | .set .. | .setValues _ => false
  | _ => true

/-- Two calls that are the same but for the values that they bind. -/
inductive Call.Alike : Call → Call → Prop
  | compare {conjunction : Conjunction} {column : Identifier} {operator v w : Value}
      (h : ValueAlike v w) :
      Alike (.compare conjunction column operator (some v))
        (.compare conjunction column operator (some w))
  /-- Without an operator the value stands in its place. -/
  | equality {conjunction : Conjunction} {column : Identifier} {v w : Value} (h : ValueAlike v w) :
      Alike (.compare conjunction column v none) (.compare conjunction column w none)
  | whereRaw {expression : String} {ps qs : List (String × Value)}
      (h : ps.map Prod.fst = qs.map Prod.fst) :
      Alike (.whereRaw expression ps) (.whereRaw expression qs)
  | values {rows rows' : List Value} (h : List.Forall₂ RowAlike rows rows') :
      Alike (.values rows) (.values rows')
  | set {column : Identifier} {v w : Value} (h : BindType.infer v = BindType.infer w) :
      Alike (.set column v) (.set column w)
  | setValues {ps qs : List (String × Value)} (h : typed ps = typed qs) :
      Alike (.setValues ps) (.setValues qs)
  | plain {c : Call} (h : c.isPlain) : Alike c c

/-- Two ways to start a query that are the same but for the values that they bind. -/
inductive Opening.Alike : Opening → Opening → Prop
  | select (columns : List Identifier) : Alike (.select columns) (.select columns)
  | insert (table : Identifier) (columns : List Identifier) :
      Alike (.insert table columns) (.insert table columns)
  | update {table : Identifier} {ps qs : List (String × Value)} (h : typed ps = typed qs) :
      Alike (.update table ps) (.update table qs)

/-! ## Alike bindings -/

/-- Two bindings of the same names, which go on with the same generated names. -/
structure Bindings.Alike (b b' : Bindings) : Prop where
  names : b.names = b'.names
  counter : b.counter = b'.counter

theorem Bindings.Alike.refl (b : Bindings) : b.Alike b := ⟨rfl, rfl⟩

/-- The names after a value is put under one of them. -/
theorem names_putEntry (name : String) (v : Value) (es : List (String × Value)) :
    (putEntry name v es).map Prod.fst =
      if name ∈ es.map Prod.fst then es.map Prod.fst else es.map Prod.fst ++ [name] := by
  induction es with
  | nil => rfl
  | cons p rest ih =>
    by_cases hp : p.1 = name
    · simp [putEntry, hp]
    · rw [putEntry, if_neg hp, List.map_cons, ih]
      split_ifs <;> simp_all

theorem Bindings.Alike.put {b b' : Bindings} (h : b.Alike b') (name : String) (v w : Value) :
    (b.put name v).Alike (b'.put name w) := by
  refine ⟨?_, h.counter⟩
  show (putEntry name v b.entries).map Prod.fst = (putEntry name w b'.entries).map Prod.fst
  rw [names_putEntry, names_putEntry]
  exact congrArg (fun names => if name ∈ names then names else names ++ [name]) h.names

theorem Bindings.Alike.next {b b' : Bindings} (h : b.Alike b') : b.next = b'.next := by
  have hlength : b.entries.length = b'.entries.length := by
    simpa [Bindings.names] using congrArg List.length h.names
  rw [Bindings.next, Bindings.next, h.names, hlength, h.counter]

/-- **Binding** values of the same type gives the same marker. -/
theorem Bindings.Alike.bind {b b' : Bindings} (h : b.Alike b') {v w : Value}
    (ht : BindType.infer v = BindType.infer w) :
    (b.bind v).1 = (b'.bind w).1 ∧ (b.bind v).2.Alike (b'.bind w).2 := by
  have hput := h.put (parameterName b.next) v w
  simp only [Bindings.bind, ← h.next, ht, true_and]
  exact ⟨hput.names, rfl⟩

theorem Bindings.Alike.bindAll {b b' : Bindings} (h : b.Alike b') {vs ws : List Value}
    (ht : vs.map BindType.infer = ws.map BindType.infer) :
    (b.bindAll vs).1 = (b'.bindAll ws).1 ∧ (b.bindAll vs).2.Alike (b'.bindAll ws).2 := by
  induction vs generalizing b b' ws with
  | nil =>
    obtain rfl := List.map_eq_nil_iff.mp ht.symm
    exact ⟨rfl, h⟩
  | cons v vs ih =>
    obtain ⟨w, ws, rfl, hw, hws⟩ := List.map_eq_cons_iff.mp ht.symm
    obtain ⟨hmarker, hfirst⟩ := h.bind hw.symm
    obtain ⟨hmarkers, hrest⟩ := ih hfirst hws.symm
    refine ⟨?_, hrest⟩
    rw [Bindings.bindAll, Bindings.bindAll, hmarker, hmarkers]

/-- Named parameters that are all bound leave bindings alike, whatever their values. -/
theorem Bindings.Alike.bindNamed {b b' s s' : Bindings} (h : b.Alike b')
    {ps qs : List (String × Value)} (hnames : ps.map Prod.fst = qs.map Prod.fst)
    (hs : Query.bindNamed b ps = (s, none)) (hs' : Query.bindNamed b' qs = (s', none)) :
    s.Alike s' := by
  induction ps generalizing b b' qs with
  | nil =>
    obtain rfl := List.map_eq_nil_iff.mp hnames.symm
    cases hs
    cases hs'
    exact h
  | cons p ps ih =>
    obtain ⟨q, qs, rfl, hname, hrest⟩ := List.map_eq_cons_iff.mp hnames.symm
    obtain ⟨name, v⟩ := p
    obtain ⟨_, w⟩ := q
    obtain rfl : _ = name := hname
    rw [Query.bindNamed] at hs hs'
    -- no name is in conflict on either side, and what is put under it does not show
    split at hs
    · cases hs
    · split at hs'
      · cases hs'
      · exact ih (h.put _ v w) hrest.symm hs hs'

/-! ## Conditions -/

/-- A comparison with a value as a whole binds it, unless the operator wants a collection or
    nothing. -/
theorem comparisonBy_single {v : Value} (hv : isSingle v) (column : Identifier) (operator : String)
    (b : Bindings) :
    comparisonBy column operator v b =
      if !operators.contains (normalized operator) then .error (.unknownOperator operator)
      else if normalized operator = "IN" ∨ normalized operator = "NOT IN" ∨
          normalized operator = "IS" ∨ normalized operator = "IS NOT" then
        .error (.listExpected (normalized operator) v)
      else .ok (.column column (normalized operator) [(b.bind v).1], (b.bind v).2) := by
  cases v with
  | null | collection => cases hv
  | _ => rfl

/-- Comparisons by one operator with alike values make the same test. -/
theorem Bindings.Alike.comparisonBy {b b' : Bindings} (hb : b.Alike b') {v w : Value}
    (h : ValueAlike v w) {column : Identifier} {operator : String} {r r' : Test × Bindings}
    (hr : Query.comparisonBy column operator v b = .ok r)
    (hr' : Query.comparisonBy column operator w b' = .ok r') :
    r.1 = r'.1 ∧ r.2.Alike r'.2 := by
  cases h with
  | absent =>
    unfold Query.comparisonBy at hr hr'
    -- the cases are those of the normalized operator; how it comes about does not matter
    generalize normalized operator = op at hr hr'
    dsimp only at hr hr'
    split at hr
    · cases hr
    · next hop =>
      rw [if_neg hop] at hr'
      split at hr
      · next positive hpositive =>
        rw [hpositive] at hr'
        cases hr
        cases hr'
        exact ⟨rfl, hb⟩
      · cases hr
  | items htypes =>
    unfold Query.comparisonBy at hr hr'
    generalize normalized operator = op at hr hr'
    dsimp only at hr hr'
    split at hr
    · cases hr
    · next hop =>
      rw [if_neg hop] at hr'
      split at hr
      · next positive hpositive =>
        rw [hpositive] at hr'
        cases hr
        cases hr'
        obtain ⟨hmarkers, hbound⟩ := hb.bindAll htypes
        exact ⟨by rw [hmarkers], hbound⟩
      · cases hr
  | single hv hw htype =>
    rw [comparisonBy_single hv] at hr
    rw [comparisonBy_single hw] at hr'
    split_ifs at hr hr' with hop hlist
    cases hr
    cases hr'
    obtain ⟨hmarker, hbound⟩ := hb.bind htype
    exact ⟨by rw [hmarker], hbound⟩

/-- **Comparisons** with alike values make the same test. -/
theorem Bindings.Alike.comparison {b b' : Bindings} (hb : b.Alike b') {v w : Value}
    (h : ValueAlike v w) {column : Identifier} {operator : Value} {r r' : Test × Bindings}
    (hr : Query.comparison column operator v b = .ok r)
    (hr' : Query.comparison column operator w b' = .ok r') :
    r.1 = r'.1 ∧ r.2.Alike r'.2 := by
  obtain ⟨text, htext, hby⟩ := exists_comparisonBy hr
  obtain ⟨text', htext', hby'⟩ := exists_comparisonBy hr'
  obtain rfl : text = text' := Option.some.inj (htext.symm.trans htext')
  exact hb.comparisonBy h hby hby'

/-- Two filters with the same conditions and alike bindings. -/
structure Filter.Alike (f f' : Filter) : Prop where
  bindings : f.bindings.Alike f'.bindings
  conditions : f.conditions = f'.conditions

/-- What a comparison compares with, and how. -/
def comparands (operator : Value) : Option Value → Value × Value
  | some v => (operator, v)
  | none => (.text "=", operator)

theorem Filter.compare_eq (f : Filter) (conjunction : Conjunction) (column : Identifier)
    (operator : Value) (value : Option Value) :
    f.compare conjunction column operator value =
      (comparison column (comparands operator value).1 (comparands operator value).2
        f.bindings).map fun r => ⟨r.2, f.conditions ++ [⟨conjunction.text, r.1⟩]⟩ := by
  cases value <;> rfl

theorem Filter.Alike.compare {f f' s s' : Filter} (h : f.Alike f')
    {conjunction conjunction' : Conjunction} {column column' : Identifier}
    {operator operator' : Value} {value value' : Option Value}
    (hc : (Call.compare conjunction column operator value).Alike
      (.compare conjunction' column' operator' value'))
    (hs : f.compare conjunction column operator value = .ok s)
    (hs' : f'.compare conjunction' column' operator' value' = .ok s') : s.Alike s' := by
  rw [Filter.compare_eq] at hs hs'
  obtain ⟨r, hr, rfl⟩ := except_map_eq_ok hs
  obtain ⟨r', hr', rfl⟩ := except_map_eq_ok hs'
  have hbound : r.1 = r'.1 ∧ r.2.Alike r'.2 := by
    cases hc with
    | compare hvalue => exact h.bindings.comparison hvalue hr hr'
    | equality hvalue => exact h.bindings.comparison hvalue hr hr'
    | plain hplain => cases hplain
  have hconjunction : conjunction = conjunction' := by
    cases hc <;> rfl
  exact ⟨hbound.2, by rw [h.conditions, hbound.1, hconjunction]⟩

theorem Filter.Alike.whereRaw {f f' s s' : Filter} (h : f.Alike f') {expression : String}
    {ps qs : List (String × Value)} (hnames : ps.map Prod.fst = qs.map Prod.fst)
    (hs : f.whereRaw expression ps = .ok s) (hs' : f'.whereRaw expression qs = .ok s') :
    s.Alike s' := by
  unfold Filter.whereRaw at hs hs'
  split at hs
  · cases hs
  · next hbound =>
    split at hs'
    · cases hs'
    · next hbound' =>
      cases hs
      cases hs'
      exact ⟨h.bindings.bindNamed hnames hbound hbound', by rw [h.conditions]⟩

/-! ## Rows -/

/-- The type of the value under a key does not depend on the value. -/
theorem infer_entry (entries : List (Value × Value)) (key : Value) :
    BindType.infer (entry entries key) =
      (((typed entries).find? fun e => e.1.same key).map Prod.snd).getD .text := by
  rw [typed, List.find?_map, entry]
  show _ = (((entries.find? fun e => e.1.same key).map fun e => (e.1, BindType.infer e.2)).map
    Prod.snd).getD .text
  cases entries.find? fun e => e.1.same key <;> rfl

theorem typed_keys {α : Type} (entries : List (α × Value)) :
    (typed entries).map Prod.fst = entries.map Prod.fst := by
  rw [typed, List.map_map]
  rfl

theorem typed_types {α : Type} (entries : List (α × Value)) :
    (typed entries).map Prod.snd = (entries.map Prod.snd).map BindType.infer := by
  rw [typed, List.map_map, List.map_map]
  rfl

/-- `q.Alike q'`: the `INSERT` `q'` is `q` with other values. -/
structure InsertDraft.Alike (q q' : InsertDraft) : Prop where
  table : q.table = q'.table
  columns : q.columns = q'.columns
  rows : q.rows = q'.rows
  bindings : q.bindings.Alike q'.bindings

theorem InsertDraft.Alike.bindRow {q q' : InsertDraft} (h : q.Alike q') {vs ws : List Value}
    (ht : vs.map BindType.infer = ws.map BindType.infer) :
    (q.bindRow vs).1 = (q'.bindRow ws).1 ∧ (q.bindRow vs).2.Alike (q'.bindRow ws).2 := by
  obtain ⟨hmarkers, hbound⟩ := h.bindings.bindAll ht
  exact ⟨hmarkers, h.table, h.columns, h.rows, hbound⟩

theorem InsertDraft.Alike.mappingRow {q q' : InsertDraft} (h : q.Alike q')
    {entries entries' : List (Value × Value)} (ht : typed entries = typed entries')
    {r r' : List Marker × InsertDraft} (hr : q.mappingRow entries = .ok r)
    (hr' : q'.mappingRow entries' = .ok r') : r.1 = r'.1 ∧ r.2.Alike r'.2 := by
  have hkeys : entries.map Prod.fst = entries'.map Prod.fst := by
    rw [← typed_keys, ht, typed_keys]
  have hvalues : (entries.map Prod.snd).map BindType.infer =
      (entries'.map Prod.snd).map BindType.infer := by
    rw [← typed_types, ht, typed_types]
  have hentries : (q.columns.map (entry entries)).map BindType.infer =
      (q.columns.map (entry entries')).map BindType.infer := by
    rw [List.map_map, List.map_map]
    refine List.map_congr_left fun column _ => ?_
    rw [Function.comp_apply, Function.comp_apply, infer_entry, infer_entry, ht]
  simp only [InsertDraft.mappingRow, ← h.columns, ← hkeys] at hr hr'
  split at hr
  · next hempty =>
    -- the keys become the columns
    rw [if_pos hempty] at hr'
    cases hr
    cases hr'
    have hnew : InsertDraft.Alike { q with columns := entries.map Prod.fst }
        { q' with columns := entries.map Prod.fst } := ⟨h.table, rfl, h.rows, h.bindings⟩
    exact hnew.bindRow hvalues
  · next hempty =>
    rw [if_neg hempty] at hr'
    -- the keys match the columns on both sides, as they are the same keys
    split at hr
    · next hsame =>
      rw [if_pos hsame] at hr'
      cases hr
      cases hr'
      exact h.bindRow hentries
    · split at hr <;> cases hr

/-- A sequence that is taken has its members bound. -/
theorem InsertDraft.row_sequence {q : InsertDraft} {row : Value} {vs : List Value}
    (hv : sequence? row = some vs) {r : List Marker × InsertDraft} (h : q.row row = .ok r) :
    r = q.bindRow vs := by
  unfold InsertDraft.row at h
  split at h
  · cases hv
  · rw [hv] at h
    dsimp only at h
    split at h
    · cases h
      rfl
    · cases h

/-- **Rows** of the same shape store alike values. -/
theorem InsertDraft.Alike.row {q q' : InsertDraft} (h : q.Alike q') {row row' : Value}
    (hrow : RowAlike row row') {r r' : List Marker × InsertDraft} (hr : q.row row = .ok r)
    (hr' : q'.row row' = .ok r') : r.1 = r'.1 ∧ r.2.Alike r'.2 := by
  cases hrow with
  | mapping ht => exact h.mappingRow ht hr hr'
  | @sequence _ _ vs ws hv hw ht =>
    rw [InsertDraft.row_sequence hv hr, InsertDraft.row_sequence hw hr']
    exact h.bindRow ht

theorem InsertDraft.Alike.takeRows {q q' s s' : InsertDraft} (h : q.Alike q') {rows rows' : List Value}
    (hrows : List.Forall₂ RowAlike rows rows') {markers markers' : List (List Marker)}
    (hs : q.takeRows rows = (s, .ok markers)) (hs' : q'.takeRows rows' = (s', .ok markers')) :
    markers = markers' ∧ s.Alike s' := by
  induction hrows generalizing q q' markers markers' with
  | nil =>
    cases hs
    cases hs'
    exact ⟨rfl, h⟩
  | cons hrow _ ih =>
    rw [InsertDraft.takeRows] at hs hs'
    split at hs
    · cases hs
    · next first q₁ hfirst =>
      split at hs'
      · cases hs'
      · next first' q₁' hfirst' =>
        obtain ⟨hmarkers, halike⟩ := h.row hrow hfirst hfirst'
        obtain ⟨hstate, hall⟩ := Prod.mk.inj hs
        obtain ⟨hstate', hall'⟩ := Prod.mk.inj hs'
        obtain ⟨rest, hrest, rfl⟩ := except_map_eq_ok hall
        obtain ⟨rest', hrest', rfl⟩ := except_map_eq_ok hall'
        obtain ⟨hrests, halike'⟩ := ih halike (Prod.ext hstate hrest) (Prod.ext hstate' hrest')
        exact ⟨by rw [show first = first' from hmarkers, hrests], halike'⟩

/-! ## Calls -/

/-- `q.Alike q'`: the `SELECT` `q'` is `q` with other values. -/
structure SelectDraft.Alike (q q' : SelectDraft) : Prop where
  clauses : q.clauses = q'.clauses
  bindings : q.bindings.Alike q'.bindings

/-- `q.Alike q'`: the `UPDATE` `q'` is `q` with other values. -/
structure UpdateDraft.Alike (q q' : UpdateDraft) : Prop where
  clauses : q.clauses = q'.clauses
  bindings : q.bindings.Alike q'.bindings

theorem SelectDraft.Alike.filter {q q' : SelectDraft} (h : q.Alike q') : q.filter.Alike q'.filter :=
  ⟨h.bindings, congrArg SelectClauses.conditions h.clauses⟩

theorem SelectDraft.Alike.withFilter {q q' : SelectDraft} (h : q.Alike q') {f f' : Filter}
    (hf : f.Alike f') : (q.withFilter f).Alike (q'.withFilter f') :=
  ⟨by rw [SelectDraft.withFilter, SelectDraft.withFilter, h.clauses, hf.conditions], hf.bindings⟩

theorem UpdateDraft.Alike.filter {q q' : UpdateDraft} (h : q.Alike q') : q.filter.Alike q'.filter :=
  ⟨h.bindings, congrArg UpdateClauses.conditions h.clauses⟩

theorem UpdateDraft.Alike.withFilter {q q' : UpdateDraft} (h : q.Alike q') {f f' : Filter}
    (hf : f.Alike f') : (q.withFilter f).Alike (q'.withFilter f') :=
  ⟨by rw [UpdateDraft.withFilter, UpdateDraft.withFilter, h.clauses, hf.conditions], hf.bindings⟩

/-- A call that binds nothing changes the clauses of a `SELECT`, whatever its bindings are. -/
theorem SelectDraft.apply_plain {q s : SelectDraft} {c : Call} (hc : c.isPlain)
    (h : q.apply c = .ok s) (b : Bindings) :
    s.bindings = q.bindings ∧
      SelectDraft.apply { q with bindings := b } c = .ok { s with bindings := b } := by
  cases c with
  | compare | whereRaw | values | set | setValues => cases hc
  | columns | distinct | fromTable | groupBy =>
    cases h
    exact ⟨rfl, rfl⟩
  | join table left right kind label =>
    obtain ⟨hkind, rfl⟩ := SelectDraft.join_cases (ofExcept_eq_ok h)
    refine ⟨rfl, ?_⟩
    rw [SelectDraft.apply, SelectDraft.join, if_pos (List.contains_iff_mem.mpr hkind)]
    rfl
  | orderBy column direction =>
    obtain ⟨hdirection, rfl⟩ := SelectDraft.orderBy_cases (ofExcept_eq_ok h)
    refine ⟨rfl, ?_⟩
    rw [SelectDraft.apply, SelectDraft.orderBy, if_pos (List.contains_iff_mem.mpr hdirection)]
    rfl
  | limit value | offset value =>
    obtain ⟨n, hcount, rfl⟩ := except_map_eq_ok (ofExcept_eq_ok h)
    refine ⟨rfl, ?_⟩
    rw [SelectDraft.apply, hcount]
    rfl
  | setOther kind => cases h

/-- **A call on a `SELECT`.** -/
theorem SelectDraft.Alike.apply {q q' s s' : SelectDraft} (h : q.Alike q') {c c' : Call}
    (hc : c.Alike c') (hs : q.apply c = .ok s) (hs' : q'.apply c' = .ok s') : s.Alike s' := by
  have hcalls := hc
  cases hc with
  | compare | equality =>
    rw [SelectDraft.apply] at hs hs'
    obtain ⟨f, hf, rfl⟩ := except_map_eq_ok (ofExcept_eq_ok hs)
    obtain ⟨f', hf', rfl⟩ := except_map_eq_ok (ofExcept_eq_ok hs')
    exact h.withFilter (h.filter.compare hcalls hf hf')
  | whereRaw hnames =>
    rw [SelectDraft.apply] at hs hs'
    obtain ⟨f, hf, rfl⟩ := map_eq_ok hs
    obtain ⟨f', hf', rfl⟩ := map_eq_ok hs'
    exact h.withFilter (h.filter.whereRaw hnames hf hf')
  | values | set | setValues => cases hs
  | plain hplain =>
    -- the same call, made on the clauses of the one and the bindings of the other
    obtain ⟨hkept, hother⟩ := SelectDraft.apply_plain hplain hs q'.bindings
    have hq' : { q with bindings := q'.bindings } = q' := by
      rw [h.clauses]
    rw [hq', hs'] at hother
    cases hother
    exact ⟨rfl, hkept ▸ h.bindings⟩

/-- **A call on an `INSERT`.** -/
theorem InsertDraft.Alike.apply {q q' s s' : InsertDraft} (h : q.Alike q') {c c' : Call}
    (hc : c.Alike c') (hs : q.apply c = .ok s) (hs' : q'.apply c' = .ok s') : s.Alike s' := by
  cases hc with
  | compare | equality | whereRaw | set | setValues => cases hs
  | values hrows =>
    rw [InsertDraft.apply, InsertDraft.values] at hs hs'
    split at hs
    · next q₁ markers htake =>
      split at hs'
      · next q₁' markers' htake' =>
        cases hs
        cases hs'
        obtain ⟨hmarkers, halike⟩ := h.takeRows hrows htake htake'
        exact ⟨halike.table, halike.columns, by rw [halike.rows, hmarkers], halike.bindings⟩
      · cases hs'
    · cases hs
  | @plain c hplain =>
    cases c with
    | columns names =>
      rw [InsertDraft.apply] at hs hs'
      split at hs
      · split at hs'
        · cases hs
          cases hs'
          exact ⟨h.table, rfl, h.rows, h.bindings⟩
        · cases hs'
      · cases hs
    | values => cases hplain
    | _ => cases hs

theorem UpdateDraft.Alike.set {q q' : UpdateDraft} (h : q.Alike q') (column : Identifier)
    {v w : Value} (ht : BindType.infer v = BindType.infer w) :
    (q.set column v).Alike (q'.set column w) := by
  obtain ⟨hmarker, hbound⟩ := h.bindings.bind ht
  exact ⟨by rw [UpdateDraft.set, UpdateDraft.set, hmarker, h.clauses], hbound⟩

theorem UpdateDraft.Alike.setValues {q q' : UpdateDraft} (h : q.Alike q')
    {ps qs : List (String × Value)} (ht : typed ps = typed qs) :
    (q.setValues ps).Alike (q'.setValues qs) := by
  induction ps generalizing q q' qs with
  | nil =>
    obtain rfl := List.map_eq_nil_iff.mp ht.symm
    exact h
  | cons p ps ih =>
    obtain ⟨p', ps', rfl, hp, hps⟩ := List.map_eq_cons_iff.mp ht.symm
    obtain ⟨hname, htype⟩ := Prod.mk.inj hp
    have hset := h.set (.name p.1) htype.symm
    rw [UpdateDraft.setValues, UpdateDraft.setValues, List.foldl_cons, List.foldl_cons, hname]
    exact ih hset hps.symm

/-- **A call on an `UPDATE`.** -/
theorem UpdateDraft.Alike.apply {q q' s s' : UpdateDraft} (h : q.Alike q') {c c' : Call}
    (hc : c.Alike c') (hs : q.apply c = .ok s) (hs' : q'.apply c' = .ok s') : s.Alike s' := by
  have hcalls := hc
  cases hc with
  | compare | equality =>
    rw [UpdateDraft.apply] at hs hs'
    obtain ⟨f, hf, rfl⟩ := except_map_eq_ok (ofExcept_eq_ok hs)
    obtain ⟨f', hf', rfl⟩ := except_map_eq_ok (ofExcept_eq_ok hs')
    exact h.withFilter (h.filter.compare hcalls hf hf')
  | whereRaw hnames =>
    rw [UpdateDraft.apply] at hs hs'
    obtain ⟨f, hf, rfl⟩ := map_eq_ok hs
    obtain ⟨f', hf', rfl⟩ := map_eq_ok hs'
    exact h.withFilter (h.filter.whereRaw hnames hf hf')
  | set htype =>
    cases hs
    cases hs'
    exact h.set _ htype
  | setValues htypes =>
    cases hs
    cases hs'
    exact h.setValues htypes
  | values => cases hs
  | @plain c hplain =>
    cases c with
    | compare | whereRaw | set | setValues => cases hplain
    | _ => cases hs

/-- Two queries of the same kind that are the same but for their values. -/
inductive Draft.Alike : Draft → Draft → Prop
  | select {q q' : SelectDraft} (h : q.Alike q') : Draft.Alike (.select q) (.select q')
  | insert {q q' : InsertDraft} (h : q.Alike q') : Draft.Alike (.insert q) (.insert q')
  | update {q q' : UpdateDraft} (h : q.Alike q') : Draft.Alike (.update q) (.update q')

/-- **What one call preserves.**  Alike calls that are taken keep queries alike. -/
theorem Draft.Alike.apply {q q' s s' : Draft} (h : q.Alike q') {c c' : Call} (hc : c.Alike c')
    (hs : q.apply c = .ok s) (hs' : q'.apply c' = .ok s') : s.Alike s' := by
  cases h with
  | select h =>
    obtain ⟨t, ht, rfl⟩ := map_eq_ok hs
    obtain ⟨t', ht', rfl⟩ := map_eq_ok hs'
    exact .select (h.apply hc ht ht')
  | insert h =>
    obtain ⟨t, ht, rfl⟩ := map_eq_ok hs
    obtain ⟨t', ht', rfl⟩ := map_eq_ok hs'
    exact .insert (h.apply hc ht ht')
  | update h =>
    obtain ⟨t, ht, rfl⟩ := map_eq_ok hs
    obtain ⟨t', ht', rfl⟩ := map_eq_ok hs'
    exact .update (h.apply hc ht ht')

theorem Draft.Alike.bindings {q q' : Draft} (h : q.Alike q') : q.bindings.Alike q'.bindings := by
  cases h with
  | select h => exact h.bindings
  | insert h => exact h.bindings
  | update h => exact h.bindings

/-- Queries that are alike are written in the same way, or cannot be for the same reason. -/
theorem Draft.Alike.render {q q' : Draft} (h : q.Alike q') (d : Dialect) :
    q.render d = q'.render d := by
  cases h with
  | select h => simp only [Draft.render, SelectDraft.render, h.clauses]
  | insert h => simp only [Draft.render, InsertDraft.render, h.table, h.columns, h.rows]
  | update h => simp only [Draft.render, UpdateDraft.render, h.clauses]

/-! ## Runs -/

/-- Queries that are started alike are alike. -/
theorem Opening.Alike.draft {o o' : Opening} (h : o.Alike o') : o.draft.Alike o'.draft := by
  cases h with
  | select columns => exact .select ⟨rfl, .refl _⟩
  | insert table columns => exact .insert ⟨rfl, rfl, rfl, .refl _⟩
  | update ht => exact .update (UpdateDraft.Alike.setValues ⟨rfl, .refl _⟩ ht)

/-- Two builders that are the same but for the values of their queries, and not rendered yet. -/
structure Builder.Alike (b b' : Builder) : Prop where
  dialect : b.dialect = b'.dialect
  draft : b.draft.Alike b'.draft
  left : b.rendered = none
  right : b'.rendered = none

/-- **What a whole run preserves.**  Builders that take alike calls stay alike. -/
theorem Builder.Alike.takes {b b' s s' : Builder} (h : b.Alike b') {calls calls' : List Call}
    (hcalls : List.Forall₂ Call.Alike calls calls') (hs : Builder.Takes b calls s)
    (hs' : Builder.Takes b' calls' s') : s.Alike s' := by
  -- along the two scripts at once; the builders in front of them are any that are alike
  induction hcalls generalizing b b' with
  | nil =>
    cases hs
    cases hs'
    exact h
  | cons hc _ ih =>
    cases hs with
    | cons happly hrest =>
      cases hs' with
      | cons happly' hrest' =>
        obtain ⟨q, hq, rfl⟩ := Builder.apply_cases happly
        obtain ⟨q', hq', rfl⟩ := Builder.apply_cases happly'
        have hnext : Builder.Alike { b with draft := q } { b' with draft := q' } :=
          ⟨h.dialect, h.draft.apply hc hq hq', h.left, h.right⟩
        exact ih hnext hrest hrest'

/-- What of a rendered query does not depend on values: its text, and the names of its parameters
    in their order. -/
def Rendered.outline (r : Rendered) : String × List String := (r.sql, r.parameters.map Prod.fst)

theorem Builder.Alike.build {b b' : Builder} (h : b.Alike b') :
    b.build.1.map Rendered.outline = b'.build.1.map Rendered.outline := by
  have hpreview : b.preview = b'.preview := by
    rw [Builder.preview, Builder.preview, h.dialect, h.draft.render]
  have hnames : b.draft.bindings.entries.map Prod.fst = b'.draft.bindings.entries.map Prod.fst :=
    h.draft.bindings.names
  rw [Builder.build, Builder.build, h.left, h.right, hpreview]
  cases b'.preview with
  | error f => rfl
  | ok sql => exact congrArg (fun names => Except.ok (sql, names)) hnames

/-- **Values do not show.**  Two scripts that are the same but for their values build the same text
    with the same names, or neither of them builds anything.  Of a value that a condition compares
    with it may show whether it is absent, and whether it is a collection and of how many items; of
    any value, under which type it is bound; and nothing else. -/
theorem values_do_not_show {d : Dialect} {o o' : Opening} {calls calls' : List Call}
    {b b' : Builder} (ho : o.Alike o') (hcalls : List.Forall₂ Call.Alike calls calls')
    (hrun : Builder.Takes (.start d o.draft) calls b)
    (hrun' : Builder.Takes (.start d o'.draft) calls' b') :
    b.build.1.map Rendered.outline = b'.build.1.map Rendered.outline := by
  have hstart : Builder.Alike (.start d o.draft) (.start d o'.draft) := ⟨rfl, ho.draft, rfl, rfl⟩
  exact (hstart.takes hcalls hrun hrun').build

/-- Two scripts that differ in texts that look like SQL, in a list, and in what a raw condition
    and a row stand for. -/
theorem hostile_values_do_not_show :
    ∃ b b', Builder.Takes (.start .mysql (Opening.update (.name "t") [("a", .text "x")]).draft)
        [.compare .and (.name "c") (.text "not in") (some (.collection .list [.int 2, .text "z"])),
          .whereRaw "d > :low" [("low", .int 1)], .compare .or (.name "e") .null none] b ∧
      Builder.Takes (.start .mysql (Opening.update (.name "t") [("a", .text "'; --")]).draft)
        [.compare .and (.name "c") (.text "not in") (some (.collection .set [.int 7, .text "i:z"])),
          .whereRaw "d > :low" [("low", .text "0 OR 1")], .compare .or (.name "e") .null none] b' ∧
      b.build.1.map Rendered.outline = b'.build.1.map Rendered.outline ∧
      b.build.1.map Rendered.outline = .ok
        ("UPDATE `t` SET `a` = :param_0 WHERE `c` NOT IN (i:param_1, :param_2) AND (d > :low) " ++
          "OR `e` IS NULL", ["param_0", "param_1", "param_2", "low"]) := by
  have ho : Opening.Alike (.update (.name "t") [("a", .text "x")])
      (.update (.name "t") [("a", .text "'; --")]) := .update rfl
  have hcalls : List.Forall₂ Call.Alike
      [.compare .and (.name "c") (.text "not in") (some (.collection .list [.int 2, .text "z"])),
        .whereRaw "d > :low" [("low", .int 1)], .compare .or (.name "e") .null none]
      [.compare .and (.name "c") (.text "not in") (some (.collection .set [.int 7, .text "i:z"])),
        .whereRaw "d > :low" [("low", .text "0 OR 1")], .compare .or (.name "e") .null none] :=
    .cons (.compare (.items rfl)) (.cons (.whereRaw rfl) (.cons (.equality .absent) .nil))
  refine ⟨_, _, .cons rfl (.cons rfl (.cons rfl (.nil _))),
    .cons rfl (.cons rfl (.cons rfl (.nil _))), ?_, rfl⟩
  exact values_do_not_show ho hcalls (.cons rfl (.cons rfl (.cons rfl (.nil _))))
    (.cons rfl (.cons rfl (.cons rfl (.nil _))))

end TaggedSql.Query
