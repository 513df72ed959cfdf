/-
  How written statements are lexed.

  A statement is laid out from four kinds of text: keywords and punctuation, quoted parts, markers
  and SQL of the caller's.  Clauses are well formed when keywords that vary are quiet, markers
  refer to parameters, and the caller's SQL is closed.  Of well-formed clauses

    1. **a layout exists**, and
    2. **its text mentions** the markers of its values and what the caller's SQL mentions, in the
       order in which the clauses are written, and nothing else.

  The identifiers contribute nothing, whatever they are called.  The proof follows the layout
  functions: `Reads.between` joins two pieces by punctuation, and every layout is one of its uses.
-/
import TaggedSql.Proofs.Sql.Fragments
import TaggedSql.Sql.Layout

namespace TaggedSql.Sql

open TaggedSql.Placeholder

/-! ## Quiet text -/

/-- Whether a text opens nothing and has no colon. -/
def isQuiet (text : String) : Bool := text.toList.all fun c => isInert c && c != ':'

/-- Whether a quiet text has breaks on both sides. -/
def isJoint (text : String) : Bool :=
  isQuiet text && text.toList.head?.any isBreak && text.toList.getLast?.any isBreak

theorem isQuiet_append (a b : String) : isQuiet (a ++ b) = (isQuiet a && isQuiet b) := by
  simp [isQuiet]

theorem not_colon_of_isQuiet {text : String} (h : isQuiet text) : ':' ∉ text.toList := by
  intro hc
  have := List.all_eq_true.mp h ':' hc
  simp at this

theorem isInert_of_isQuiet {text : String} (h : isQuiet text) : ∀ c ∈ text.toList, isInert c := by
  intro c hc
  have := List.all_eq_true.mp h c hc
  rw [Bool.and_eq_true] at this
  exact this.1

theorem closed_of_isQuiet {text : String} (h : isQuiet text) (o : LexOptions) :
    Closed o text.toList :=
  closed_of_inert (isInert_of_isQuiet h)

/-- A quiet text between blanks has breaks on both sides. -/
theorem isJoint_of_isQuiet {text : String} (h : isQuiet text) : isJoint (" " ++ text ++ " ") := by
  have hquiet : isQuiet (" " ++ text ++ " ") := by
    rw [isQuiet_append, isQuiet_append, h]
    rfl
  have hlast : (" " ++ text ++ " ").toList.getLast? = some ' ' := by
    rw [String.toList_append, List.getLast?_append]
    rfl
  rw [isJoint, hquiet, hlast]
  simp
  decide

theorem isQuiet_ofInt {n : Int} (h : 0 ≤ n) : isQuiet (Number.ofInt n) := by
  have hneg : ¬n < 0 := by omega
  rw [isQuiet, Number.ofInt, if_neg hneg, List.nil_append, String.toList_ofList, List.all_eq_true]
  intro c hc
  have hdigit := Nat.isDigit_of_mem_toDigits (by decide) (by decide) hc
  have hne : ∀ d, d.isDigit = false → c ≠ d := by
    rintro d hd rfl
    rw [hdigit] at hd
    cases hd
  simp [isInert, hne '\'' rfl, hne '"' rfl, hne '\x60' rfl, hne '[' rfl, hne '-' rfl, hne '/' rfl,
    hne ':' rfl]

/-! ## Putting fragments together -/

namespace Reads

variable {d : Dialect} {fs gs : List Fragment} {ls ms : List Lexeme} {k : String}

theorem quiet (h : isQuiet k) : Reads d [.keyword k] [] :=
  keyword (closed_of_isQuiet h d.lexing) (not_colon_of_isQuiet h)

/-- Fragments behind a keyword that ends with a break. -/
theorem behind (hk : isQuiet k) (he : k.toList.getLast?.any isBreak) (h : Reads d fs ls) :
    Reads d (.keyword k :: fs) ls := by
  have happ := (quiet (d := d) hk).append h fun f hf g _ => by
    obtain rfl : Fragment.keyword k = f := by simpa using hf
    exact Or.inl he
  exact happ

/-- Fragments in front of a keyword that starts with a break. -/
theorem before (hk : isQuiet k) (hs : k.toList.head?.any isBreak) (h : Reads d fs ls) :
    Reads d (fs ++ [.keyword k]) ls := by
  have happ := h.append (quiet (d := d) hk) fun f _ g hg => by
    obtain rfl : Fragment.keyword k = g := by simpa using hg
    exact Or.inr hs
  rw [List.append_nil] at happ
  exact happ

/-- Fragments on the two sides of a joint. -/
theorem between (hk : isJoint k) (hf : Reads d fs ls) (hg : Reads d gs ms) :
    Reads d (fs ++ .keyword k :: gs) (ls ++ ms) := by
  simp only [isJoint, Bool.and_eq_true] at hk
  obtain ⟨⟨hquiet, hs⟩, he⟩ := hk
  refine hf.append (hg.behind hquiet he) fun f _ g hg => ?_
  obtain rfl : Fragment.keyword k = g := by simpa using hg
  exact Or.inr hs

/-- Pieces with a joint between each two. -/
theorem separated {α : Type} {xs : List α} {f : α → List Fragment} {g : α → List Lexeme}
    (hk : isJoint k) (h : ∀ x ∈ xs, Reads d (f x) (g x)) :
    Reads d (Sql.separated k (xs.map f)) (xs.flatMap g) := by
  induction xs with
  | nil => exact nil
  | cons x xs ih =>
    have hx := h x List.mem_cons_self
    have hxs := ih fun y hy => h y (List.mem_cons_of_mem x hy)
    cases xs with
    | nil => simpa [Sql.separated] using hx
    | cons y ys => exact hx.between hk hxs

/-- Pieces of which none mentions anything, with a joint between each two. -/
theorem separated_nil {α : Type} {xs : List α} {f : α → List Fragment} (hk : isJoint k)
    (h : ∀ x ∈ xs, Reads d (f x) []) : Reads d (Sql.separated k (xs.map f)) [] := by
  have := separated (g := fun _ => []) hk h
  rwa [List.flatMap_eq_nil_iff.mpr fun _ _ => rfl] at this

/-- Fragments and more pieces that mention nothing, each behind a joint. -/
theorem each {α : Type} {xs : List α} {f : α → List Fragment} (hk : isJoint k)
    (hf : Reads d fs ls) (h : ∀ x ∈ xs, Reads d (f x) []) :
    Reads d (fs ++ xs.flatMap fun x => .keyword k :: f x) ls := by
  induction xs generalizing fs with
  | nil =>
    rw [List.flatMap_nil, List.append_nil]
    exact hf
  | cons x xs ih =>
    have hx := hf.between hk (h x List.mem_cons_self)
    rw [List.append_nil] at hx
    have hall := ih hx fun y hy => h y (List.mem_cons_of_mem x hy)
    rwa [List.append_assoc] at hall

/-- A clause behind a joint, or none. -/
theorem clause {p : Bool} (hk : isJoint k) (hf : Reads d fs ls) (hg : Reads d gs ms)
    (hm : p = false → ms = []) : Reads d (fs ++ Sql.clause k p gs) (ls ++ ms) := by
  cases p with
  | true => exact hf.between hk hg
  | false => simpa [Sql.clause, hm rfl] using hf

end Reads

/-! ## Identifiers -/

/-- A name, or quiet SQL. -/
def Identifier.IsQuiet : Identifier → Prop
  | .name _ => True
  | .raw sql => isQuiet sql

theorem reads_identifier {d : Dialect} {i : Identifier} (h : i.IsQuiet) :
    Reads d i.fragments [] := by
  cases i with
  | raw sql =>
    exact Reads.singleton (closed_of_isQuiet h d.lexing)
      (mentions_of_no_colon (not_colon_of_isQuiet h))
  | name text =>
    refine Reads.separated_nil rfl fun p _ => ?_
    by_cases hp : p = ['*']
    · simpa [partFragment, hp] using Reads.quiet (d := d) (k := "*") rfl
    · simpa [partFragment, hp] using Reads.part (d := d) (String.ofList p)

theorem reads_identifiers {d : Dialect} {is : List Identifier} (h : ∀ i ∈ is, i.IsQuiet) :
    Reads d (separated ", " (is.map Identifier.fragments)) [] :=
  Reads.separated_nil rfl fun i hi => reads_identifier (h i hi)

theorem reads_columns {d : Dialect} {columns : List Identifier} (h : ∀ i ∈ columns, i.IsQuiet) :
    Reads d (columnsLayout columns) [] := by
  unfold columnsLayout
  split
  · exact Reads.quiet rfl
  · exact reads_identifiers h

theorem reads_table {d : Dialect} {table : Identifier} (h : table.IsQuiet)
    (label : Option String) : Reads d (tableLayout table label) [] := by
  unfold tableLayout
  split
  · exact reads_identifier h
  · exact reads_identifier h
  · exact (reads_identifier h).between rfl (reads_identifier (i := .name _) trivial)

/-! ## Joins, conditions and markers -/

/-- A join of quiet identifiers, of a quiet kind. -/
structure Join.IsQuiet (j : Join) : Prop where
  table : j.table.IsQuiet
  left : j.left.IsQuiet
  right : j.right.IsQuiet
  kind : isQuiet j.kind

theorem reads_join {d : Dialect} {j : Join} (h : j.IsQuiet) : Reads d (joinLayout j) [] := by
  have hkind : isQuiet (j.kind ++ " JOIN ") := by
    rw [isQuiet_append, h.kind]
    rfl
  have hbreak : (j.kind ++ " JOIN ").toList.getLast?.any isBreak := by
    rw [String.toList_append, List.getLast?_append]
    rfl
  have hon := (reads_identifier (d := d) h.left).between (k := " = ") rfl (reads_identifier h.right)
  have htable := (reads_table (d := d) h.table j.label).between (k := " ON ") rfl hon
  simpa [joinLayout] using htable.behind hkind hbreak

/-- Markers mention their parameters. -/
theorem reads_markers {d : Dialect} {markers : List Marker} (h : ∀ m ∈ markers, m.IsNamed) :
    Reads d (markersLayout markers) (markers.flatMap Marker.mentions) :=
  Reads.separated rfl fun m hm => Reads.marker (h m hm)

/-- What a condition mentions. -/
def Test.mentions (d : Dialect) : Test → List Lexeme
  | .raw sql => Placeholder.mentions (lex d.lexing sql.toList)
  | .column _ _ markers => markers.flatMap Marker.mentions

/-- A condition with closed SQL, or one with a quiet column and operator and as many markers as the
    operator compares with. -/
def Test.WellFormed (d : Dialect) : Test → Prop
  | .raw sql => Closed d.lexing sql.toList
  | .column i operator markers =>
    i.IsQuiet ∧ isQuiet operator ∧ (∀ m ∈ markers, m.IsNamed) ∧
      (if operator = "IS" ∨ operator = "IS NOT" then markers = []
        else operator = "IN" ∨ operator = "NOT IN" ∨ ∃ m, markers = [m])

theorem reads_test {d : Dialect} {t : Test} (h : t.WellFormed d) :
    ∃ fs, testLayout? t = some fs ∧ Reads d fs (t.mentions d) := by
  cases t with
  | raw sql =>
    have hraw := (Reads.raw h).behind (k := "(") rfl rfl
    exact ⟨_, rfl, hraw.before (k := ")") rfl rfl⟩
  | column column operator markers =>
    obtain ⟨hcolumn, hoperator, hmarkers, hcount⟩ := h
    have hc := reads_identifier (d := d) hcolumn
    simp only [testLayout?, Test.mentions]
    by_cases his : operator = "IS" ∨ operator = "IS NOT"
    · -- a test for the absent value
      rw [if_pos his] at hcount ⊢
      refine ⟨_, rfl, ?_⟩
      rw [hcount]
      refine hc.before ?_ ?_
      · rw [isQuiet_append, isQuiet_append, hoperator]
        rfl
      · rw [String.append_assoc, String.toList_append]
        rfl
    · rw [if_neg his] at hcount ⊢
      by_cases hin : operator = "IN" ∨ operator = "NOT IN"
      · -- membership; in nothing at all it is decided without a marker
        rw [if_pos hin]
        by_cases hnil : markers = []
        · subst hnil
          refine ⟨_, rfl, ?_⟩
          split <;> exact Reads.quiet rfl
        · refine ⟨_, if_neg (by simpa using hnil), ?_⟩
          have hjoint : isJoint (" " ++ operator ++ " (") := by
            rcases hin with rfl | rfl <;> rfl
          exact (hc.between hjoint (reads_markers hmarkers)).before rfl rfl
      · -- a comparison with one value
        rw [if_neg hin]
        obtain ⟨m, rfl⟩ : ∃ m, markers = [m] := by tauto
        refine ⟨_, rfl, ?_⟩
        have hm := Reads.marker (d := d) (hmarkers m List.mem_cons_self)
        simpa using hc.between (isJoint_of_isQuiet hoperator) hm

/-- A well-formed condition behind a quiet word. -/
def Condition.WellFormed (d : Dialect) (c : Condition) : Prop :=
  isQuiet c.conjunction ∧ c.test.WellFormed d

/-- What conditions mention. -/
def conditionMentions (d : Dialect) (cs : List Condition) : List Lexeme :=
  cs.flatMap fun c => c.test.mentions d

theorem conditionMentions_of_isEmpty {d : Dialect} {cs : List Condition}
    (h : (!cs.isEmpty) = false) : conditionMentions d cs = [] := by
  have hnil : cs = [] := by simpa using h
  rw [hnil]
  rfl

theorem reads_furtherConditions {d : Dialect} {fs : List Fragment} {ls : List Lexeme}
    {cs : List Condition} (hf : Reads d fs ls) (h : ∀ c ∈ cs, c.WellFormed d) :
    ∃ gs, furtherConditionsLayout? cs = some gs ∧
      Reads d (fs ++ gs) (ls ++ conditionMentions d cs) := by
  induction cs generalizing fs ls with
  | nil =>
    refine ⟨[], rfl, ?_⟩
    rw [List.append_nil]
    simpa [conditionMentions] using hf
  | cons c cs ih =>
    obtain ⟨hquiet, htest⟩ := h c List.mem_cons_self
    obtain ⟨gs, hgs, hreads⟩ := reads_test htest
    have hfirst := hf.between (isJoint_of_isQuiet hquiet) hreads
    obtain ⟨rest, hrest, hall⟩ := ih hfirst fun c' hc' => h c' (List.mem_cons_of_mem c hc')
    refine ⟨_, by rw [furtherConditionsLayout?, hgs, hrest], ?_⟩
    simpa [conditionMentions] using hall

/-- Conditions mention, in order, what each of them mentions. -/
theorem reads_conditions {d : Dialect} {cs : List Condition} (h : ∀ c ∈ cs, c.WellFormed d) :
    ∃ fs, conditionsLayout? cs = some fs ∧ Reads d fs (conditionMentions d cs) := by
  cases cs with
  | nil => exact ⟨[], rfl, Reads.nil⟩
  | cons c cs =>
    obtain ⟨fs, hfs, hreads⟩ := reads_test (h c List.mem_cons_self).2
    obtain ⟨gs, hgs, hall⟩ :=
      reads_furtherConditions hreads fun c' hc' => h c' (List.mem_cons_of_mem c hc')
    exact ⟨fs ++ gs, by rw [conditionsLayout?, hfs, hgs], hall⟩

/-! ## Order and paging -/

/-- A sort term with a quiet column and direction. -/
structure OrderItem.IsQuiet (item : OrderItem) : Prop where
  column : item.column.IsQuiet
  direction : TaggedSql.Sql.isQuiet item.direction

theorem reads_orderItem {d : Dialect} {item : OrderItem} (h : item.IsQuiet) :
    Reads d (orderItemLayout item) [] := by
  have hc := reads_identifier (d := d) h.column
  unfold orderItemLayout
  split
  · rw [List.append_nil]
    exact hc
  · refine hc.before ?_ ?_
    · rw [isQuiet_append, h.direction]
      rfl
    · rw [String.toList_append]
      rfl

theorem reads_orderBy {d : Dialect} {items : List OrderItem} (h : ∀ i ∈ items, i.IsQuiet) :
    Reads d (orderByLayout items) [] :=
  Reads.separated_nil rfl fun i hi => reads_orderItem (h i hi)

theorem isQuiet_limitOffset {limit offset : Option Int} (hl : ∀ n ∈ limit, 0 ≤ n)
    (ho : ∀ n ∈ offset, 0 ≤ n) : isQuiet (limitOffset limit offset) := by
  have hlimit : ∀ n ∈ limit, isQuiet ("LIMIT " ++ Number.ofInt n) := by
    intro n hn
    rw [isQuiet_append, isQuiet_ofInt (hl n hn)]
    rfl
  have hoffset : ∀ n ∈ offset, isQuiet ("OFFSET " ++ Number.ofInt n) := by
    intro n hn
    rw [isQuiet_append, isQuiet_ofInt (ho n hn)]
    rfl
  cases limit with
  | none =>
    cases offset with
    | none => rfl
    | some m => exact hoffset m rfl
  | some n =>
    cases offset with
    | none => exact hlimit n rfl
    | some m =>
      have hboth : limitOffset (some n) (some m) =
          "LIMIT " ++ Number.ofInt n ++ " " ++ ("OFFSET " ++ Number.ofInt m) := rfl
      rw [hboth, isQuiet_append, isQuiet_append, hlimit n rfl, hoffset m rfl]
      rfl

/-- Between inert characters a dash opens nothing. -/
theorem closed_dash {o : LexOptions} {c : Char} {rest : List Char} (h : isInert c) :
    Closed o ('-' :: c :: rest) ↔ Closed o rest := by
  have hne : c ≠ '-' := by
    rintro rfl
    cases h
  have hdash : closedFrom o .code ('-' :: c :: rest) = closedFrom o .code (c :: rest) := by
    rw [closedFrom]
    · rfl
    · intro r _ hr
      exact hne (List.cons.inj hr).1
    · intro r hr
      cases hr
  rw [Closed, hdash, closedFrom_inert h]
  rfl

/-- The limit that SQLite takes for none is negative, and closed nevertheless. -/
theorem reads_unlimited {d : Dialect} {n : Int} (h : 0 ≤ n) :
    Reads d [.keyword ("LIMIT " ++ "-1" ++ " OFFSET " ++ Number.ofInt n)] [] := by
  have hquiet : isQuiet (" OFFSET " ++ Number.ofInt n) := by
    rw [isQuiet_append, isQuiet_ofInt h]
    rfl
  have htext : ("LIMIT " ++ "-1" ++ " OFFSET " ++ Number.ofInt n).toList =
      "LIMIT ".toList ++ '-' :: '1' :: (" OFFSET " ++ Number.ofInt n).toList := by
    simp
  refine Reads.keyword ?_ ?_
  · rw [htext, closed_inert_append (List.all_eq_true.mp rfl), closed_dash (by decide)]
    exact closed_of_isQuiet hquiet d.lexing
  · rw [htext]
    have := not_colon_of_isQuiet hquiet
    simp_all

/-- Paging is closed and has no colon. -/
theorem reads_paging {d : Dialect} {limit offset : Option Int} (hl : ∀ n ∈ limit, 0 ≤ n)
    (ho : ∀ n ∈ offset, 0 ≤ n) : Reads d [.keyword (d.paging limit offset)] [] := by
  have hquiet := isQuiet_limitOffset hl ho
  cases d with
  | ansi => exact Reads.quiet hquiet
  | postgres => exact Reads.quiet hquiet
  | sqlite =>
    simp only [Dialect.paging, limitedOffset]
    split
    · next n => exact reads_unlimited (ho n rfl)
    · exact Reads.quiet hquiet
  | mysql =>
    simp only [Dialect.paging, limitedOffset]
    split
    · next n =>
      refine Reads.quiet ?_
      rw [isQuiet_append, isQuiet_ofInt (ho n rfl)]
      rfl
    · exact Reads.quiet hquiet
  | sqlServer =>
    simp only [Dialect.paging]
    split
    · exact Reads.quiet rfl
    · refine Reads.quiet ?_
      have hoffset : 0 ≤ offset.getD 0 := by
        cases offset with
        | none => exact Int.le_refl 0
        | some n => exact ho n rfl
      cases limit with
      | none => simp [isQuiet_append, isQuiet_ofInt hoffset]; decide
      | some n => simp [isQuiet_append, isQuiet_ofInt hoffset, isQuiet_ofInt (hl n rfl)]; decide

/-! ## Statements -/

/-- The clauses of a `SELECT` with quiet identifiers and words, and counts that are not negative. -/
structure SelectClauses.WellFormed (d : Dialect) (s : SelectClauses) : Prop where
  columns : ∀ i ∈ s.columns, i.IsQuiet
  table : ∀ t ∈ s.table, t.IsQuiet
  joins : ∀ j ∈ s.joins, j.IsQuiet
  conditions : ∀ c ∈ s.conditions, c.WellFormed d
  groupBy : ∀ i ∈ s.groupBy, i.IsQuiet
  orderBy : ∀ i ∈ s.orderBy, i.IsQuiet
  limit : ∀ n ∈ s.limit, 0 ≤ n
  offset : ∀ n ∈ s.offset, 0 ≤ n

theorem ordering_isQuiet {d : Dialect} {s : SelectClauses} (h : s.WellFormed d) :
    ∀ i ∈ d.ordering s, i.IsQuiet := by
  unfold Dialect.ordering
  split
  · intro i hi
    obtain rfl := List.mem_singleton.mp hi
    exact ⟨rfl, rfl⟩
  · exact h.orderBy

/-- **A `SELECT`** has a layout, and mentions what its conditions mention. -/
theorem reads_select {d : Dialect} {s : SelectClauses} (h : s.WellFormed d) :
    ∃ fs, selectLayout? d s = some fs ∧ Reads d fs (conditionMentions d s.conditions) := by
  obtain ⟨conditions, hlayout, hconditions⟩ := reads_conditions h.conditions
  refine ⟨_, by rw [selectLayout?, hlayout]; rfl, ?_⟩
  have hcolumns : Reads d (.keyword (if s.distinct then "SELECT DISTINCT " else "SELECT ") ::
      columnsLayout s.columns) [] := by
    split <;> exact (reads_columns h.columns).behind rfl rfl
  have htable : Reads d (.keyword (if s.distinct then "SELECT DISTINCT " else "SELECT ") ::
      columnsLayout s.columns ++
        s.table.elim [] fun t => .keyword " FROM " :: tableLayout t s.label) [] := by
    cases ht : s.table with
    | none => simpa using hcolumns
    | some t => exact hcolumns.between rfl (reads_table (h.table t ht) s.label)
  have hjoins := htable.each (k := " ") rfl fun j hj => reads_join (h.joins j hj)
  have hwhere := hjoins.clause (p := !s.conditions.isEmpty) (k := " WHERE ") rfl
    hconditions conditionMentions_of_isEmpty
  have hgroup := hwhere.clause (p := !s.groupBy.isEmpty) (k := " GROUP BY ") rfl
    (reads_identifiers h.groupBy) fun _ => rfl
  have horder := hgroup.clause (p := !(d.ordering s).isEmpty) (k := " ORDER BY ") rfl
    (reads_orderBy (ordering_isQuiet h)) fun _ => rfl
  have hpage := horder.clause (p := d.paging s.limit s.offset != "") (k := " ") rfl
    (reads_paging h.limit h.offset) fun _ => rfl
  simpa [groupByLayout] using hpage

/-- The clauses of an `INSERT` with quiet identifiers and markers that refer to parameters. -/
structure InsertClauses.WellFormed (s : InsertClauses) : Prop where
  table : s.table.IsQuiet
  columns : ∀ i ∈ s.columns, i.IsQuiet
  rows : ∀ row ∈ s.rows, ∀ m ∈ row, m.IsNamed

/-- **An `INSERT`** mentions its markers row by row. -/
theorem reads_insert {d : Dialect} {s : InsertClauses} (h : s.WellFormed) :
    Reads d (insertLayout s) (s.rows.flatten.flatMap Marker.mentions) := by
  have hrows := Reads.separated (d := d) (k := ", ") rfl fun row hrow =>
    ((reads_markers (h.rows row hrow)).behind (k := "(") rfl rfl).before (k := ")") rfl rfl
  have hcolumns := (reads_identifiers (d := d) h.columns).between (k := ") VALUES ") rfl hrows
  have htable := ((reads_identifier (d := d) h.table).between (k := " (") rfl hcolumns).behind
    (k := "INSERT INTO ") rfl rfl
  rw [← List.flatMap_id, List.flatMap_assoc]
  simpa [insertLayout] using htable

/-- The clauses of an `UPDATE` with quiet identifiers, assigned markers that refer to parameters and
    well-formed conditions. -/
structure UpdateClauses.WellFormed (d : Dialect) (s : UpdateClauses) : Prop where
  table : s.table.IsQuiet
  assignments : ∀ a ∈ s.assignments, a.1.IsQuiet ∧ a.2.IsNamed
  conditions : ∀ c ∈ s.conditions, c.WellFormed d

/-- **An `UPDATE`** has a layout, and mentions the assigned markers before what its conditions
    mention. -/
theorem reads_update {d : Dialect} {s : UpdateClauses} (h : s.WellFormed d) :
    ∃ fs, updateLayout? s = some fs ∧
      Reads d fs ((s.assignments.flatMap fun a => a.2.mentions) ++
        conditionMentions d s.conditions) := by
  obtain ⟨conditions, hlayout, hconditions⟩ := reads_conditions h.conditions
  refine ⟨_, by rw [updateLayout?, hlayout]; rfl, ?_⟩
  have hassign := Reads.separated (d := d) (k := ", ") rfl fun a ha =>
    (reads_identifier (d := d) (h.assignments a ha).1).between (k := " = ") rfl
      (Reads.marker (h.assignments a ha).2)
  have hset := ((reads_identifier (d := d) h.table).between (k := " SET ") rfl hassign).behind
    (k := "UPDATE ") rfl rfl
  have hwhere := hset.clause (p := !s.conditions.isEmpty) (k := " WHERE ") rfl
    hconditions conditionMentions_of_isEmpty
  simpa using hwhere

end TaggedSql.Sql
