/-
  Statements up to the text of their names.

  1. **Masks** — masking replaces every part of a name by one letter.  What is left of a name is the
     number of its parts and the places of its stars (`maskedName_eq_iff`); what is left of a label
     is, moreover, whether there is anything to write.  So two clauses have the same mask when they
     differ in the text of their names only.

  2. **Layouts** — masking clauses and masking the fragments that they are laid out as is the same
     (`Clauses.layout?_masked`): no layout function looks at the text of a name.

  3. **Texts** — fragments with the same mask are written as texts with the same tokens, quoted
     names aside (`forall₂_lex_write`).
-/
import Mathlib.Data.List.Forall2
import TaggedSql.Proofs.Sql.Layouts

namespace TaggedSql.Sql

open TaggedSql.Placeholder

/-! ## Masks of names -/

/-- The parts of a dotted name. -/
def partsOf (text : String) : List (List Char) := text.toList.splitOn '.'

/-- A part of a name without its text; a star is kept. -/
def maskedPart (part : List Char) : List Char := if part = ['*'] then part else ['x']

/-- A name without its text. -/
def maskedName (text : String) : String :=
  String.ofList (['.'].intercalate ((partsOf text).map maskedPart))

/-- An identifier without its text; raw SQL is kept. -/
def Identifier.masked : Identifier → Identifier
  | .name text => .name (maskedName text)
  | .raw sql => .raw sql

/-- A label without its text; an empty one is as good as none. -/
def maskedLabel (label : Option String) : Option String :=
  (label.filter (· ≠ "")).map maskedName

/-- A mask adds no dot, so that a masked name has as many parts as before. -/
theorem not_dot_mem_maskedPart {part : List Char} : '.' ∉ maskedPart part := by
  unfold maskedPart
  split
  · next h => simp [h]
  · simp

/-- Masking a name masks its parts. -/
theorem partsOf_maskedName (text : String) :
    partsOf (maskedName text) = (partsOf text).map maskedPart := by
  have hne : (partsOf text).map maskedPart ≠ [] :=
    mt List.map_eq_nil_iff.mp (List.splitOn_ne_nil '.' text.toList)
  rw [maskedName, partsOf, String.toList_ofList]
  refine List.splitOn_intercalate '.' (fun part hpart => ?_) hne
  obtain ⟨p, -, rfl⟩ := List.mem_map.mp hpart
  exact not_dot_mem_maskedPart

/-- **The mask of a name** says how many parts it has and which of them are stars, and no more. -/
theorem maskedName_eq_iff {s t : String} :
    maskedName s = maskedName t ↔
      (partsOf s).map (fun p => decide (p = ['*'])) =
        (partsOf t).map fun p => decide (p = ['*']) := by
  have hmask : ∀ u, (partsOf u).map maskedPart =
      ((partsOf u).map fun p => decide (p = ['*'])).map
        fun star => if star then ['*'] else ['x'] := by
    intro u
    rw [List.map_map]
    refine List.map_congr_left fun p _ => ?_
    by_cases hp : p = ['*'] <;> simp [maskedPart, hp]
  have hstars : ∀ u, (partsOf u).map (fun p => decide (p = ['*'])) =
      ((partsOf u).map maskedPart).map fun p => decide (p = ['*']) := by
    intro u
    rw [List.map_map]
    refine List.map_congr_left fun p _ => ?_
    by_cases hp : p = ['*'] <;> simp [maskedPart, hp]
  constructor
  · intro h
    rw [hstars s, hstars t, ← partsOf_maskedName, ← partsOf_maskedName, h]
  · intro h
    rw [maskedName, maskedName, hmask s, hmask t, h]

/-- There is something left of every name. -/
theorem maskedName_ne_empty (text : String) : maskedName text ≠ "" := by
  intro h
  have hparts := partsOf_maskedName text
  rw [h] at hparts
  -- the parts of the empty text are one empty part, and no masked part is empty
  have hmem : [] ∈ (partsOf text).map maskedPart := by
    rw [← hparts]
    exact List.mem_singleton.mpr rfl
  obtain ⟨p, -, hp⟩ := List.mem_map.mp hmem
  unfold maskedPart at hp
  split at hp <;> simp_all

/-! ## Masks of clauses -/

/-- A join without the text of its names. -/
def Join.masked (j : Join) : Join :=
  ⟨j.table.masked, j.left.masked, j.right.masked, j.kind, maskedLabel j.label⟩

/-- A test without the text of its column. -/
def Test.masked : Test → Test
  | .raw sql => .raw sql
  | .column i operator markers => .column i.masked operator markers

/-- A condition without the text of its column. -/
def Condition.masked (c : Condition) : Condition := ⟨c.conjunction, c.test.masked⟩

/-- A sort term without the text of its column. -/
def OrderItem.masked (item : OrderItem) : OrderItem := ⟨item.column.masked, item.direction⟩

/-- The clauses of a `SELECT` without the text of their names. -/
def SelectClauses.masked (s : SelectClauses) : SelectClauses where
  columns := s.columns.map Identifier.masked
  table := s.table.map Identifier.masked
  label := maskedLabel s.label
  distinct := s.distinct
  joins := s.joins.map Join.masked
  conditions := s.conditions.map Condition.masked
  groupBy := s.groupBy.map Identifier.masked
  orderBy := s.orderBy.map OrderItem.masked
  limit := s.limit
  offset := s.offset

/-- The clauses of an `INSERT` without the text of their names. -/
def InsertClauses.masked (s : InsertClauses) : InsertClauses :=
  ⟨s.table.masked, s.columns.map Identifier.masked, s.rows⟩

/-- The clauses of an `UPDATE` without the text of their names. -/
def UpdateClauses.masked (s : UpdateClauses) : UpdateClauses :=
  ⟨s.table.masked, s.assignments.map fun a => (a.1.masked, a.2), s.conditions.map Condition.masked⟩

/-- The clauses of a statement. -/
inductive Clauses where
  | select (s : SelectClauses)
  | insert (s : InsertClauses)
  | update (s : UpdateClauses)
  deriving DecidableEq, Repr

namespace Clauses

/-- Clauses without the text of their names. -/
def masked : Clauses → Clauses
  | select s => .select s.masked
  | insert s => .insert s.masked
  | update s => .update s.masked

/-- The fragments of a statement. -/
def layout? (d : Dialect) : Clauses → Option (List Fragment)
  | select s => selectLayout? d s
  | insert s => some (insertLayout s)
  | update s => updateLayout? s

/-- A statement as the dialect writes it. -/
def write? (d : Dialect) (c : Clauses) : Option String := (c.layout? d).map (write d)

/-- Clauses that can be laid out and read one by one. -/
def WellFormed (d : Dialect) : Clauses → Prop
  | select s => s.WellFormed d
  | insert s => s.WellFormed
  | update s => s.WellFormed d

/-- Well-formed clauses have a layout. -/
theorem exists_layout {d : Dialect} {c : Clauses} (h : c.WellFormed d) :
    ∃ fs ls, c.layout? d = some fs ∧ Reads d fs ls := by
  cases c with
  | select s =>
    obtain ⟨fs, hfs, hreads⟩ := reads_select h
    exact ⟨fs, _, hfs, hreads⟩
  | insert s => exact ⟨_, _, rfl, reads_insert h⟩
  | update s =>
    obtain ⟨fs, hfs, hreads⟩ := reads_update h
    exact ⟨fs, _, hfs, hreads⟩

end Clauses

/-! ## Masks of fragments -/

/-- A fragment without the text of the name that it is a part of. -/
def Fragment.masked : Fragment → Fragment
  | .part _ => .part "x"
  | f => f

/-- Fragments without the text of names. -/
def maskedAll (fs : List Fragment) : List Fragment := fs.map Fragment.masked

@[simp] theorem maskedAll_nil : maskedAll [] = [] := rfl

@[simp] theorem maskedAll_keyword (k : String) (fs : List Fragment) :
    maskedAll (.keyword k :: fs) = .keyword k :: maskedAll fs := rfl

@[simp] theorem maskedAll_marker (m : Marker) (fs : List Fragment) :
    maskedAll (.marker m :: fs) = .marker m :: maskedAll fs := rfl

@[simp] theorem maskedAll_raw (sql : String) (fs : List Fragment) :
    maskedAll (.raw sql :: fs) = .raw sql :: maskedAll fs := rfl

@[simp] theorem maskedAll_append (fs gs : List Fragment) :
    maskedAll (fs ++ gs) = maskedAll fs ++ maskedAll gs := List.map_append

/-- Masks leave separators alone. -/
@[simp] theorem maskedAll_separated (k : String) (pieces : List (List Fragment)) :
    maskedAll (separated k pieces) = separated k (pieces.map maskedAll) := by
  induction pieces with
  | nil => rfl
  | cons fs pieces ih =>
    cases pieces with
    | nil => rfl
    | cons gs pieces => simpa [separated] using ih

/-- A clause is left out of the masked statement where it is left out. -/
@[simp] theorem maskedAll_clause (k : String) (present : Bool) (fs : List Fragment) :
    maskedAll (clause k present fs) = clause k present (maskedAll fs) := by
  cases present <;> simp [clause]

/-! ## Layouts -/

theorem partFragment_maskedPart (part : List Char) :
    partFragment (maskedPart part) = (partFragment part).masked := by
  by_cases hp : part = ['*']
  · simp [maskedPart, partFragment, hp, Fragment.masked]
  · simp [maskedPart, partFragment, hp, Fragment.masked]

/-- A masked name is written as the fragments of the name, masked. -/
@[simp] theorem fragments_masked (i : Identifier) :
    i.masked.fragments = maskedAll i.fragments := by
  cases i with
  | raw sql => rfl
  | name text =>
    have hparts : (maskedName text).toList.splitOn '.' = (text.toList.splitOn '.').map maskedPart :=
      partsOf_maskedName text
    simp only [Identifier.masked, Identifier.fragments, hparts, maskedAll_separated, List.map_map]
    refine congrArg (separated ".") (List.map_congr_left fun p _ => ?_)
    simp [maskedAll, partFragment_maskedPart]

/-- The same for a list of names. -/
theorem separated_identifiers_masked (is : List Identifier) :
    separated ", " ((is.map Identifier.masked).map Identifier.fragments) =
      maskedAll (separated ", " (is.map Identifier.fragments)) := by
  simp [Function.comp_def]

theorem columnsLayout_masked (columns : List Identifier) :
    columnsLayout (columns.map Identifier.masked) = maskedAll (columnsLayout columns) := by
  cases columns with
  | nil => rfl
  | cons i is => exact separated_identifiers_masked (i :: is)

theorem tableLayout_of_ne {a : String} (h : a ≠ "") (table : Identifier) :
    tableLayout table (some a) =
      table.fragments ++ .keyword " AS " :: (Identifier.name a).fragments := by
  unfold tableLayout
  split
  · next hnone => cases hnone
  · next hempty => exact absurd (Option.some.inj hempty) h
  · next hsome => rw [Option.some.inj hsome]

/-- A label is written when something is left of it. -/
theorem tableLayout_masked (table : Identifier) (label : Option String) :
    tableLayout table.masked (maskedLabel label) = maskedAll (tableLayout table label) := by
  cases label with
  | none => exact fragments_masked table
  | some a =>
    by_cases ha : a = ""
    · subst ha
      exact fragments_masked table
    · have hlabel : maskedLabel (some a) = some (maskedName a) := by simp [maskedLabel, ha]
      have hname : (Identifier.name (maskedName a)).fragments = _ := fragments_masked (.name a)
      rw [hlabel, tableLayout_of_ne ha, tableLayout_of_ne (maskedName_ne_empty a), hname]
      simp

theorem joinLayout_masked (j : Join) : joinLayout j.masked = maskedAll (joinLayout j) := by
  simp [joinLayout, Join.masked, tableLayout_masked]

theorem maskedAll_markersLayout (markers : List Marker) :
    maskedAll (markersLayout markers) = markersLayout markers := by
  simp [markersLayout, Function.comp_def]

/-- Whether a test can be written does not depend on its column. -/
theorem testLayout?_masked (t : Test) :
    testLayout? t.masked = (testLayout? t).map maskedAll := by
  cases t with
  | raw sql => rfl
  | column column operator markers =>
    simp only [Test.masked, testLayout?]
    split
    · simp
    · split
      · split
        · simp
        · simp [maskedAll_markersLayout]
      · cases markers <;> simp

theorem furtherConditionsLayout?_masked (cs : List Condition) :
    furtherConditionsLayout? (cs.map Condition.masked) =
      (furtherConditionsLayout? cs).map maskedAll := by
  induction cs with
  | nil => rfl
  | cons c cs ih =>
    simp only [List.map_cons, furtherConditionsLayout?, Condition.masked, testLayout?_masked, ih]
    cases testLayout? c.test <;> cases furtherConditionsLayout? cs <;> simp

/-- Nor does it for conditions in a row. -/
theorem conditionsLayout?_masked (cs : List Condition) :
    conditionsLayout? (cs.map Condition.masked) = (conditionsLayout? cs).map maskedAll := by
  cases cs with
  | nil => rfl
  | cons c cs =>
    simp only [List.map_cons, conditionsLayout?, Condition.masked, testLayout?_masked,
      furtherConditionsLayout?_masked]
    cases testLayout? c.test <;> cases furtherConditionsLayout? cs <;> simp

theorem orderItemLayout_masked (item : OrderItem) :
    orderItemLayout item.masked = maskedAll (orderItemLayout item) := by
  by_cases h : item.direction = "" <;> simp [orderItemLayout, OrderItem.masked, h]

theorem orderByLayout_masked (items : List OrderItem) :
    orderByLayout (items.map OrderItem.masked) = maskedAll (orderByLayout items) := by
  simp [orderByLayout, Function.comp_def, orderItemLayout_masked]

/-- The order that is added to page without one has no name in it. -/
theorem ordering_masked (d : Dialect) (s : SelectClauses) :
    d.ordering s.masked = (d.ordering s).map OrderItem.masked := by
  have hempty : (s.orderBy.map OrderItem.masked).isEmpty = s.orderBy.isEmpty := by simp
  unfold Dialect.ordering
  simp only [SelectClauses.masked, hempty]
  split <;> rfl

/-- **A query's layout commutes with the mask**, clause by clause. -/
theorem selectLayout?_masked (d : Dialect) (s : SelectClauses) :
    selectLayout? d s.masked = (selectLayout? d s).map maskedAll := by
  have htable : (s.table.map Identifier.masked).elim []
      (fun t => .keyword " FROM " :: tableLayout t (maskedLabel s.label)) =
        maskedAll (s.table.elim [] fun t => .keyword " FROM " :: tableLayout t s.label) := by
    cases s.table <;> simp [tableLayout_masked]
  have hjoins : (s.joins.map Join.masked).flatMap (fun j => .keyword " " :: joinLayout j) =
      maskedAll (s.joins.flatMap fun j => .keyword " " :: joinLayout j) := by
    simp [maskedAll, List.map_flatMap, List.flatMap_map, joinLayout_masked, Fragment.masked]
  have hgroup : groupByLayout (s.groupBy.map Identifier.masked) =
      maskedAll (groupByLayout s.groupBy) := separated_identifiers_masked s.groupBy
  simp only [selectLayout?, ordering_masked, orderByLayout_masked]
  simp only [SelectClauses.masked, conditionsLayout?_masked, columnsLayout_masked, htable, hjoins,
    hgroup, Option.map_map, List.isEmpty_map]
  refine Option.map_congr fun conditions _ => ?_
  simp only [Function.comp_apply, maskedAll_append, maskedAll_keyword, maskedAll_clause,
    maskedAll_nil]
  rfl

theorem insertLayout_masked (s : InsertClauses) :
    insertLayout s.masked = maskedAll (insertLayout s) := by
  simp [insertLayout, InsertClauses.masked, Function.comp_def, maskedAll_markersLayout]

theorem updateLayout?_masked (s : UpdateClauses) :
    updateLayout? s.masked = (updateLayout? s).map maskedAll := by
  simp only [updateLayout?, UpdateClauses.masked, conditionsLayout?_masked, Option.map_map,
    List.isEmpty_map, List.map_map]
  refine Option.map_congr fun conditions _ => ?_
  simp [Function.comp_def]

/-- **No layout looks at the text of a name.** -/
theorem Clauses.layout?_masked (d : Dialect) (c : Clauses) :
    c.masked.layout? d = (c.layout? d).map maskedAll := by
  cases c with
  | select s => exact selectLayout?_masked d s
  | insert s => exact congrArg some (insertLayout_masked s)
  | update s => exact updateLayout?_masked s

/-! ## Texts -/

/-- `SameBesideNames d l m`: the tokens are the same, or both are names in the dialect's quotes. -/
inductive SameBesideNames (d : Dialect) : Lexeme → Lexeme → Prop
  | same (l : Lexeme) : SameBesideNames d l l
  | names (a b : String) : SameBesideNames d (d.quotedName a) (d.quotedName b)

/-- Fragments with the same mask are the same, or both are parts of names. -/
theorem Fragment.eq_or_parts_of_masked {f g : Fragment} (h : f.masked = g.masked) :
    f = g ∨ ∃ a b, f = .part a ∧ g = .part b := by
  cases f <;> cases g <;> simp_all [Fragment.masked]

/-- Fragments with the same mask are read as the same tokens, quoted names aside. -/
theorem Fragment.forall₂_lex {d : Dialect} {f g : Fragment} (h : f.masked = g.masked) :
    List.Forall₂ (SameBesideNames d) (lex d.lexing (f.write d).toList)
      (lex d.lexing (g.write d).toList) := by
  obtain rfl | ⟨a, b, rfl, rfl⟩ := Fragment.eq_or_parts_of_masked h
  · exact List.forall₂_same.mpr fun l _ => .same l
  · rw [Fragment.write, Fragment.write, lex_quotePart, lex_quotePart]
    exact .cons (.names a b) .nil

/-- **Fragments with the same mask** are written as texts with the same tokens, quoted names
    aside. -/
theorem forall₂_lex_write {d : Dialect} {fs gs : List Fragment} {ls ms : List Lexeme}
    (hf : Reads d fs ls) (hg : Reads d gs ms) (h : maskedAll fs = maskedAll gs) :
    List.Forall₂ (SameBesideNames d) (lex d.lexing (write d fs).toList)
      (lex d.lexing (write d gs).toList) := by
  have hmasks : List.Forall₂ (fun f g : Fragment => f.masked = g.masked) fs gs := by
    rw [maskedAll, maskedAll, ← List.forall₂_eq_eq_eq] at h
    exact List.forall₂_map_right_iff.mp (List.forall₂_map_left_iff.mp h)
  rw [lex_write hf.spaced hf.closed, lex_write hg.spaced hg.closed]
  exact List.rel_flatMap hmasks fun _ _ hmask => Fragment.forall₂_lex hmask

end TaggedSql.Sql
