/-
  What a caller supplies, read off the calls alone.

  1. **Openings** — a `SELECT` of columns, an `INSERT` into a table, or an `UPDATE` of a table with
     values assigned at once, which is the same as assigning them by the first call.

  2. **Conditions and assignments** — a comparison supplies its operands: nothing when it compares
     with the absent value, the items of a collection, and otherwise the value itself.  Of the
     values assigned to a column the last one counts, in the place of the first one (`latest`).

  3. **Rows** — a mapping supplies its values in column order, a sequence its members; the first
     mapping provides the columns when there are none.

  `Opening.supplied` puts these together: the values of a statement in the order of its markers.
-/
import Mathlib.Data.List.Nodup
import TaggedSql.Placeholder.Compile
import TaggedSql.Query.Builder

namespace TaggedSql.Query

open TaggedSql.Sql

/-! ## Openings -/

/-- How a query is started. -/
inductive Opening where
  | select (columns : List Identifier)
  | insert (table : Identifier) (columns : List Identifier)
  | update (table : Identifier) (values : List (String × Value))

/-- The draft that a query is started with. -/
def Opening.draft : Opening → Draft
  | .select columns => .ofSelect columns
  | .insert table columns => .ofInsert table columns
  | .update table values => .ofUpdate table values

/-- The identifiers that a query is started with. -/
def Opening.identifiers : Opening → List Identifier
  | .select columns => columns
  | .insert table columns => table :: columns
  | .update table _ => [table]

/-- The identifiers that a call mentions. -/
def Call.identifiers : Call → List Identifier
  | .compare _ column _ _ => [column]
  | .columns names => names
  | .fromTable table _ => [table]
  | .join table left right _ _ => [table, left, right]
  | .groupBy names => names
  | .orderBy column _ => [column]
  | .set column _ => [column]
  | .whereRaw .. | .distinct _ | .limit _ | .offset _ | .values _ | .setValues _ | .setOther _ => []

/-- The keys of a row that is a mapping. -/
def rowKeys : Value → List Value
  | .mapping entries => entries.map Prod.fst
  | _ => []

/-- The keys that rows bring along. -/
def Call.keys : Call → List Value
  | .values rows => rows.flatMap rowKeys
  | _ => []

/-- Whether an identifier is a name to quote. -/
def isName : Identifier → Bool
  | .name _ => true
  | .raw _ => false

/-- Whether a value is text. -/
def isText : Value → Bool
  | .text _ => true
  | _ => false

/-- Whether a call refers to columns and tables by name only. -/
def Call.namesOnly (c : Call) : Bool := c.identifiers.all isName && c.keys.all isText

/-! ## Conditions and assignments -/

/-- The values that a comparison with a value stores. -/
def operands : Value → List Value
  | .null => []
  | .collection _ items => items
  | v => [v]

/-- The values that a call supplies for a condition. -/
def Call.operands : Call → List Value
  | .compare _ _ operator value => Query.operands (value.getD operator)
  | _ => []

/-- The columns that a call assigns values to. -/
def Call.settings : Call → List (Identifier × Value)
  | .set column value => [(column, value)]
  | .setValues entries => entries.map fun p => (.name p.1, p.2)
  | _ => []

/-- The parameters that a raw condition brings along. -/
def Call.rawParameters : Call → List (String × Value)
  | .whereRaw _ parameters => parameters
  | _ => []

/-- The columns in the order in which they were set first, each with what it was set to last. -/
def latest {α : Type} (settings : List (Identifier × α)) : List (Identifier × α) :=
  (settings.map Prod.fst).eraseDups.filterMap fun column =>
    (settings.reverse.lookup column).map fun v => (column, v)

/-! ## Latest assignments -/

/-- Removing repetitions leaves none. -/
theorem nodup_eraseDups {α : Type} [BEq α] [LawfulBEq α] (l : List α) : l.eraseDups.Nodup := by
  induction l with
  | nil => exact List.nodup_nil
  | cons a l ih =>
    rw [List.eraseDups_cons, Placeholder.eraseDups_filter]
    refine List.nodup_cons.mpr ⟨fun ha => ?_, ih.filter _⟩
    have := (List.mem_filter.mp ha).2
    simp at this

/-- Assigning to one of some columns, each with its value, replaces the value of that column or
    adds the column at the end. -/
theorem assign_filterMap {column : Identifier} {m : Marker} {value : Identifier → Option Marker}
    {columns : List Identifier} (hn : columns.Nodup) (hv : ∀ i ∈ columns, (value i).isSome) :
    assign column m (columns.filterMap fun i => (value i).map fun w => (i, w)) =
      (if column ∈ columns then columns else columns ++ [column]).filterMap fun i =>
        (if i = column then some m else value i).map fun w => (i, w) := by
  induction columns with
  | nil => simp [assign]
  | cons i columns ih =>
    obtain ⟨hi, hn⟩ := List.nodup_cons.mp hn
    obtain ⟨w, hw⟩ := Option.isSome_iff_exists.mp (hv i List.mem_cons_self)
    by_cases hc : i = column
    · -- the column is the first one: its value is replaced, and no other column is it
      subst hc
      have hrest :
          columns.filterMap (fun j => (if j = i then some m else value j).map fun w => (j, w)) =
            columns.filterMap fun j => (value j).map fun w => (j, w) := by
        refine List.filterMap_congr fun j hj => ?_
        rw [if_neg (by rintro rfl; exact hi hj)]
      simp [assign, hw, hrest]
    · have hmem : column ∈ i :: columns ↔ column ∈ columns := by simp [Ne.symm hc]
      have hrest := ih hn fun j hj => hv j (List.mem_cons_of_mem i hj)
      by_cases hin : column ∈ columns
      · rw [if_pos hin] at hrest
        rw [if_pos (hmem.mpr hin)]
        simp [assign, hw, hc, hrest]
      · rw [if_neg hin] at hrest
        rw [if_neg (mt hmem.mp hin)]
        simp only [List.filterMap_cons, hw, Option.map_some, assign, hc, ite_false, hrest,
          List.cons_append]

/-- **Assigning is setting last.** -/
theorem latest_concat (settings : List (Identifier × Marker)) (column : Identifier) (m : Marker) :
    latest (settings ++ [(column, m)]) = assign column m (latest settings) := by
  have hvalue : ∀ i ∈ (settings.map Prod.fst).eraseDups, (settings.reverse.lookup i).isSome := by
    intro i hi
    obtain ⟨a, ha, rfl⟩ := List.mem_map.mp (List.mem_eraseDups.mp hi)
    exact List.lookup_isSome_iff.mpr ⟨a, List.mem_reverse.mpr ha, by simp⟩
  have hlookup : ∀ i, (settings ++ [(column, m)]).reverse.lookup i =
      if i = column then some m else settings.reverse.lookup i := by
    intro i
    rw [List.reverse_append, List.reverse_singleton, List.singleton_append, List.lookup_cons]
    by_cases hi : i = column
    · simp [hi]
    · have hne : (i == column) = false := by simp [hi]
      simp [hi, hne]
  rw [latest, latest, assign_filterMap (nodup_eraseDups _) hvalue]
  simp only [hlookup, List.mem_eraseDups]
  congr 1
  rw [List.map_append, List.eraseDups_append]
  by_cases hc : column ∈ settings.map Prod.fst
  · rw [if_pos hc]
    simp [List.removeAll, hc]
  · rw [if_neg hc]
    simp [List.removeAll, hc, List.eraseDups_cons]

/-- Setting values and converting them can be exchanged. -/
theorem latest_map {α β : Type} (f : α → β) (settings : List (Identifier × α)) :
    latest (settings.map fun a => (a.1, f a.2)) = (latest settings).map fun a => (a.1, f a.2) := by
  have hlookup : ∀ (as : List (Identifier × α)) (i : Identifier),
      (as.map fun a => (a.1, f a.2)).lookup i = (as.lookup i).map f := by
    intro as i
    induction as with
    | nil => rfl
    | cons a as ih =>
      obtain ⟨column, v⟩ := a
      simp only [List.map_cons, List.lookup_cons, ih]
      cases i == column <;> rfl
  rw [latest, latest, List.map_filterMap, List.map_map, ← List.map_reverse]
  refine List.filterMap_congr fun i _ => ?_
  rw [hlookup, Option.map_map, Option.map_map]
  rfl

theorem mem_of_mem_latest {α : Type} {a : Identifier × α} {settings : List (Identifier × α)}
    (h : a ∈ latest settings) : a ∈ settings := by
  obtain ⟨i, -, hi⟩ := List.mem_filterMap.mp h
  obtain ⟨v, hv, rfl⟩ := Option.map_eq_some_iff.mp hi
  obtain ⟨front, back, hsplit, -⟩ := List.lookup_eq_some_iff.mp hv
  rw [← List.mem_reverse, hsplit]
  exact List.mem_append_right front List.mem_cons_self

/-- No column is assigned to twice. -/
theorem nodup_latest {α : Type} (settings : List (Identifier × α)) : (latest settings).Nodup := by
  refine List.Nodup.filterMap (fun i j a hi hj => ?_) (nodup_eraseDups _)
  obtain ⟨v, -, rfl⟩ := Option.map_eq_some_iff.mp hi
  obtain ⟨w, -, hw⟩ := Option.map_eq_some_iff.mp hj
  exact (Prod.mk.inj hw).1.symm

/-! ## Rows -/

/-- The values of a row in column order. -/
def rowValues (columns : List Value) : Value → List Value
  | .mapping entries =>
    if columns.isEmpty then entries.map Prod.snd else columns.map (entry entries)
  | row => (sequence? row).getD []

/-- The columns after a row: those there are, or else the keys of a mapping. -/
def columnsAfter (columns : List Value) (row : Value) : List Value :=
  if columns.isEmpty then rowKeys row else columns

/-- The values of rows, row by row. -/
def rowsValues (columns : List Value) : List Value → List Value
  | [] => []
  | row :: rows => rowValues columns row ++ rowsValues (columnsAfter columns row) rows

/-- The values that calls insert into columns, row by row. -/
def insertedValues (columns : List Value) : List Call → List Value
  | [] => []
  | .columns names :: calls => insertedValues (names.map valueOfIdentifier) calls
  | .values rows :: calls =>
    rowsValues columns rows ++ insertedValues (rows.foldl columnsAfter columns) calls
  | _ :: calls => insertedValues columns calls

/-! ## All of a statement -/

/-- The columns that are assigned to, each with its value. -/
def Opening.assigned (values : List (String × Value)) (calls : List Call) :
    List (Identifier × Value) :=
  latest ((Call.setValues values :: calls).flatMap Call.settings)

/-- The values that a caller supplies to a statement, in the order of its markers. -/
def Opening.supplied (o : Opening) (calls : List Call) : List Value :=
  match o with
  | .select _ => calls.flatMap Call.operands
  | .insert _ columns => insertedValues (columns.map valueOfIdentifier) calls
  | .update _ values =>
    (Opening.assigned values calls).map Prod.snd ++ calls.flatMap Call.operands

end TaggedSql.Query
