/-
  Queries in the making, and the calls that shape them.

  A draft holds the clauses collected so far and the bindings of their values.  `Draft.apply`
  carries out a call; it yields the draft reached and the fault, if any, that stopped the call.
  A call that complains leaves its draft as it was, with one exception, which `bindNamed`
  describes.

  A row of an `INSERT` is a mapping, matched to the columns by key, or a sequence, matched by
  position.  While there are no columns, the first mapping provides them.
-/
import TaggedSql.Query.Predicate
import TaggedSql.Sql.Layout
import TaggedSql.Value.Order

namespace TaggedSql.Query

open TaggedSql.Sql

/-! ## Drafts -/

/-- A `SELECT` in the making. -/
structure SelectDraft where
  clauses : SelectClauses
  bindings : Bindings

/-- An `INSERT` in the making.  Columns taken from the keys of a mapping may be any values. -/
structure InsertDraft where
  table : Identifier
  columns : List Value
  rows : List (List Marker)
  bindings : Bindings

/-- An `UPDATE` in the making. -/
structure UpdateDraft where
  clauses : UpdateClauses
  bindings : Bindings

/-- A query in the making. -/
inductive Draft where
  | select (d : SelectDraft)
  | insert (d : InsertDraft)
  | update (d : UpdateDraft)

/-- A call on a query. -/
inductive Call where
  /-- A comparison; without a value the operator is the value and the comparison is for equality. -/
  | compare (conjunction : Conjunction) (column : Identifier) (operator : Value)
      (value : Option Value)
  | whereRaw (expression : String) (parameters : List (String × Value))
  | columns (columns : List Identifier)
  | distinct (flag : Bool)
  | fromTable (table : Identifier) (label : Option String)
  | join (table left right : Identifier) (kind : String) (label : Option String)
  | groupBy (columns : List Identifier)
  | orderBy (column : Identifier) (direction : String)
  | limit (value : Value)
  | offset (value : Value)
  | values (rows : List Value)
  | set (column : Identifier) (value : Value)
  | setValues (values : List (String × Value))
  /-- An assignment of what holds no entries. -/
  | setOther (kind : String)

/-- The state that an attempt has reached, and the fault that stopped it. -/
structure Attempt (σ : Type) where
  state : σ
  fault : Option Fault

/-- An attempt that went through. -/
def Attempt.ok {σ : Type} (s : σ) : Attempt σ := ⟨s, none⟩

/-- An attempt that was stopped. -/
def Attempt.stopped {σ : Type} (s : σ) (f : Fault) : Attempt σ := ⟨s, some f⟩

/-- The attempt that turns `s` into what `r` yields, or leaves it when `r` is a fault. -/
def Attempt.ofExcept {σ : Type} (s : σ) : Except Fault σ → Attempt σ
  | .ok t => .ok t
  | .error f => .stopped s f

/-- The attempt on a part of a state, as one on the state. -/
def Attempt.map {σ τ : Type} (f : σ → τ) (a : Attempt σ) : Attempt τ := ⟨f a.state, a.fault⟩

/-! ## Conditions -/

/-- Bindings and conditions, the part that `SELECT` and `UPDATE` have in common. -/
structure Filter where
  bindings : Bindings
  conditions : List Condition

/-- Adds a comparison. -/
def Filter.compare (f : Filter) (conjunction : Conjunction) (column : Identifier)
    (operator : Value) (value : Option Value) : Except Fault Filter :=
  let operands := match value with
    | some v => (operator, v)
    | none => (.text "=", operator)
  (comparison column operands.1 operands.2 f.bindings).map fun r =>
    ⟨r.2, f.conditions ++ [⟨conjunction.text, r.1⟩]⟩

/-- Adds a raw condition and its parameters. -/
def Filter.whereRaw (f : Filter) (expression : String) (parameters : List (String × Value)) :
    Attempt Filter :=
  match bindNamed f.bindings parameters with
  | (b, some fault) => .stopped ⟨b, f.conditions⟩ fault
  | (b, none) => .ok ⟨b, f.conditions ++ [⟨Conjunction.and.text, .raw expression⟩]⟩

/-! ## `SELECT` -/

/-- The supported kinds of joins. -/
def joinKinds : List String := ["INNER", "LEFT", "RIGHT", "FULL"]

/-- The supported sort directions. -/
def directions : List String := ["ASC", "DESC"]

/-- The count that a value gives: none when it is absent. -/
def readCount (keyword : String) : Value → Except Fault (Option Int)
  | .null => .ok none
  | .int n => if n < 0 then .error (.showing (.int n) (.notACount keyword)) else .ok (some n)
  | v => .error (.showing v (.notACount keyword))

namespace SelectDraft

/-- The bindings and conditions of the draft. -/
def filter (d : SelectDraft) : Filter := ⟨d.bindings, d.clauses.conditions⟩

/-- The draft with other bindings and conditions. -/
def withFilter (d : SelectDraft) (f : Filter) : SelectDraft :=
  ⟨{ d.clauses with conditions := f.conditions }, f.bindings⟩

/-- The draft with other clauses. -/
def withClauses (d : SelectDraft) (c : SelectClauses) : SelectDraft := ⟨c, d.bindings⟩

/-- Adds a join of a supported kind. -/
def join (d : SelectDraft) (table left right : Identifier) (kind : String)
    (label : Option String) : Except Fault SelectDraft :=
  let kind := Text.upper kind
  if joinKinds.contains kind then
    .ok (d.withClauses { d.clauses with joins := d.clauses.joins ++ [⟨table, left, right, kind, label⟩] })
  else .error (.unknownJoin kind)

/-- Adds a sort term of a supported direction. -/
def orderBy (d : SelectDraft) (column : Identifier) (direction : String) :
    Except Fault SelectDraft :=
  let direction := Text.upper direction
  if directions.contains direction then
    .ok (d.withClauses { d.clauses with orderBy := d.clauses.orderBy ++ [⟨column, direction⟩] })
  else .error (.unknownDirection direction)

/-- Carries out a call. -/
def apply (d : SelectDraft) : Call → Attempt SelectDraft
  | .compare conjunction column operator value =>
    .ofExcept d ((d.filter.compare conjunction column operator value).map d.withFilter)
  | .whereRaw expression parameters => (d.filter.whereRaw expression parameters).map d.withFilter
  | .columns columns => .ok (d.withClauses { d.clauses with columns := d.clauses.columns ++ columns })
  | .distinct flag => .ok (d.withClauses { d.clauses with distinct := flag })
  | .fromTable table label =>
    .ok (d.withClauses { d.clauses with table := some table, label := label })
  | .join table left right kind label => .ofExcept d (d.join table left right kind label)
  | .groupBy columns => .ok (d.withClauses { d.clauses with groupBy := d.clauses.groupBy ++ columns })
  | .orderBy column direction => .ofExcept d (d.orderBy column direction)
  | .limit value =>
    .ofExcept d ((readCount "LIMIT" value).map fun n => d.withClauses { d.clauses with limit := n })
  | .offset value =>
    .ofExcept d ((readCount "OFFSET" value).map fun n => d.withClauses { d.clauses with offset := n })
  | .values _ | .set .. | .setValues _ | .setOther _ => .stopped d .unknownCall

/-- The statement as the dialect writes it. -/
def render (d : SelectDraft) (dialect : Dialect) : Except Fault String :=
  match selectLayout? dialect d.clauses with
  | some fs => .ok (write dialect fs)
  | none => .error .missingMarker

end SelectDraft

/-! ## `INSERT` -/

/-- An identifier as a value. -/
def valueOfIdentifier : Identifier → Value
  | .name text => .text text
  | .raw sql => .raw sql

/-- The identifier that a value is.  Statements are sequences of characters, so a text with a
    surrogate on its own is refused here. -/
def identifierOf : Value → Except Fault Identifier
  | .text s => .ok (.name s)
  | .raw sql => .ok (.raw sql)
  | v => .error (.unquotable v)

/-- The members of a row that is a sequence; growable bytes and views are sequences of numbers. -/
def sequence? : Value → Option (List Value)
  | .collection .list items | .collection .tuple items => some items
  | .blob .buffer bs | .blob .view bs => some (bs.map fun b => .int b.toNat)
  | _ => none

/-- Whether two lists hold the same values, order and repetitions aside. -/
def sameMembers (vs ws : List Value) : Bool :=
  vs.all (fun v => ws.any (v.same ·)) && ws.all fun w => vs.any (w.same ·)

/-- The value under a key of a row that has the key. -/
def entry (entries : List (Value × Value)) (key : Value) : Value :=
  ((entries.find? fun e => e.1.same key).map Prod.snd).getD .null

/-- The fault of a row whose keys, sorted, are not the columns. -/
def keyFault (keys columns : List Value) : Fault :=
  .showing (.collection .list keys) fun shown => .showing (.collection .list columns) (.rowKeys shown)

namespace InsertDraft

/-- Binds the values of a row, and returns their markers. -/
def bindRow (d : InsertDraft) (values : List Value) : List Marker × InsertDraft :=
  let bound := d.bindings.bindAll values
  (bound.1, { d with bindings := bound.2 })

/-- The markers of a row that is a mapping. -/
def mappingRow (d : InsertDraft) (entries : List (Value × Value)) :
    Except Fault (List Marker × InsertDraft) :=
  let keys := entries.map Prod.fst
  if d.columns.isEmpty then .ok ({ d with columns := keys }.bindRow (entries.map Prod.snd))
  else if sameMembers keys d.columns then .ok (d.bindRow (d.columns.map (entry entries)))
  else match Value.sort keys with
    | .ok sorted => .error (keyFault sorted d.columns)
    | .error cause => .error (.incomparable cause)

/-- The markers of a row. -/
def row (d : InsertDraft) (r : Value) : Except Fault (List Marker × InsertDraft) :=
  match r with
  | .mapping entries => d.mappingRow entries
  | r =>
    match sequence? r with
    | none => .error (.rowKind r)
    | some values =>
      if values.length = d.columns.length then .ok (d.bindRow values)
      else .error (.rowLength values.length d.columns.length)

/-- The markers of rows taken one after the other up to the first fault, and the draft reached. -/
def takeRows (d : InsertDraft) : List Value → InsertDraft × Except Fault (List (List Marker))
  | [] => (d, .ok [])
  | r :: rs =>
    match d.row r with
    | .error f => (d, .error f)
    | .ok (markers, d') =>
      let rest := d'.takeRows rs
      (rest.1, rest.2.map (markers :: ·))

/-- Adds rows, all of them or none: a complaint about one of them undoes the others. -/
def values (d : InsertDraft) (rs : List Value) : Attempt InsertDraft :=
  match d.takeRows rs with
  | (d', .ok markers) => .ok { d' with rows := d'.rows ++ markers }
  | (d', .error f) => .stopped (if f.isComplaint then d else d') f

/-- Carries out a call. -/
def apply (d : InsertDraft) : Call → Attempt InsertDraft
  | .columns columns =>
    if d.rows.isEmpty then .ok { d with columns := columns.map valueOfIdentifier }
    else .stopped d .columnsTooLate
  | .values rows => d.values rows
  | _ => .stopped d .unknownCall

/-- The statement as the dialect writes it. -/
def render (d : InsertDraft) (dialect : Dialect) : Except Fault String :=
  if d.rows.isEmpty then .error (.noRows d.table)
  else (d.columns.mapM identifierOf).map fun columns =>
    write dialect (insertLayout ⟨d.table, columns, d.rows⟩)

end InsertDraft

/-! ## `UPDATE` -/

/-- Assigns a marker to a column: in place when the column has one, at the end otherwise. -/
def assign (column : Identifier) (m : Marker) :
    List (Identifier × Marker) → List (Identifier × Marker)
  | [] => [(column, m)]
  | a :: rest => if a.1 = column then (column, m) :: rest else a :: assign column m rest

namespace UpdateDraft

/-- The bindings and conditions of the draft. -/
def filter (d : UpdateDraft) : Filter := ⟨d.bindings, d.clauses.conditions⟩

/-- The draft with other bindings and conditions. -/
def withFilter (d : UpdateDraft) (f : Filter) : UpdateDraft :=
  ⟨{ d.clauses with conditions := f.conditions }, f.bindings⟩

/-- Assigns a value to a column. -/
def set (d : UpdateDraft) (column : Identifier) (v : Value) : UpdateDraft :=
  let bound := d.bindings.bind v
  ⟨{ d.clauses with assignments := assign column bound.1 d.clauses.assignments }, bound.2⟩

/-- Assigns values to columns one after the other. -/
def setValues (d : UpdateDraft) (values : List (String × Value)) : UpdateDraft :=
  values.foldl (fun d p => d.set (.name p.1) p.2) d

/-- Carries out a call. -/
def apply (d : UpdateDraft) : Call → Attempt UpdateDraft
  | .compare conjunction column operator value =>
    .ofExcept d ((d.filter.compare conjunction column operator value).map d.withFilter)
  | .whereRaw expression parameters => (d.filter.whereRaw expression parameters).map d.withFilter
  | .set column value => .ok (d.set column value)
  | .setValues values => .ok (d.setValues values)
  | .setOther kind => .stopped d (.noEntries kind)
  | _ => .stopped d .unknownCall

/-- The statement as the dialect writes it. -/
def render (d : UpdateDraft) (dialect : Dialect) : Except Fault String :=
  if d.clauses.assignments.isEmpty then .error (.noAssignments d.clauses.table)
  else match updateLayout? d.clauses with
    | some fs => .ok (write dialect fs)
    | none => .error .missingMarker

end UpdateDraft

/-! ## All kinds alike -/

namespace Draft

/-- The kind of the query. -/
def kind : Draft → Kind
  | select _ => .select
  | insert _ => .insert
  | update _ => .update

/-- The bindings of the query. -/
def bindings : Draft → Bindings
  | select d => d.bindings
  | insert d => d.bindings
  | update d => d.bindings

/-- A `SELECT` of columns. -/
def ofSelect (columns : List Identifier) : Draft := .select ⟨.ofColumns columns, .empty⟩

/-- An `INSERT` into columns of a table. -/
def ofInsert (table : Identifier) (columns : List Identifier) : Draft :=
  .insert ⟨table, columns.map valueOfIdentifier, [], .empty⟩

/-- An `UPDATE` of a table that assigns values. -/
def ofUpdate (table : Identifier) (values : List (String × Value)) : Draft :=
  .update (UpdateDraft.setValues ⟨⟨table, [], []⟩, .empty⟩ values)

/-- Whether the kind of query knows the call. -/
def knows : Draft → Call → Bool
  | select _, .values _ | select _, .set .. | select _, .setValues _ | select _, .setOther _ => false
  | select _, _ => true
  | insert _, .columns _ | insert _, .values _ => true
  | insert _, _ => false
  | update _, .compare .. | update _, .whereRaw .. | update _, .set .. | update _, .setValues _
  | update _, .setOther _ => true
  | update _, _ => false

/-- Carries out a call. -/
def apply (d : Draft) (c : Call) : Attempt Draft :=
  match d with
  | select d => (d.apply c).map select
  | insert d => (d.apply c).map insert
  | update d => (d.apply c).map update

/-- The statement as the dialect writes it. -/
def render (d : Draft) (dialect : Dialect) : Except Fault String :=
  match d with
  | select d => d.render dialect
  | insert d => d.render dialect
  | update d => d.render dialect

end Draft

end TaggedSql.Query
