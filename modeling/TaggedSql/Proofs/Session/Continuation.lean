/-
  What no step of a session changes.

  1. **Lifting** (`Connection.Carries`, `Connection.Lifts`) — what the operations of a driver keep,
     those of a connection keep as well, up to what is noted beside the driver.

  2. **Continuation** — a connection keeps its driver, its dialect and its strictness, and a session
     keeps the statements that were prepared in it.  One lemma for every operation says so, and from
     them follows that all commands do (`continues_command`), that all steps do, blocks included
     (`continues_step`), and that whole runs do.

  3. **Accounts** — the report on a step holds the calls that were made in it and no others
     (`events_step`); those on the steps of a block, one after the other, are the calls that were
     made between entering and leaving it (`events_runUntilFailure`).
-/
import TaggedSql.Proofs.Driver
import TaggedSql.Session.Script

namespace TaggedSql

open Operation

/-! ## Connections -/

namespace Connection

section Keeps

variable {R : Driver → Driver → Prop} {S : Connection → Connection → Prop}

/-- Whether what is kept of a driver is kept of a connection on which statements are used: the
    driver changes, and which streams have been read. -/
def Carries (R : Driver → Driver → Prop) (S : Connection → Connection → Prop) : Prop :=
  ∀ (c : Connection) (d : Driver) (drained : List Nat), R c.driver d →
    S c { c with driver := d, drained := drained }

/-- Whether it is also kept when transactions begin and end. -/
def Lifts (R : Driver → Driver → Prop) (S : Connection → Connection → Prop) : Prop :=
  ∀ (c : Connection) (d : Driver) (flag : Bool) (drained : List Nat), R c.driver d →
    S c { c with driver := d, inTransaction := flag, drained := drained }

/-- What holds whatever becomes of the flag holds when it stays. -/
theorem Lifts.carries (hS : Lifts R S) : Carries R S :=
  fun c d drained hd => hS c d c.inTransaction drained hd

theorem keeps_onDriver (hS : Carries R S) {α : Type} {x : Operation Driver α} (h : Keeps R x) :
    Keeps S (onDriver x) :=
  .within h fun c d hd => hS c d c.drained hd

/-- The flag may be set and cleared at will. -/
theorem keeps_setTransaction [IsPreorder Driver R] (hS : Lifts R S) (flag : Bool) :
    Keeps S (modify fun c => { c with inTransaction := flag } : Operation Connection Unit) :=
  .modify fun c => hS c c.driver flag c.drained (refl _)

/-- To resolve values leaves the driver alone, so that any preorder on drivers is kept. -/
theorem keeps_parameters [IsPreorder Driver R] (hS : Carries R S) (s : Statement)
    (supplied : List (String × Value)) : Keeps S (parameters s supplied) :=
  .ofOutcome fun c => hS c c.driver _ (refl _)

variable [IsPreorder Connection S]

/-- A compiled text is handed on to the driver once; one that does not compile is not. -/
theorem keeps_prepare (hS : Carries R S) (h : ∀ sql, Keeps R (Driver.prepare sql)) (sql : String) :
    Keeps S (prepare sql) := by
  refine .bind .get fun c => ?_
  split
  · exact .throw _
  · exact .bind (keeps_onDriver hS (h _)) fun _ => .pure _

variable [IsPreorder Driver R]

/-- Bindings are made one by one up to the first that fails. -/
theorem keeps_bindAll (h : ∀ n position v type, Keeps R (Driver.bindValue n position v type))
    (number : Nat) (bs : List BoundValue) : Keeps R (Statement.bindAll number bs) := by
  induction bs with
  | nil => exact .pure _
  | cons b bs ih => exact .bind (h _ _ _ _) fun _ => ih

/-- An execution resolves, binds and runs: what the driver's two calls keep is kept by all
    of it. -/
theorem keeps_execute (hS : Carries R S)
    (hbind : ∀ n position v type, Keeps R (Driver.bindValue n position v type))
    (hrun : ∀ n, Keeps R (Driver.execute n)) (s : Statement) (supplied : List (String × Value)) :
    Keeps S (execute s supplied) :=
  .bind (keeps_parameters hS s supplied) fun bs =>
    keeps_onDriver hS (.bind (keeps_bindAll hbind _ bs) fun _ => hrun _)

theorem keeps_begin (hS : Lifts R S) (h : Keeps R Driver.begin) : Keeps S begin := by
  refine .bind .get fun c => ?_
  have hrest : Keeps S (do
      onDriver Driver.begin
      modify fun c => { c with inTransaction := true }) :=
    .bind (keeps_onDriver hS.carries h) fun _ => keeps_setTransaction hS true
  dsimp only
  split
  · exact .bind (.throw _) fun _ => hrest
  · exact hrest

theorem keeps_endWith (hS : Lifts R S) {x : Operation Driver Unit} (h : Keeps R x) :
    Keeps S (endWith x) :=
  .bind (.observe (keeps_onDriver hS.carries h)) fun _ =>
    .bind (keeps_setTransaction hS false) fun _ => .settle _

end Keeps

/-- Whether the second connection is what the first has become by being used. -/
structure Continues (c c' : Connection) : Prop where
  driver : c.driver.Continues c'.driver
  dialect : c'.dialect = c.dialect
  strict : c'.strict = c.strict

instance : IsPreorder Connection Continues where
  refl c := ⟨refl c.driver, rfl, rfl⟩
  trans := by
    rintro c c' c'' ⟨hd, hg, hs⟩ ⟨hd', hg', hs'⟩
    exact ⟨IsTrans.trans _ _ _ hd hd', hg'.trans hg, hs'.trans hs⟩

/-- A connection goes on as its driver does. -/
theorem lifts_continues : Lifts Driver.Continues Continues := fun _ _ _ _ hd => ⟨hd, rfl, rfl⟩

theorem continues_prepare (sql : String) : Keeps Continues (prepare sql) :=
  keeps_prepare lifts_continues.carries Driver.continues_prepare sql

theorem continues_parameters (s : Statement) (supplied : List (String × Value)) :
    Keeps Continues (parameters s supplied) := keeps_parameters lifts_continues.carries s supplied

/-- An execution goes on from the calls made so far, wherever it fails. -/
theorem continues_execute (s : Statement) (supplied : List (String × Value)) :
    Keeps Continues (execute s supplied) :=
  keeps_execute lifts_continues.carries Driver.continues_bindValue Driver.continues_execute s
    supplied

theorem continues_query (sql : String) (supplied : List (String × Value)) :
    Keeps Continues (query sql supplied) :=
  .bind (continues_prepare sql) fun s => continues_execute s supplied

theorem continues_begin : Keeps Continues begin :=
  keeps_begin lifts_continues Driver.continues_begin

theorem continues_commit : Keeps Continues commit :=
  keeps_endWith lifts_continues (Driver.continues_finish _)

theorem continues_rollback : Keeps Continues rollback :=
  keeps_endWith lifts_continues (Driver.continues_finish _)

theorem continues_close : Keeps Continues close :=
  keeps_onDriver lifts_continues.carries Driver.continues_close

/-- A transaction block is left by one call or, where the commit fails, by two. -/
theorem continues_leave (r : Except Error Unit) : Keeps Continues (leave r) := by
  cases r with
  | error e => exact .bind continues_rollback fun _ => .throw e
  | ok a =>
    refine .bind (.observe continues_commit) fun r => ?_
    cases r with
    | ok _ => exact .pure _
    | error e => exact .bind continues_rollback fun _ => .throw e

theorem continues_leaveClosing (r : Except Error Unit) : Keeps Continues (leaveClosing r) :=
  .bind continues_close fun _ => .settle r

end Connection

/-! ## Sessions -/

namespace Session

open TaggedSql.Query

/-- Whether the second session is what the first has become by steps being taken in it. -/
structure Continues (s t : Session) : Prop where
  connection : s.connection.Continues t.connection
  statements : ∃ ss, t.statements = s.statements ++ ss

instance : IsPreorder Session Continues where
  refl s := ⟨refl s.connection, [], by simp⟩
  trans := by
    rintro s t u ⟨hc, ss, hs⟩ ⟨hc', ss', hs'⟩
    exact ⟨IsTrans.trans _ _ _ hc hc', ss ++ ss', by rw [hs', hs, List.append_assoc]⟩

theorem continues_onConnection {α : Type} {x : Operation Connection α}
    (h : Keeps Connection.Continues x) : Keeps Continues (onConnection x) :=
  .within h fun _ _ hc => ⟨hc, [], by simp⟩

theorem continues_entryAt {α : Type} (xs : List α) (number : Nat) :
    Keeps Continues (entryAt xs number) := by
  unfold entryAt
  split
  · exact .pure _
  · exact .throw _

theorem continues_statement (number : Nat) : Keeps Continues (statement number) :=
  .bind .get fun _ => continues_entryAt _ number

/-- A statement that is prepared comes after those that were prepared before. -/
theorem outcome_prepare_of_ok {sql : String} {s : Session} {made : Statement} {c : Connection}
    (h : (Connection.prepare sql).outcome s.connection = (.ok made, c)) :
    (prepare sql).outcome s =
      (.ok s.statements.length,
        { s with connection := c, statements := s.statements ++ [made] }) := by
  have hmade : (onConnection (Connection.prepare sql)).outcome s =
      (.ok made, { s with connection := c }) := by
    rw [onConnection, outcome_within, h]
  rw [prepare, outcome_bind_of_ok hmade]
  rfl

/-- A text that is not prepared takes no handle. -/
theorem outcome_prepare_of_error {sql : String} {s : Session} {e : Error} {c : Connection}
    (h : (Connection.prepare sql).outcome s.connection = (.error e, c)) :
    (prepare sql).outcome s = (.error e, { s with connection := c }) :=
  outcome_bind_of_error (by rw [onConnection, outcome_within, h]) _

theorem continues_prepare (sql : String) : Keeps Continues (prepare sql) := by
  intro s
  have hc := Connection.continues_prepare sql s.connection
  rcases h : (Connection.prepare sql).outcome s.connection with ⟨e | made, c⟩ <;> rw [h] at hc
  · rw [outcome_prepare_of_error h]
    exact ⟨hc, [], by simp⟩
  · rw [outcome_prepare_of_ok h]
    exact ⟨hc, [made], rfl⟩

theorem continues_makeBuilder (draft : Draft) : Keeps Continues (makeBuilder draft) :=
  fun s => ⟨refl s.connection, [], (List.append_nil s.statements).symm⟩

/-- A builder's method leaves the connection alone. -/
theorem continues_withBuilder {α : Type} (number : Nat) (f : Builder → Except Fault α × Builder) :
    Keeps Continues (withBuilder number f) :=
  .bind .get fun _ => .bind (continues_entryAt _ number) fun _ =>
    .bind (.modify fun s => ⟨refl s.connection, [], by simp⟩) fun _ => .settle _

/-- A builder that is executed is built first, and its text is then one query. -/
theorem continues_executeBuilder (number : Nat) : Keeps Continues (executeBuilder number) :=
  .bind (continues_withBuilder number _) fun r =>
    continues_onConnection (Connection.continues_query r.sql r.parameters)

/-- **What every command preserves.** -/
theorem continues_command (c : Command) : Keeps Continues c.run := by
  cases c with
  | prepare sql =>
    exact .bind (continues_prepare sql) fun n => .bind (continues_statement n) fun _ =>
      .bind .get fun _ => .pure _
  | query sql supplied =>
    exact .bind (continues_onConnection (Connection.continues_query sql supplied)) fun _ => .pure _
  | execute n supplied =>
    exact .bind (continues_statement n) fun s =>
      .bind (continues_onConnection (Connection.continues_execute s supplied)) fun _ => .pure _
  | parameters n supplied =>
    exact .bind (continues_statement n) fun s =>
      .bind (continues_onConnection (Connection.continues_parameters s supplied)) fun _ => .pure _
  | display n => exact .bind (continues_statement n) fun _ => .pure _
  | quote name => exact .bind .get fun _ => .pure _
  | begin => exact .bind (continues_onConnection Connection.continues_begin) fun _ => .pure _
  | commit => exact .bind (continues_onConnection Connection.continues_commit) fun _ => .pure _
  | rollback => exact .bind (continues_onConnection Connection.continues_rollback) fun _ => .pure _
  | close => exact .bind (continues_onConnection Connection.continues_close) fun _ => .pure _
  | describe => exact .bind .get fun _ => .pure _
  | makeBuilder draft => exact .bind (continues_makeBuilder draft) fun _ => .pure _
  | ask n r =>
    cases r with
    | execute => exact .bind (continues_executeBuilder n) fun _ => .pure _
    | _ => exact .bind (continues_withBuilder n _) fun _ => .pure _

theorem continues_enter (b : Block) : Keeps Connection.Continues b.enter := by
  cases b with
  | transaction => exact Connection.continues_begin
  | closing => exact .pure ()

theorem continues_leaveBlock (b : Block) (r : Except Error Unit) :
    Keeps Connection.Continues (b.leave r) := by
  cases b with
  | transaction => exact Connection.continues_leave r
  | closing => exact Connection.continues_leaveClosing r

/-! ## Steps -/

/-- A command reports its own outcome and nothing nested. -/
theorem run_command (s : Session) (c : Command) :
    (Step.command c).run s =
      (report s (c.run.outcome s).2 (c.run.outcome s).1 none, (c.run.outcome s).2) := by
  rw [Step.run]

/-- A block that is not entered runs no step. -/
theorem run_block_of_error {b : Block} {s t : Session} {e : Error}
    (h : (onConnection b.enter).outcome s = (.error e, t)) (steps : List Step)
    (gaveUp : Option String) :
    (Step.block b steps gaveUp).run s = (report s t (.error e) (some []), t) := by
  rw [Step.run, h]

/-- A block that is entered: its steps are run, and it is left as they ended. -/
theorem run_block_of_ok {b : Block} {s t u : Session} {r : Except Error Unit} {steps : List Step}
    {gaveUp : Option String} (h : (onConnection b.enter).outcome s = (.ok (), t))
    (hleft : (onConnection (b.leave (ending (runUntilFailure t steps).1 gaveUp))).outcome
      (runUntilFailure t steps).2 = (r, u)) :
    (Step.block b steps gaveUp).run s =
      (report s u (r.map fun _ => .connection) (some (runUntilFailure t steps).1), u) := by
  rw [Step.run, h]
  simp only [hleft]

mutual

/-- **What every step preserves.** -/
theorem continues_step (s : Session) : ∀ step : Step, Continues s (step.run s).2
  | .command c => by
    rw [Step.run]
    exact continues_command c s
  | .block b steps gaveUp => by
    -- a block is entered, its steps are run, and it is left, unless entering fails
    have henter := continues_onConnection (continues_enter b) s
    rcases h : (onConnection b.enter).outcome s with ⟨e | _, t⟩ <;> rw [h] at henter
    · rw [run_block_of_error h]
      exact henter
    · rw [run_block_of_ok h rfl]
      exact IsTrans.trans _ _ _ henter (IsTrans.trans _ _ _ (continues_runUntilFailure t steps)
        (continues_onConnection (continues_leaveBlock b _) _))

/-- **What the steps of a block preserve.** -/
theorem continues_runUntilFailure (s : Session) :
    ∀ steps : List Step, Continues s (runUntilFailure s steps).2
  | [] => by
    rw [runUntilFailure]
    exact refl s
  | step :: steps => by
    have hfirst := continues_step s step
    rw [runUntilFailure]
    split
    · exact hfirst
    · exact IsTrans.trans _ _ _ hfirst (continues_runUntilFailure _ steps)

end

theorem continues_runAll (s : Session) (steps : List Step) : Continues s (runAll s steps).2 := by
  induction steps generalizing s with
  | nil => exact refl s
  | cons step steps ih => exact IsTrans.trans _ _ _ (continues_step s step) (ih _)

/-! ## Accounts -/

/-- The calls that a report holds. -/
def Report.events : Report → List Event
  | mk _ es _ _ => es

/-- A report holds the calls between its two sessions. -/
theorem events_report {s t : Session} (h : Continues s t) (r : Except Error Reply)
    (nested : Option (List Report)) :
    t.connection.events = s.connection.events ++ (report s t r nested).events := by
  obtain ⟨es, hes⟩ := h.connection.driver.events
  rw [report, Report.events, Connection.events, Connection.events, hes, List.drop_left]

/-- Every step reports on the sessions it is between. -/
theorem exists_report (s : Session) (step : Step) :
    ∃ r nested, (step.run s).1 = report s (step.run s).2 r nested := by
  cases step with
  | command c =>
    rw [Step.run]
    exact ⟨_, _, rfl⟩
  | block b steps gaveUp =>
    rcases h : (onConnection b.enter).outcome s with ⟨e | _, t⟩
    · rw [run_block_of_error h]
      exact ⟨_, _, rfl⟩
    · rw [run_block_of_ok h rfl]
      exact ⟨_, _, rfl⟩

/-- **The report on a step holds the calls that were made in it.** -/
theorem events_step (s : Session) (step : Step) :
    (step.run s).2.connection.events = s.connection.events ++ (step.run s).1.events := by
  obtain ⟨r, nested, h⟩ := exists_report s step
  rw [h]
  exact events_report (continues_step s step) r nested

/-- **The reports on the steps of a block hold the calls that were made in them**, one after the
    other. -/
theorem events_runUntilFailure (s : Session) (steps : List Step) :
    (runUntilFailure s steps).2.connection.events =
      s.connection.events ++ (runUntilFailure s steps).1.flatMap Report.events := by
  induction steps generalizing s with
  | nil =>
    rw [runUntilFailure]
    simp
  | cons step steps ih =>
    rw [runUntilFailure]
    split
    · simp [events_step]
    · simp [ih, events_step]

end Session

end TaggedSql
