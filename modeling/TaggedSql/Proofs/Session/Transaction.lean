/-
  Transaction blocks.

  1. **Ends of transactions** — a commit and a rollback are one call each, and the transaction is
     over after it, whether the call fails or not.

  2. **Closing** (`Closes`) — what a block calls at its end: a rollback when its body failed, a
     commit when it went through, and a rollback more when that commit fails.

  3. **The protocol** (`transaction_block_protocol`) — a block that is not entered runs nothing and
     ends nothing; one that is entered runs its body, closes, and leaves no transaction under way.
     The session is any, so this holds of blocks within blocks as well.
-/
import TaggedSql.Proofs.Session.Continuation

namespace TaggedSql

open Operation

namespace Connection

/-! ## Ends of transactions -/

/-- The connection when the driver has been told how the transaction ends. -/
def ended (c : Connection) (e : Event) : Connection :=
  { c with driver := { c.driver with busy := false }.received e, inTransaction := false }

@[simp] theorem ended_events (c : Connection) (e : Event) :
    (c.ended e).events = c.events ++ [e] := rfl

@[simp] theorem ended_inTransaction (c : Connection) (e : Event) :
    (c.ended e).inTransaction = false := rfl

theorem outcome_endWith_finish (e : Event) (c : Connection) :
    (endWith (Driver.finish e)).outcome c = (c.driver.answer e, c.ended e) := by
  have hdriver : (observe (onDriver (Driver.finish e))).outcome c =
      (.ok (c.driver.answer e),
        { c with driver := { c.driver with busy := false }.received e }) := by
    rw [outcome_observe, onDriver, outcome_within, Driver.outcome_finish]
  rw [endWith, outcome_bind_of_ok hdriver, outcome_bind_of_ok (outcome_modify _ _), outcome_settle]
  rfl

theorem outcome_commit (c : Connection) :
    commit.outcome c = (c.driver.answer .commit, c.ended .commit) := outcome_endWith_finish _ c

theorem outcome_rollback (c : Connection) :
    rollback.outcome c = (c.driver.answer .rollback, c.ended .rollback) :=
  outcome_endWith_finish _ c

/-! ## Closing -/

/-- `Closes d r calls r'`: a block whose body ended as `r` says makes the calls to the driver and
    ends as `r'` says. -/
inductive Closes (d : Driver) : Except Error Unit → List Event → Except Error Unit → Prop
  /-- The body went through, and is committed. -/
  | committed (hc : d.answer .commit = .ok ()) : Closes d (.ok ()) [.commit] (.ok ())
  /-- The commit fails, and the error is the commit's. -/
  | commitFailed {e : Error} (hc : d.answer .commit = .error e)
      (hr : (d.received .commit).answer .rollback = .ok ()) :
      Closes d (.ok ()) [.commit, .rollback] (.error e)
  /-- The commit fails and so does the rollback after it, and the error is the rollback's. -/
  | commitAndRollbackFailed {e e' : Error} (hc : d.answer .commit = .error e)
      (hr : (d.received .commit).answer .rollback = .error e') :
      Closes d (.ok ()) [.commit, .rollback] (.error e')
  /-- The body failed, and the error is the body's. -/
  | rolledBack {e : Error} (hr : d.answer .rollback = .ok ()) :
      Closes d (.error e) [.rollback] (.error e)
  /-- The body failed and so does the rollback, and the error is the rollback's. -/
  | rollbackFailed {e e' : Error} (hr : d.answer .rollback = .error e') :
      Closes d (.error e) [.rollback] (.error e')

/-- A rollback, after which an error stays unless the rollback has one of its own. -/
theorem outcome_rollback_throw (e : Error) (c : Connection) :
    (do rollback; throw e : Operation Connection Unit).outcome c =
      (.error (match c.driver.answer .rollback with | .ok _ => e | .error e' => e'),
        c.ended .rollback) := by
  rw [outcome_bind, outcome_rollback]
  cases c.driver.answer .rollback <;> rfl

/-- **Leaving a block** closes it, and no transaction is under way. -/
theorem leave_closes (r : Except Error Unit) (c : Connection) :
    ∃ calls r' c', (leave r).outcome c = (r', c') ∧ Closes c.driver r calls r' ∧
      c'.events = c.events ++ calls ∧ c'.inTransaction = false := by
  cases r with
  | error e =>
    refine ⟨[.rollback], _, _, outcome_rollback_throw e c, ?_, rfl, rfl⟩
    cases h : c.driver.answer .rollback with
    | ok _ => exact .rolledBack h
    | error e' => exact .rollbackFailed h
  | ok a =>
    have hcommit : (observe commit).outcome c =
        (.ok (c.driver.answer .commit), c.ended .commit) := by
      rw [outcome_observe, outcome_commit]
    cases h : c.driver.answer .commit with
    | ok _ =>
      refine ⟨[.commit], .ok (), c.ended .commit, ?_, .committed h, rfl, rfl⟩
      rw [leave, outcome_bind_of_ok hcommit, h]
      rfl
    | error e =>
      have hleave : (leave (.ok a)).outcome c =
          (do rollback; throw e).outcome (c.ended .commit) := by
        rw [leave, outcome_bind_of_ok hcommit, h]
      rw [outcome_rollback_throw] at hleave
      refine ⟨[.commit, .rollback], _, _, hleave, ?_, by simp, rfl⟩
      cases hr : (c.ended .commit).driver.answer .rollback with
      | ok _ => exact .commitFailed h hr
      | error e' => exact .commitAndRollbackFailed h hr

/-! ## Opening -/

/-- Beginning a transaction makes one call to the driver at most, and that is none of the two that
    end one. -/
theorem events_begin (c : Connection) :
    (begin.outcome c).2.events = c.events ∨ (begin.outcome c).2.events = c.events ++ [.begin] := by
  have hdriver : (Driver.begin.outcome c.driver).2.events = c.driver.events ∨
      (Driver.begin.outcome c.driver).2.events = c.driver.events ++ [.begin] := by
    rw [Driver.begin, outcome_bind_of_ok (outcome_get c.driver)]
    split
    · rw [Driver.outcome_emit]
      exact .inr rfl
    · exact .inl rfl
    · split
      · rw [outcome_bind, Driver.outcome_emit]
        cases c.driver.answer .begin <;> exact .inr rfl
      · exact .inl rfl
  rw [begin, outcome_bind_of_ok (outcome_get c)]
  dsimp only
  split
  · exact .inl rfl
  · have hopened : (onDriver Driver.begin).outcome c =
        ((Driver.begin.outcome c.driver).1,
          { c with driver := (Driver.begin.outcome c.driver).2 }) := outcome_within _ _ _ _
    cases h : (Driver.begin.outcome c.driver).1 with
    | error e =>
      rw [h] at hopened
      rw [outcome_bind_of_error hopened]
      exact hdriver
    | ok a =>
      rw [h] at hopened
      rw [outcome_bind_of_ok hopened]
      exact hdriver

end Connection

namespace Session

/-! ## The protocol -/

/-- What opening a transaction makes the driver receive. -/
theorem exists_opening (s : Session) :
    ∃ opening, (opening = [] ∨ opening = [.begin]) ∧
      ((onConnection Connection.begin).outcome s).2.connection.events =
        s.connection.events ++ opening := by
  have hopened : (onConnection Connection.begin).outcome s = _ := outcome_within _ _ _ _
  rw [hopened]
  rcases Connection.events_begin s.connection with h | h
  · exact ⟨[], .inl rfl, by rw [List.append_nil]; exact h⟩
  · exact ⟨[.begin], .inr rfl, h⟩

/-- A transaction block that is entered closes as its steps ended. -/
theorem run_transaction_of_ok {s t : Session}
    (h : (onConnection Connection.begin).outcome s = (.ok (), t)) (steps : List Step)
    (gaveUp : Option String) :
    let r := (Step.block .transaction steps gaveUp).run s
    let body := runUntilFailure t steps
    ∃ calls outcome,
      Connection.Closes body.2.connection.driver (ending body.1 gaveUp) calls outcome ∧
        r.1 = report s r.2 (outcome.map fun _ => .connection) (some body.1) ∧
        r.2.connection.events = body.2.connection.events ++ calls ∧
        r.2.connection.inTransaction = false := by
  intro r body
  obtain ⟨calls, outcome, c, hleave, hcloses, hcalls, hflag⟩ :=
    Connection.leave_closes (ending body.1 gaveUp) body.2.connection
  have hleft : (onConnection (Block.transaction.leave (ending body.1 gaveUp))).outcome body.2 =
      (outcome, { body.2 with connection := c }) := by
    rw [onConnection, outcome_within, Block.leave, hleave]
  have hr : r = _ := run_block_of_ok (b := .transaction) h hleft
  have hlast : r.2.connection = c := by rw [hr]
  refine ⟨calls, outcome, hcloses, ?_, ?_, ?_⟩
  · rw [hr]
  · rw [hlast, hcalls]
  · rw [hlast, hflag]

/-- **The protocol of transaction blocks.**  If the transaction cannot be begun, no step is run and
    none of the calls that end a transaction is made.  Otherwise the steps are run up to the first
    that fails; then the block closes as they ended, which accounts for all calls that were made
    outside its steps, and no transaction is under way. -/
theorem transaction_block_protocol (s : Session) (steps : List Step) (gaveUp : Option String) :
    let opened := (onConnection Connection.begin).outcome s
    let r := (Step.block .transaction steps gaveUp).run s
    ∃ opening, (opening = [] ∨ opening = [.begin]) ∧
      ((∃ e, opened.1 = .error e ∧ r = (report s opened.2 (.error e) (some []), opened.2) ∧
          r.1.events = opening) ∨
        (opened.1 = .ok () ∧
          let body := runUntilFailure opened.2 steps
          ∃ calls outcome,
            Connection.Closes body.2.connection.driver (ending body.1 gaveUp) calls outcome ∧
            r.1 = report s r.2 (outcome.map fun _ => .connection) (some body.1) ∧
            r.1.events = opening ++ body.1.flatMap Report.events ++ calls ∧
            r.2.connection.events = body.2.connection.events ++ calls ∧
            r.2.connection.inTransaction = false)) := by
  intro opened r
  obtain ⟨opening, hopening, hevents⟩ := exists_opening s
  refine ⟨opening, hopening, ?_⟩
  -- the report accounts for all calls: the opening, those of the steps, and the closing
  have haccount : r.2.connection.events = s.connection.events ++ r.1.events := events_step s _
  cases h : opened.1 with
  | error e =>
    have hr : r = _ := run_block_of_error (b := .transaction) (Prod.ext h rfl) steps gaveUp
    refine .inl ⟨e, rfl, hr, ?_⟩
    rw [congrArg Prod.snd hr] at haccount
    exact (List.append_cancel_left (hevents.symm.trans haccount)).symm
  | ok a =>
    obtain ⟨calls, outcome, hcloses, hreport, hcalls, hflag⟩ :=
      run_transaction_of_ok (Prod.ext h rfl) steps gaveUp
    refine .inr ⟨rfl, calls, outcome, hcloses, hreport, ?_, hcalls, hflag⟩
    rw [hcalls, events_runUntilFailure, hevents] at haccount
    simp only [List.append_assoc] at haccount ⊢
    exact (List.append_cancel_left haccount).symm

end Session

end TaggedSql
