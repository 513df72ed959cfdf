/-
  What a command can do to a session.

  1. **Quiet operations** — those that send nothing and leave the statements on the driver's side as
     they are.

  2. **Effects** (`Effect`) — a command is quiet, or it prepares a statement, executes one, or
     executes a text of its own.  `effect_command` says so of every command; all that is said of
     whole runs follows from it, case by case.
-/
import TaggedSql.Proofs.Session.Continuation
import TaggedSql.Proofs.Statement.Sending

namespace TaggedSql

open Operation

/-! ## Quiet operations -/

/-- Whether a driver has come to the second state without anything being sent or prepared. -/
structure Driver.Quiet (d d' : Driver) : Prop where
  statements : d'.statements = d.statements
  events : ∃ es, d'.events = d.events ++ es ∧ sent es = []

instance : IsPreorder Driver Driver.Quiet where
  refl d := ⟨rfl, [], (List.append_nil _).symm, rfl⟩
  trans := by
    rintro d d' d'' ⟨hs, es, hes, hsent⟩ ⟨hs', es', hes', hsent'⟩
    exact ⟨hs'.trans hs, es ++ es', by rw [hes', hes, List.append_assoc],
      by rw [sent_append, hsent, hsent', List.append_nil]⟩

namespace Driver

/-- A call that sends no tuple is quiet. -/
theorem quiet_emit {e : Event} (h : e.sent? = none) : Keeps Quiet (emit e) := by
  intro d
  rw [outcome_emit]
  exact ⟨rfl, [e], rfl, by simp [sent, h]⟩

theorem quiet_setBusy (flag : Bool) :
    Keeps Quiet (modify fun d => { d with busy := flag } : Operation Driver Unit) :=
  .modify fun _ => ⟨rfl, [], (List.append_nil _).symm, rfl⟩

/-- The calls that begin a transaction send no tuple. -/
theorem quiet_begin : Keeps Quiet begin := keeps_begin (quiet_emit rfl) quiet_setBusy

/-- Nor do those that end one. -/
theorem quiet_finish {e : Event} (h : e.sent? = none) : Keeps Quiet (finish e) :=
  keeps_finish (quiet_emit h) quiet_setBusy

theorem quiet_close : Keeps Quiet close := keeps_close (quiet_emit rfl) (quiet_emit rfl)

end Driver

namespace Connection

/-- Whether nothing has been sent or prepared on a connection. -/
def Quiet (c c' : Connection) : Prop := c.driver.Quiet c'.driver

instance : IsPreorder Connection Quiet where
  refl c := refl c.driver
  trans _ _ _ h h' := IsTrans.trans (r := Driver.Quiet) _ _ _ h h'

theorem lifts_quiet : Lifts Driver.Quiet Quiet := fun _ _ _ _ hd => hd

/-- To resolve values sends none of them. -/
theorem quiet_parameters (s : Statement) (supplied : List (String × Value)) :
    Keeps Quiet (parameters s supplied) := keeps_parameters lifts_quiet.carries s supplied

theorem quiet_begin : Keeps Quiet begin := keeps_begin lifts_quiet Driver.quiet_begin

theorem quiet_commit : Keeps Quiet commit := keeps_endWith lifts_quiet (Driver.quiet_finish rfl)

/-- A roll-back is quiet, whether it is called for or follows a failure. -/
theorem quiet_rollback : Keeps Quiet rollback :=
  keeps_endWith lifts_quiet (Driver.quiet_finish rfl)

theorem quiet_close : Keeps Quiet close := keeps_onDriver lifts_quiet.carries Driver.quiet_close

end Connection

namespace Session

open TaggedSql.Query

/-! ## Effects -/

/-- Whether a command, in a session, asks for a text to be executed with what is supplied. -/
inductive Queries (s : Session) : Command → String → List (String × Value) → Prop
  | text (sql : String) (supplied : List (String × Value)) :
      Queries s (.query sql supplied) sql supplied
  | builder {n : Nat} {b : Builder} {r : Rendered} (hb : s.builders[n]? = some b)
      (hr : b.build.1 = .ok r) : Queries s (.ask n .execute) r.sql r.parameters

/-- `Effect s c r t`: the command ends as `r` says and takes the session to the second one, in one
    of four ways.  The last two are the only ones that yield what an execution yields. -/
inductive Effect (s : Session) : Command → Except Error Reply → Session → Prop
  | quiet {c : Command} {r : Except Error Reply} {t : Session} (hr : ∀ h, r ≠ .ok (.executed h))
      (hc : s.connection.Quiet t.connection) (hs : t.statements = s.statements) : Effect s c r t
  | prepared {sql : String} {compiled : Placeholder.Compiled} {r : Except Error Reply}
      (hr : ∀ h, r ≠ .ok (.executed h))
      (h : (Placeholder.compile s.connection.compileOptions sql).outcome = .ok compiled) :
      Effect s (.prepare sql) r
        { s with
          connection := s.connection.prepared compiled
          statements := s.statements ++ [⟨s.connection.driver.statements.length, compiled⟩] }
  | executed {n : Nat} {st : Statement} {supplied : List (String × Value)}
      (h : s.statements[n]? = some st) :
      Effect s (.execute n supplied)
        (((Connection.execute st supplied).outcome s.connection).1.map .executed)
        { s with connection := ((Connection.execute st supplied).outcome s.connection).2 }
  | queried {c : Command} {sql : String} {supplied : List (String × Value)} (bs : List Builder)
      (h : Queries s c sql supplied) :
      Effect s c (((Connection.query sql supplied).outcome s.connection).1.map .executed)
        { s with
          connection := ((Connection.query sql supplied).outcome s.connection).2
          builders := bs }

/-- Handles are looked up, and the session stays what it was. -/
theorem outcome_statement (n : Nat) (s : Session) :
    (statement n).outcome s =
      (match s.statements[n]? with | some st => .ok st | none => .error .noSuchEntry, s) := by
  rw [statement, outcome_bind_of_ok (outcome_get s), entryAt]
  cases s.statements[n]? <;> rfl

/-- Of a session a builder's method changes the builder alone, also where it fails. -/
theorem outcome_withBuilder {α : Type} (n : Nat) (f : Builder → Except Fault α × Builder)
    (s : Session) :
    (withBuilder n f).outcome s =
      match s.builders[n]? with
      | some b => ((f b).1.mapError .query, { s with builders := s.builders.set n (f b).2 })
      | none => (.error .noSuchEntry, s) := by
  rw [withBuilder, outcome_bind_of_ok (outcome_get s), entryAt]
  cases s.builders[n]? with
  | none => rfl
  | some b =>
    rw [outcome_bind_of_ok (outcome_pure b s), outcome_bind_of_ok (outcome_modify _ s),
      outcome_settle]

/-- A reply that is made by a function of its own is no result of an execution. -/
theorem map_ne_executed {α : Type} {f : α → Reply} (hf : ∀ a h, f a ≠ .executed h)
    (r : Except Error α) (h : ResultHandle) : r.map f ≠ .ok (.executed h) := by
  cases r with
  | error e => exact nofun
  | ok a => exact fun heq => hf a h (Except.ok.inj heq)

/-- A quiet operation on the connection, whatever is made of what it yields. -/
theorem Effect.onConnection {α : Type} {x : Operation Connection α} (hx : Keeps Connection.Quiet x)
    {f : α → Reply} (c : Command) (s : Session)
    (hf : ∀ a h, f a ≠ .executed h := by rintro _ _ ⟨⟩) :
    let r := (do return f (← onConnection x) : Operation Session Reply).outcome s
    Effect s c r.1 r.2 := by
  rw [outcome_bind_pure, Session.onConnection, outcome_within]
  exact .quiet (map_ne_executed hf _) (hx s.connection) rfl

/-- Looking at the session has no effect on it. -/
theorem Effect.look {s : Session} {c : Command} {r : Except Error Reply}
    (hr : ∀ h, r ≠ .ok (.executed h) := by rintro _ ⟨⟩) : Effect s c r s :=
  .quiet hr (refl s.connection) rfl

/-- **What every command does.** -/
theorem effect_command {s : Session} (hs : s.connection.driver.style ≠ .direct) (c : Command) :
    Effect s c (c.run.outcome s).1 (c.run.outcome s).2 := by
  cases c with
  | prepare sql =>
    cases h : (Placeholder.compile s.connection.compileOptions sql).outcome with
    | error a =>
      have hprepare := outcome_prepare_of_error (Connection.outcome_prepare_of_error h)
      rw [Command.run, outcome_bind_of_error hprepare]
      exact .look
    | ok compiled =>
      have hprepare := outcome_prepare_of_ok (Connection.outcome_prepare_of_ok hs h)
      -- what follows the preparation only looks at the session
      rw [Command.run, outcome_bind_of_ok hprepare, outcome_bind, outcome_statement]
      let made : Statement := ⟨s.connection.driver.statements.length, compiled⟩
      cases (s.statements ++ [made])[s.statements.length]? with
      | none => exact .prepared (by rintro _ ⟨⟩) h
      | some st => exact .prepared (by rintro _ ⟨⟩) h
  | query sql supplied =>
    rw [Command.run, outcome_bind_pure, Session.onConnection, outcome_within]
    exact .queried s.builders (.text sql supplied)
  | execute n supplied =>
    rw [Command.run, outcome_bind, outcome_statement]
    cases h : s.statements[n]? with
    | none => exact .look
    | some st =>
      dsimp only
      rw [outcome_bind_pure, Session.onConnection, outcome_within]
      exact .executed h
  | parameters n supplied =>
    rw [Command.run, outcome_bind, outcome_statement]
    cases h : s.statements[n]? with
    | none => exact .look
    | some st => exact .onConnection (Connection.quiet_parameters st supplied) _ s
  | display n =>
    rw [Command.run, outcome_bind_pure, outcome_statement]
    exact .look (map_ne_executed (by rintro _ _ ⟨⟩) _)
  | quote name => exact .look
  | begin => exact .onConnection Connection.quiet_begin _ s
  | commit => exact .onConnection Connection.quiet_commit _ s
  | rollback => exact .onConnection Connection.quiet_rollback _ s
  | close => exact .onConnection Connection.quiet_close _ s
  | describe => exact .look
  | makeBuilder draft => exact .quiet (by rintro _ ⟨⟩) (refl s.connection) rfl
  | ask n r =>
    cases r with
    | execute =>
      rw [Command.run, outcome_bind_pure, executeBuilder, outcome_bind, outcome_withBuilder]
      cases h : s.builders[n]? with
      | none => exact .look
      | some b =>
        dsimp only
        cases hb : b.build.1 with
        | error f => exact .quiet (by rintro _ ⟨⟩) (refl s.connection) rfl
        | ok r =>
          dsimp only [Except.mapError]
          rw [onConnection, outcome_within]
          exact .queried _ (.builder h hb)
    | _ =>
      rw [Command.run, outcome_bind_pure, outcome_withBuilder]
      · cases s.builders[n]? with
        | none => exact .look
        | some b => exact .quiet (map_ne_executed (by rintro _ _ ⟨⟩) _) (refl s.connection) rfl
      · rintro ⟨⟩

end Session

end TaggedSql
