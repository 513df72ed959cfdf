/-
  What the transaction flag tells of the calls to the driver.

  1. **Silent commands** — all but three commands leave the flag alone and make none of the calls
     that begin and end transactions.

  2. **The invariant** (`Sound`) — the flag is set exactly when a transaction was begun and not
     ended since; one is never begun while it is set; and a direct driver received the noted calls.
     Every watched operation preserves it, and so do moves and runs.

  3. **The flag** (`transaction_flag_follows_calls`) — at all moments of all runs, together with the
     three ways in which beginning a transaction can end (`Begins`).
-/
import TaggedSql.Proofs.Session.Watching

namespace TaggedSql

open Operation

/-! ## Silent commands -/

/-- Whether a driver has come to the second state without receiving one of the calls. -/
structure Driver.Silent (d d' : Driver) : Prop where
  style : d'.style = d.style
  turns : turns d'.events = turns d.events

instance : IsPreorder Driver Driver.Silent where
  refl _ := ⟨rfl, rfl⟩
  trans _ _ _ h h' := ⟨h'.style.trans h.style, h'.turns.trans h.turns⟩

namespace Driver

/-- A call that is no turn of a transaction is silent. -/
theorem silent_emit {e : Event} (h : e.turn? = none) : Keeps Silent (emit e) := by
  intro d
  rw [outcome_emit]
  exact ⟨rfl, by simp [TaggedSql.turns, h]⟩

/-- No event of an execution is a turn. -/
theorem turn?_of_execute {e : Event} (h : e.action = .execute) : e.turn? = none := by
  cases e <;> first | rfl | cases h

theorem silent_setStatements (f : List DriverStatement → List DriverStatement) :
    Keeps Silent
      (modify fun d => { d with statements := f d.statements } : Operation Driver Unit) :=
  .modify fun _ => ⟨rfl, rfl⟩

theorem silent_prepare (sql : String) : Keeps Silent (prepare sql) :=
  keeps_prepare (silent_emit rfl) silent_setStatements

theorem silent_bindValue (n : Nat) (position : Int) (v : Value) (type : BindType) :
    Keeps Silent (bindValue n position v type) :=
  keeps_bindValue (silent_emit rfl) silent_setStatements

/-- An execution is silent, its failures and the handle it takes included. -/
theorem silent_execute (n : Nat) : Keeps Silent (execute n) :=
  keeps_execute (fun _ h => silent_emit (turn?_of_execute h)) (silent_emit rfl)
    (fun _ => ⟨rfl, rfl⟩) fun _ => .modify fun _ => ⟨rfl, rfl⟩

/-- Neither closing the driver nor disposing of what it owns is a turn. -/
theorem silent_close : Keeps Silent close := keeps_close (silent_emit rfl) (silent_emit rfl)

end Driver

namespace Connection

/-- Whether nothing has happened to the transaction of a connection. -/
structure Silent (c c' : Connection) : Prop where
  driver : c.driver.Silent c'.driver
  inTransaction : c'.inTransaction = c.inTransaction

instance : IsPreorder Connection Silent where
  refl c := ⟨refl c.driver, rfl⟩
  trans _ _ _ h h' := ⟨IsTrans.trans _ _ _ h.driver h'.driver,
    h'.inTransaction.trans h.inTransaction⟩

/-- What is silent for the driver is silent for the connection, as long as the flag stays. -/
theorem carries_silent : Carries Driver.Silent Silent := fun _ _ _ hd => ⟨hd, rfl⟩

theorem silent_prepare (sql : String) : Keeps Silent (prepare sql) :=
  keeps_prepare carries_silent Driver.silent_prepare sql

/-- On the connection too: the flag is not looked at to execute a statement. -/
theorem silent_execute (s : Statement) (supplied : List (String × Value)) :
    Keeps Silent (execute s supplied) :=
  keeps_execute carries_silent Driver.silent_bindValue Driver.silent_execute s supplied

theorem silent_query (sql : String) (supplied : List (String × Value)) :
    Keeps Silent (query sql supplied) :=
  .bind (silent_prepare sql) fun s => silent_execute s supplied

theorem silent_close : Keeps Silent close := keeps_onDriver carries_silent Driver.silent_close

theorem silent_leaveClosing (r : Except Error Unit) : Keeps Silent (leaveClosing r) :=
  .bind silent_close fun _ => .settle r

end Connection

namespace Session

open TaggedSql.Query

/-- Whether nothing has happened to the transaction of a session's connection. -/
def Silent (s t : Session) : Prop := s.connection.Silent t.connection

instance : IsPreorder Session Silent where
  refl s := refl s.connection
  trans _ _ _ h h' := IsTrans.trans (r := Connection.Silent) _ _ _ h h'

theorem silent_onConnection {α : Type} {x : Operation Connection α}
    (h : Keeps Connection.Silent x) : Keeps Silent (onConnection x) :=
  .within h fun _ _ hc => hc

theorem silent_entryAt {α : Type} (xs : List α) (number : Nat) :
    Keeps Silent (entryAt xs number) := by
  unfold entryAt
  split
  · exact .pure _
  · exact .throw _

theorem silent_statement (number : Nat) : Keeps Silent (statement number) :=
  .bind .get fun _ => silent_entryAt _ number

theorem silent_withBuilder {α : Type} (number : Nat) (f : Builder → Except Fault α × Builder) :
    Keeps Silent (withBuilder number f) :=
  .bind .get fun _ => .bind (silent_entryAt _ number) fun _ =>
    .bind (.modify fun s => refl s.connection) fun _ => .settle _

/-- Whether a command is about transactions. -/
def Command.isTurn : Command → Bool
  | begin | commit | rollback => true
  | _ => false

/-- **All other commands are silent.** -/
theorem silent_command {c : Command} (h : c.isTurn = false) : Keeps Silent c.run := by
  cases c with
  | begin | commit | rollback => cases h
  | prepare sql =>
    have hprepare : Keeps Silent (prepare sql) :=
      .bind (silent_onConnection (Connection.silent_prepare sql)) fun _ =>
        .bind .get fun _ => .bind (.modify fun s => refl s.connection) fun _ => .pure _
    exact .bind hprepare fun n => .bind (silent_statement n) fun _ => .bind .get fun _ => .pure _
  | query sql supplied =>
    exact .bind (silent_onConnection (Connection.silent_query sql supplied)) fun _ => .pure _
  | execute n supplied =>
    exact .bind (silent_statement n) fun s =>
      .bind (silent_onConnection (Connection.silent_execute s supplied)) fun _ => .pure _
  | parameters n supplied =>
    exact .bind (silent_statement n) fun s => .bind
      (silent_onConnection (Connection.keeps_parameters Connection.carries_silent s supplied))
      fun _ => .pure _
  | display n => exact .bind (silent_statement n) fun _ => .pure _
  | quote name => exact .bind .get fun _ => .pure _
  | close => exact .bind (silent_onConnection Connection.silent_close) fun _ => .pure _
  | describe => exact .bind .get fun _ => .pure _
  | makeBuilder draft =>
    have hmake : Keeps Silent (makeBuilder draft) := fun s => refl s.connection
    exact .bind hmake fun _ => .pure _
  | ask n r =>
    cases r with
    | execute =>
      have hexecute : Keeps Silent (executeBuilder n) :=
        .bind (silent_withBuilder n _) fun r =>
          silent_onConnection (Connection.silent_query r.sql r.parameters)
      exact .bind hexecute fun _ => .pure _
    | _ => exact .bind (silent_withBuilder n _) fun _ => .pure _

end Session

/-! ## The invariant -/

/-- A call to a direct driver is received as such. -/
theorem Turn.events_run {d : Driver} (h : d.style = .direct) (t : Turn) :
    (t.run.outcome d).2.events = d.events ++ [t.event] := by
  cases t with
  | begin =>
    rw [Turn.run, Driver.begin, outcome_bind_of_ok (outcome_get d)]
    simp only [h]
    rw [Driver.outcome_emit]
    rfl
  | commit | rollback => exact congrArg (fun r => r.2.events) (Driver.outcome_finish _ d)

theorem Turn.continues_run (t : Turn) : Keeps Driver.Continues t.run := by
  cases t with
  | begin => exact Driver.continues_begin
  | commit | rollback => exact Driver.continues_finish _

theorem Turn.turn?_event (t : Turn) : t.event.turn? = some t := by
  cases t <;> rfl

namespace Watched

/-- The flag and the calls that were made fit together. -/
structure Sound (w : Watched Connection) : Prop where
  flag : w.state.inTransaction = true ↔ Begun w.made
  unflagged : ∀ m ∈ w.made, m.turn = .begin → m.flagged = false
  received : w.state.driver.style = .direct → w.made.map Made.turn = turns w.state.events

/-- Whether the second state is sound if the first is. -/
def Preserves (w w' : Watched Connection) : Prop := w.Sound → w'.Sound

instance : IsPreorder (Watched Connection) Preserves where
  refl _ h := h
  trans _ _ _ h h' hw := h' (h hw)

/-- What happens around a call is sound if the flag is set after a `begin` that returned, or was
    set before it, and cleared after the calls that end a transaction. -/
theorem Sound.call {w : Watched Connection} (h : w.Sound) {t : Turn} {flag : Bool}
    (hbefore : t = .begin → w.state.inTransaction = false)
    (hafter : flag = true ↔ t = .begin ∧ (t.run.outcome w.state.driver).1.isOk = true) :
    let r := t.run.outcome w.state.driver
    Sound ⟨{ w.state with driver := r.2, inTransaction := flag },
      w.made ++ [⟨t, w.state.inTransaction, r.1.isOk⟩]⟩ where
  flag := by
    rw [begun_concat, ← h.flag, hafter]
    refine and_congr_right fun ht => ?_
    simp [hbefore ht]
  unflagged m hm ht := by
    rcases List.mem_append.mp hm with hm | hm
    · exact h.unflagged m hm ht
    · obtain rfl := List.mem_singleton.mp hm
      exact hbefore ht
  received hstyle := by
    have hdirect : w.state.driver.style = .direct :=
      ((t.continues_run w.state.driver).style).symm.trans hstyle
    show _ = turns (t.run.outcome w.state.driver).2.events
    rw [t.events_run hdirect, turns, List.filterMap_append, List.map_append, h.received hdirect]
    simp [turns, t.turn?_event, Connection.events]

/-- What happens to other things leaves it sound. -/
theorem Sound.silent {w : Watched Connection} (h : w.Sound) {c : Connection}
    (hc : w.state.Silent c) : Sound ⟨c, w.made⟩ where
  flag := by rw [hc.inTransaction, h.flag]
  unflagged := h.unflagged
  received hstyle := by
    rw [Connection.events, hc.driver.turns]
    exact h.received (hc.driver.style.symm.trans hstyle)

/-- With the flag set no call is made: the refusal is the connection's own. -/
theorem outcome_begin_of_flagged {w : Watched Connection} (h : w.state.inTransaction = true) :
    begin.outcome w = (.error .transactionActive, w) := by
  have hget : (unwatched get).outcome w = (.ok w.state, w) := outcome_within _ _ _ _
  rw [begin, outcome_bind_of_ok hget]
  dsimp only
  rw [if_pos h]
  exact outcome_bind_of_error (outcome_throw _ _) _

/-- The flag is set if the driver's call returns. -/
theorem outcome_begin_of_not_flagged {w : Watched Connection} (h : w.state.inTransaction = false) :
    begin.outcome w =
      let r := Driver.begin.outcome w.state.driver
      (r.1, ⟨{ w.state with driver := r.2, inTransaction := r.1.isOk },
        w.made ++ [⟨.begin, w.state.inTransaction, r.1.isOk⟩]⟩) := by
  have hget : (unwatched get).outcome w = (.ok w.state, w) := outcome_within _ _ _ _
  rw [begin, outcome_bind_of_ok hget]
  dsimp only
  rw [if_neg (by rw [h]; decide), outcome_bind, outcome_call]
  cases hr : (Driver.begin.outcome w.state.driver).1 with
  | error e => simp [Turn.run, hr, h, Except.isOk, Except.toBool]
  | ok a => simp [Turn.run, hr, unwatched, Except.isOk, Except.toBool]

/-- The flag is cleared before the driver is asked, so it is cleared also where the call fails. -/
theorem outcome_endWith (t : Turn) (w : Watched Connection) :
    (endWith t).outcome w =
      let r := t.run.outcome w.state.driver
      (r.1, ⟨{ w.state with driver := r.2, inTransaction := false },
        w.made ++ [⟨t, w.state.inTransaction, r.1.isOk⟩]⟩) := by
  have hclear (v : Watched Connection) :
      (unwatched (modify fun c => { c with inTransaction := false })).outcome v =
        (.ok (), { v with state := { v.state with inTransaction := false } }) :=
    outcome_within _ _ _ _
  rw [endWith, outcome_bind, outcome_observe, outcome_call]
  dsimp only
  rw [outcome_bind_of_ok (hclear _), outcome_settle]

/-- To begin keeps the invariant: the flag is set behind a call that returned, and only there. -/
theorem preserves_begin : Keeps Preserves begin := by
  intro w h
  cases hflag : w.state.inTransaction with
  | true =>
    rw [outcome_begin_of_flagged hflag]
    exact h
  | false =>
    rw [outcome_begin_of_not_flagged hflag]
    exact h.call (t := .begin) (fun _ => hflag) (by simp [Turn.run])

/-- To commit or roll back keeps it, for the flag is cleared first. -/
theorem preserves_endWith {t : Turn} (ht : t ≠ .begin) : Keeps Preserves (endWith t) := by
  intro w h
  rw [outcome_endWith]
  exact h.call (fun hb => absurd hb ht) (by simp [ht])

/-- A block's end is one such call, or two where the commit fails. -/
theorem preserves_leave (r : Except Error Unit) : Keeps Preserves (leave r) := by
  have hrollback : Keeps Preserves (endWith .rollback) := preserves_endWith (by decide)
  cases r with
  | error e => exact .bind hrollback fun _ => .throw e
  | ok a =>
    refine .bind (.observe (preserves_endWith (by decide))) fun r => ?_
    cases r with
    | ok _ => exact .pure _
    | error e => exact .bind hrollback fun _ => .throw e

/-! ## Moves and runs -/

open Session

theorem preserves_enter (b : Block) : Keeps Preserves b.watchEnter := by
  cases b with
  | transaction => exact preserves_begin
  | closing => exact .pure ()

theorem preserves_leaveBlock (b : Block) (r : Except Error Unit) :
    Keeps Preserves (b.watchLeave r) := by
  cases b with
  | transaction => exact preserves_leave r
  | closing =>
    intro w h
    rw [Block.watchLeave, unwatched, outcome_within]
    exact h.silent (Connection.silent_leaveClosing r w.state)

/-- An operation of the connection, for which the session replies. -/
theorem outcome_onConnection_reply {α : Type} (x : Operation (Watched Connection) α) (reply : Reply)
    (w : Watched Session) :
    (do let _ ← onConnection x; return reply : Operation (Watched Session) Reply).outcome w =
      let r := x.outcome w.connection
      (r.1.map fun _ => reply, ⟨{ w.state with connection := r.2.state }, r.2.made⟩) := by
  rw [outcome_bind_pure, onConnection, outcome_within]

/-- One case per command: three are turns, and all others are silent. -/
theorem Sound.command {w : Watched Session} (h : w.connection.Sound) (c : Command) :
    (c.watch.outcome w).2.connection.Sound := by
  cases hc : c.isTurn with
  | false =>
    have hwatch : c.watch = unwatched c.run := by
      cases c <;> first | rfl | cases hc
    rw [hwatch, unwatched, outcome_within]
    exact h.silent (silent_command hc w.state)
  | true =>
    cases c with
    | begin =>
      rw [Command.watch, outcome_onConnection_reply]
      exact preserves_begin _ h
    | commit | rollback =>
      rw [Command.watch, outcome_onConnection_reply]
      exact preserves_endWith (by decide) _ h
    | _ => cases hc

/-- **What every move preserves.** -/
theorem Sound.move {w : Watched Session} (h : w.connection.Sound) (m : Move) :
    (m.watch.outcome w).2.connection.Sound := by
  cases m with
  | command c => exact h.command c
  | enter b =>
    rw [Move.watch, outcome_onConnection_reply]
    exact preserves_enter b _ h
  | leave b ended =>
    rw [Move.watch, outcome_onConnection_reply]
    exact preserves_leaveBlock b ended _ h

/-- **What whole runs preserve.** -/
theorem Sound.along {w : Watched Session} (h : w.connection.Sound) (ms : List Move) :
    (w.along ms).connection.Sound := by
  induction ms generalizing w with
  | nil => exact h
  | cons m ms ih => exact ih (h.move m)

/-- A session in which nothing has happened, on a driver that has received no call. -/
def start (style : DriverStyle) (marker : String) (fails : Action → Nat → Bool)
    (dialect : Sql.DialectEntry) (strict : Bool) : Watched Session :=
  ⟨.start (.fresh (.fresh style marker fails) dialect strict), []⟩

/-- A session starts with a cleared flag and no call made. -/
theorem sound_start (style : DriverStyle) (marker : String) (fails : Action → Nat → Bool)
    (dialect : Sql.DialectEntry) (strict : Bool) :
    (start style marker fails dialect strict).connection.Sound where
  flag := iff_of_false Bool.false_ne_true not_begun_nil
  unflagged _ hm := absurd hm List.not_mem_nil
  received _ := rfl

/-! ## Beginning a transaction -/

/-- The flag of the session's connection. -/
def flag (w : Watched Session) : Bool := w.state.connection.inTransaction

/-- `Begins w r`: beginning a transaction in `w` ends as `r` says. -/
inductive Begins (w : Watched Session) : Except Error Reply × Watched Session → Prop
  /-- One is under way: no call is made, and nothing changes. -/
  | refused (h : w.flag = true) : Begins w (.error .transactionActive, w)
  /-- The driver's call fails, and the flag stays cleared. -/
  | raised (w' : Watched Session) (h : w.flag = false)
      (made : w'.made = w.made ++ [⟨.begin, false, false⟩]) (after : w'.flag = false) :
      Begins w (.error (.driver .begin), w')
  /-- The driver's call returns, and the flag is set. -/
  | begun (w' : Watched Session) (h : w.flag = false)
      (made : w'.made = w.made ++ [⟨.begin, false, true⟩]) (after : w'.flag = true) :
      Begins w (.ok .connection, w')

theorem begins_onConnection (w : Watched Session) :
    Begins w ((do onConnection begin; return .connection :
      Operation (Watched Session) Reply).outcome w) := by
  rw [outcome_onConnection_reply]
  cases hflag : w.flag with
  | true =>
    rw [outcome_begin_of_flagged (w := w.connection) hflag]
    exact .refused hflag
  | false =>
    rw [outcome_begin_of_not_flagged (w := w.connection) hflag]
    have hmade (returned : Bool) :
        w.made ++ [⟨.begin, w.connection.state.inTransaction, returned⟩] =
          w.made ++ [⟨.begin, false, returned⟩] := by
      rw [show w.connection.state.inTransaction = false from hflag]
    rcases Driver.begin_cases w.connection.state.driver with h | h <;> dsimp only <;> rw [h]
    · exact .begun _ hflag (hmade true) rfl
    · exact .raised _ hflag (hmade false) rfl

/-- The moves that begin a transaction. -/
def beginnings : List Move := [.command .begin, .enter .transaction]

/-- The two ways to begin a transaction do the same. -/
theorem begins_move {m : Move} (hm : m ∈ beginnings) (w : Watched Session) :
    Begins w (m.watch.outcome w) := by
  obtain rfl | rfl : m = .command .begin ∨ m = .enter .transaction := by
    simpa [beginnings] using hm
  · exact begins_onConnection w
  · exact begins_onConnection w

/-- **The transaction flag.**  Take any moment of any run of a session, over a driver of any style
    whose calls fail as any schedule has it.  The noted calls are those of the run: watching it
    changes nothing, and a direct driver has received them in this order.  The flag is set exactly
    when a call `begin` returned and no call `commit` or `rollback` was made after it, successful or
    not; no call `begin` was made while it was set; and a transaction that is begun next is refused
    without any call if the flag is set, and sets the flag exactly if the driver's call returns.
    The moments between the steps of a script are among these, and so are those within them. -/
theorem transaction_flag_follows_calls (style : DriverStyle) (marker : String)
    (fails : Action → Nat → Bool) (dialect : Sql.DialectEntry) (strict : Bool) (ms : List Move) :
    let first := start style marker fails dialect strict
    let w := first.along ms
    w.state = first.state.along ms ∧
      (style = .direct → w.made.map Made.turn = turns w.state.connection.events) ∧
      (w.flag = true ↔ Begun w.made) ∧
      (∀ m ∈ w.made, m.turn = .begin → m.flagged = false) ∧
      (∀ m ∈ beginnings, Begins w (m.watch.outcome w)) ∧
      ∀ steps, first.state.along (movesOfAll first.state steps) = (runAll first.state steps).2 := by
  intro first w
  have hsound : w.connection.Sound := (sound_start style marker fails dialect strict).along ms
  have hstate : w.state = first.state.along ms := along_state first ms
  refine ⟨hstate, fun hstyle => hsound.received ?_, hsound.flag, hsound.unflagged,
    fun m hm => begins_move hm w, along_movesOfAll first.state⟩
  show w.state.connection.driver.style = .direct
  rw [hstate, (continues_along first.state ms).connection.driver.style]
  exact hstyle

/-- The first `begin` fails, the second returns, the third is refused without a call, and the
    commit fails. -/
example : ((start .direct "?" (fun a n => a == .commit || (a == .begin && n == 1))
      Sql.Dialect.ansi.entry true).along
    [.command .begin, .command .begin, .command .begin, .command .commit]).made =
      [⟨.begin, false, false⟩, ⟨.begin, false, true⟩, ⟨.commit, true, false⟩] := by
  decide

end Watched

end TaggedSql
