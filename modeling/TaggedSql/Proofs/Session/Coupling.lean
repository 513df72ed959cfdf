/-
  Transactions on both sides of an autobegin driver.

  Such a driver begins transactions by itself.  Its side keeps a flag for this; the connection keeps
  one of its own.  What the driver's side does with its flag is taken from the calls alone: every
  text that is executed sets it, and so does a `begin` that returns; `commit` and `rollback` clear
  it, even if they fail; nothing else changes it.

  1. **The flag after calls** (`autobeginFlag`) — as the calls and the schedule of failures have it.

  2. **Drivers** (`Driver.Traces`) — the driver knows the flag of its side, and begins a transaction
     only while it is cleared.  Every operation preserves this.

  3. **Connections** (`Connection.Coupled`) — in addition, the flag of the driver's side is set
     while that of the connection is.  Every operation preserves this, and so do moves and runs.

  4. **Both flags** (`transactions_are_coupled`) — at all moments of all runs.
-/
import TaggedSql.Proofs.Session.Transaction
import TaggedSql.Proofs.Session.TransactionFlag

namespace TaggedSql

open Operation

/-! ## The flag after calls -/

/-- What a call makes of the flag, if the calls before it are these. -/
def flagOn (fails : Action → Nat → Bool) (before : List Event) (flag : Bool) : Event → Bool
  | .executeText .. => true
  | .begin => flag || !fails .begin ((before.filter fun e => e.action == .begin).length + 1)
  | .commit | .rollback => false
  | _ => flag

/-- The flag of the driver's side after further calls. -/
def autobeginFlag (fails : Action → Nat → Bool) (before : List Event) (flag : Bool) :
    List Event → Bool
  | [] => flag
  | e :: es => autobeginFlag fails (before ++ [e]) (flagOn fails before flag e) es

section Flag

variable {fails : Action → Nat → Bool}

theorem autobeginFlag_append (before : List Event) (flag : Bool) (es es' : List Event) :
    autobeginFlag fails before flag (es ++ es') =
      autobeginFlag fails (before ++ es) (autobeginFlag fails before flag es) es' := by
  induction es generalizing before flag with
  | nil => rw [List.append_nil, autobeginFlag, List.nil_append]
  | cons e es ih =>
    rw [List.cons_append, autobeginFlag, autobeginFlag, ih, List.append_assoc]
    rfl

theorem autobeginFlag_concat (before : List Event) (flag : Bool) (es : List Event) (e : Event) :
    autobeginFlag fails before flag (es ++ [e]) =
      flagOn fails (before ++ es) (autobeginFlag fails before flag es) e := by
  rw [autobeginFlag_append]
  rfl

/-- Only the calls that end a transaction clear the flag. -/
theorem flagOn_of_turn?_eq_none {e : Event} (h : e.turn? = none) (before : List Event) :
    flagOn fails before true e = true := by
  cases e with
  | begin | commit | rollback => cases h
  | _ => rfl

theorem autobeginFlag_of_no_turns {es : List Event} (h : ∀ e ∈ es, e.turn? = none)
    (before : List Event) : autobeginFlag fails before true es = true := by
  induction es generalizing before with
  | nil => rfl
  | cons e es ih =>
    rw [autobeginFlag, flagOn_of_turn?_eq_none (h e List.mem_cons_self)]
    exact ih (fun e' he' => h e' (List.mem_cons_of_mem e he')) _

end Flag

/-! ## Drivers -/

namespace Driver

/-- `d₀.Traces d`: the driver `d`, which `d₀` has become, knows the flag of its side, and has begun
    transactions only while it was cleared. -/
structure Traces (d₀ d : Driver) : Prop where
  style : ∃ owns, d.style = .autobegin owns
  fails : d.fails = d₀.fails
  calls : ∃ es, d.events = d₀.events ++ es ∧
    d.busy = autobeginFlag d₀.fails d₀.events d₀.busy es ∧
    ∀ front back, es = front ++ .begin :: back →
      autobeginFlag d₀.fails d₀.events d₀.busy front = false

variable {d₀ d d' : Driver}

theorem Traces.refl (h : ∃ owns, d.style = .autobegin owns) : d.Traces d := by
  refine ⟨h, rfl, [], (List.append_nil _).symm, rfl, ?_⟩
  intro front back hsplit
  cases front <;> cases hsplit

/-- **A call** is followed by the flag, if it is no `begin` while that is set. -/
theorem Traces.call (h : d₀.Traces d) {e : Event} (hstyle : d'.style = d.style)
    (hfails : d'.fails = d.fails) (hevents : d'.events = d.events ++ [e])
    (hbusy : d'.busy = flagOn d.fails d.events d.busy e) (hbegin : e = .begin → d.busy = false) :
    d₀.Traces d' := by
  obtain ⟨es, hes, hflag, hidle⟩ := h.calls
  obtain ⟨owns, howns⟩ := h.style
  refine ⟨⟨owns, hstyle.trans howns⟩, hfails.trans h.fails, es ++ [e], ?_, ?_, ?_⟩
  · rw [hevents, hes, List.append_assoc]
  · rw [hbusy, autobeginFlag_concat, h.fails, hes, hflag]
  · intro front back hsplit
    -- the `begin` was there before, or it is the call
    rcases List.eq_nil_or_concat back with rfl | ⟨back, last, rfl⟩
    · obtain ⟨rfl, rfl⟩ : es = front ∧ e = .begin := by simpa using hsplit
      rw [← hflag]
      exact hbegin rfl
    · rw [List.concat_eq_append, ← List.cons_append, ← List.append_assoc] at hsplit
      obtain ⟨hes', -⟩ := List.append_inj' hsplit rfl
      exact hidle front back hes'

/-- What changes neither the calls nor the flag is of no account. -/
theorem Traces.quiet (h : d₀.Traces d) (hstyle : d'.style = d.style) (hfails : d'.fails = d.fails)
    (hevents : d'.events = d.events) (hbusy : d'.busy = d.busy) : d₀.Traces d' := by
  obtain ⟨es, hes, hflag, hidle⟩ := h.calls
  obtain ⟨owns, howns⟩ := h.style
  exact ⟨⟨owns, hstyle.trans howns⟩, hfails.trans h.fails, es, hevents.trans hes,
    hbusy.trans hflag, hidle⟩

/-- Whether a driver that traces comes to one that does, and whose flag is not cleared. -/
def Steady (d₀ d d' : Driver) : Prop :=
  d₀.Traces d → d₀.Traces d' ∧ (d.busy = true → d'.busy = true)

instance (d₀ : Driver) : IsPreorder Driver (Steady d₀) where
  refl _ h := ⟨h, id⟩
  trans _ _ _ hab hbc ha :=
    have hb := hab ha
    have hc := hbc hb.1
    ⟨hc.1, hc.2 ∘ hb.2⟩

variable (d₀)

theorem steady_emit {e : Event} (h : ∀ fails before flag, flagOn fails before flag e = flag)
    (hbegin : e ≠ .begin) : Keeps (Steady d₀) (emit e) := by
  intro d hd
  rw [outcome_emit]
  exact ⟨hd.call rfl rfl rfl (h _ _ _).symm fun he => absurd he hbegin, id⟩

theorem steady_setStatements (f : List DriverStatement → List DriverStatement) :
    Keeps (Steady d₀)
      (modify fun d => { d with statements := f d.statements } : Operation Driver Unit) :=
  .modify fun _ hd => ⟨hd.quiet rfl rfl rfl rfl, id⟩

theorem steady_prepare (sql : String) : Keeps (Steady d₀) (prepare sql) :=
  keeps_prepare (steady_emit d₀ (fun _ _ _ => rfl) (by simp)) (steady_setStatements d₀)

theorem steady_bindValue (n : Nat) (position : Int) (v : Value) (type : BindType) :
    Keeps (Steady d₀) (bindValue n position v type) :=
  keeps_bindValue (steady_emit d₀ (fun _ _ _ => rfl) (by simp)) (steady_setStatements d₀)

/-- Executing sets the flag, and that is what the driver's side does. -/
theorem steady_execute (n : Nat) : Keeps (Steady d₀) (execute n) := by
  intro d hd
  obtain ⟨owns, howns⟩ := hd.style
  rw [outcome_execute_autobegin howns]
  dsimp only
  split
  · exact ⟨hd.call rfl rfl rfl rfl (by simp), fun _ => rfl⟩
  · exact ⟨hd.call rfl rfl rfl rfl (by simp), fun _ => rfl⟩

theorem steady_close : Keeps (Steady d₀) close :=
  keeps_close (steady_emit d₀ (fun _ _ _ => rfl) (by simp))
    (steady_emit d₀ (fun _ _ _ => rfl) (by simp))

variable {d₀}

/-- **Beginning a transaction** is left to the driver's side while its flag is set.  Where it
    succeeds, the flag is set. -/
theorem Traces.begin (h : d₀.Traces d) :
    let r := Driver.begin.outcome d
    d₀.Traces r.2 ∧ (r.1 = .ok () → r.2.busy = true) := by
  obtain ⟨owns, howns⟩ := h.style
  rw [Driver.begin, outcome_bind_of_ok (outcome_get d)]
  simp only [howns]
  cases hbusy : d.busy with
  | true => exact ⟨h, fun _ => hbusy⟩
  | false =>
    -- the call sets the flag exactly if it returns
    have hanswer : d.answer .begin =
        if d.fails .begin (d.count .begin + 1) then .error (.driver .begin) else .ok () := rfl
    have hset : flagOn d.fails d.events d.busy .begin = !d.fails .begin (d.count .begin + 1) := by
      rw [hbusy]
      rfl
    simp only [Bool.not_false, if_true]
    rw [outcome_bind, outcome_emit, hanswer]
    cases hfails : d.fails .begin (d.count .begin + 1) with
    | true =>
      refine ⟨h.call rfl rfl rfl ?_ fun _ => hbusy, by simp⟩
      rw [hset, hfails]
      exact hbusy
    | false =>
      refine ⟨h.call rfl rfl rfl ?_ fun _ => hbusy, fun _ => rfl⟩
      rw [hset, hfails]
      rfl

/-- **Ending a transaction** clears the flag. -/
theorem Traces.ended (h : d₀.Traces d) {e : Event} (he : e = .commit ∨ e = .rollback) :
    d₀.Traces ({ d with busy := false }.received e) := by
  refine h.call rfl rfl rfl ?_ ?_
  · rcases he with rfl | rfl <;> rfl
  · rcases he with rfl | rfl <;> rintro ⟨⟩

end Driver

/-! ## Connections -/

namespace Connection

/-- `d₀.Coupled c`: the driver of `c` traces what `d₀` has become, and while the connection is in a
    transaction, so is the driver's side. -/
structure Coupled (d₀ : Driver) (c : Connection) : Prop where
  traces : d₀.Traces c.driver
  busy : c.inTransaction = true → c.driver.busy = true

/-- Whether a connection is coupled if the one it comes from is. -/
def KeepsCoupled (d₀ : Driver) (c c' : Connection) : Prop := c.Coupled d₀ → c'.Coupled d₀

instance (d₀ : Driver) : IsPreorder Connection (KeepsCoupled d₀) where
  refl _ h := h
  trans _ _ _ h h' hc := h' (h hc)

theorem carries_coupled (d₀ : Driver) : Carries (Driver.Steady d₀) (KeepsCoupled d₀) := by
  intro c d drained hd hc
  obtain ⟨htraces, hbusy⟩ := hd hc.traces
  exact ⟨htraces, fun hin => hbusy (hc.busy hin)⟩

/-- A transaction that the connection begins is one of the driver's side, whoever began that. -/
theorem coupled_begin (d₀ : Driver) : Keeps (KeepsCoupled d₀) begin := by
  intro c hc
  rw [begin, outcome_bind_of_ok (outcome_get c)]
  dsimp only
  cases hin : c.inTransaction with
  | true =>
    -- refused without a call
    simp only [if_true]
    rw [outcome_bind_of_error (outcome_throw _ c)]
    exact hc
  | false =>
    obtain ⟨htraces, hbusy⟩ := hc.traces.begin
    have hopened : (onDriver Driver.begin).outcome c =
        ((Driver.begin.outcome c.driver).1,
          { c with driver := (Driver.begin.outcome c.driver).2 }) := by
      rw [onDriver, outcome_within]
    simp only [Bool.false_eq_true, if_false]
    cases hr : (Driver.begin.outcome c.driver).1 with
    | error e =>
      rw [outcome_bind_of_error (by rw [hopened, hr])]
      exact ⟨htraces, fun h => absurd (hin.symm.trans h) (by simp)⟩
    | ok a =>
      rw [outcome_bind_of_ok (by rw [hopened, hr])]
      exact ⟨htraces, fun _ => hbusy hr⟩

theorem coupled_ended {d₀ : Driver} {c : Connection} (h : c.Coupled d₀) {e : Event}
    (he : e = .commit ∨ e = .rollback) : (c.ended e).Coupled d₀ := by
  refine ⟨h.traces.ended he, ?_⟩
  rintro ⟨⟩

/-- **What every operation of a connection preserves.** -/
theorem coupled_operations (d₀ : Driver) : Session.KeptOnConnection (KeepsCoupled d₀) where
  prepare sql := keeps_prepare (carries_coupled d₀) (Driver.steady_prepare d₀) sql
  parameters st supplied := keeps_parameters (carries_coupled d₀) st supplied
  execute st supplied :=
    keeps_execute (carries_coupled d₀) (Driver.steady_bindValue d₀) (Driver.steady_execute d₀) st
      supplied
  begin := coupled_begin d₀
  commit c hc := by
    rw [outcome_commit]
    exact coupled_ended hc (.inl rfl)
  rollback c hc := by
    rw [outcome_rollback]
    exact coupled_ended hc (.inr rfl)
  close := keeps_onDriver (carries_coupled d₀) (Driver.steady_close d₀)

/-- Whether all that was received since are calls that begin and end transactions. -/
def Turns (c c' : Connection) : Prop :=
  ∃ es, c'.events = c.events ++ es ∧ ∀ e ∈ es, e.turn? ≠ none

theorem turns_begin (c : Connection) : c.Turns (begin.outcome c).2 := by
  rcases events_begin c with h | h
  · exact ⟨[], by rw [h, List.append_nil], by simp⟩
  · exact ⟨[.begin], h, by simp [Event.turn?]⟩

theorem turns_commit (c : Connection) : c.Turns (commit.outcome c).2 := by
  rw [outcome_commit]
  exact ⟨[.commit], rfl, by simp [Event.turn?]⟩

theorem turns_rollback (c : Connection) : c.Turns (rollback.outcome c).2 := by
  rw [outcome_rollback]
  exact ⟨[.rollback], rfl, by simp [Event.turn?]⟩

theorem turns_leave (r : Except Error Unit) (c : Connection) : c.Turns ((leave r).outcome c).2 := by
  obtain ⟨calls, r', c', hleave, hcloses, hevents, -⟩ := leave_closes r c
  rw [hleave]
  refine ⟨calls, hevents, ?_⟩
  cases hcloses <;> simp [Event.turn?]

end Connection

/-! ## Both flags -/

namespace Session

/-- Whether the calls that were received since all begin and end transactions, or none of them
    does. -/
def Uniform (s t : Session) : Prop :=
  ∃ es, t.connection.events = s.connection.events ++ es ∧
    ((∀ e ∈ es, e.turn? = none) ∨ ∀ e ∈ es, e.turn? ≠ none)

theorem uniform_of_silent {s t : Session} (hc : Continues s t) (hs : Silent s t) :
    Uniform s t := by
  obtain ⟨es, hes⟩ := hc.connection.driver.events
  have hturns : turns (s.connection.events ++ es) = turns s.connection.events := by
    rw [Connection.events, ← hes]
    exact hs.driver.turns
  rw [turns, turns, List.filterMap_append] at hturns
  exact ⟨es, hes, .inl (List.filterMap_eq_nil_iff.mp (List.append_right_eq_self.mp hturns))⟩

theorem uniform_of_turns {α : Type} {x : Operation Connection α} {s : Session} (f : α → Reply)
    (h : s.connection.Turns (x.outcome s.connection).2) :
    Uniform s ((do return f (← onConnection x) : Operation Session Reply).outcome s).2 := by
  rw [outcome_bind_pure, onConnection, outcome_within]
  obtain ⟨es, hes, hall⟩ := h
  exact ⟨es, hes, .inr hall⟩

/-- **The calls of a move** all begin and end transactions, or none of them does. -/
theorem uniform_move (s : Session) (m : Move) : Uniform s (m.run.outcome s).2 := by
  have hsilent : Keeps Silent m.run → Uniform s (m.run.outcome s).2 := fun hm =>
    uniform_of_silent (continues_move m s) (hm s)
  cases m with
  | command c =>
    cases hc : c.isTurn with
    | false => exact hsilent (silent_command hc)
    | true =>
      cases c with
      | begin => exact uniform_of_turns _ (Connection.turns_begin _)
      | commit => exact uniform_of_turns _ (Connection.turns_commit _)
      | rollback => exact uniform_of_turns _ (Connection.turns_rollback _)
      | _ => cases hc
  | enter b =>
    cases b with
    | transaction => exact uniform_of_turns _ (Connection.turns_begin _)
    | closing => exact hsilent (.bind (silent_onConnection (.pure ())) fun _ => .pure _)
  | leave b ended =>
    cases b with
    | transaction => exact uniform_of_turns _ (Connection.turns_leave ended _)
    | closing =>
      exact hsilent (.bind (silent_onConnection (Connection.silent_leaveClosing ended))
        fun _ => .pure _)

/-- **Transactions on both sides.**  Take any moment of any run of a session over an autobegin
    driver, whose calls fail as any schedule has it, and whose own flag may be set at the outset.
    The driver knows the flag of its side.  It has never begun a transaction while that was set; and
    while the connection is in a transaction, the flag is set.  So whatever is executed next in a
    transaction of the connection is executed in one of the driver's side. -/
theorem transactions_are_coupled {first : Session} {owns : Bool}
    (hstyle : first.connection.driver.style = .autobegin owns)
    (hidle : first.connection.inTransaction = false) (ms : List Move) :
    let d := first.connection.driver
    let t := first.along ms
    ∃ es, t.connection.events = d.events ++ es ∧
      t.connection.driver.busy = autobeginFlag d.fails d.events d.busy es ∧
      (∀ front back, es = front ++ .begin :: back →
        autobeginFlag d.fails d.events d.busy front = false) ∧
      (t.connection.inTransaction = true → autobeginFlag d.fails d.events d.busy es = true) ∧
      (t.connection.inTransaction = true → ∀ (m : Move) front sql values back,
        (m.run.outcome t).2.connection.events =
          t.connection.events ++ (front ++ .executeText sql values :: back) →
        autobeginFlag d.fails d.events d.busy (es ++ front) = true) ∧
      ∀ steps, first.along (movesOfAll first steps) = (runAll first steps).2 := by
  intro d t
  have hfirst : first.connection.Coupled d :=
    ⟨.refl ⟨owns, hstyle⟩, fun hin => absurd (hidle.symm.trans hin) (by simp)⟩
  have ht : t.connection.Coupled d := (Connection.coupled_operations d).along first ms hfirst
  obtain ⟨es, hes, hflag, hbegins⟩ := ht.traces.calls
  have hset : t.connection.inTransaction = true →
      autobeginFlag d.fails d.events d.busy es = true := by
    intro hin
    rw [← hflag]
    exact ht.busy hin
  refine ⟨es, hes, hflag, hbegins, hset, ?_, along_movesOfAll first⟩
  intro hin m front sql values back hevents
  -- a move that executes a text ends no transaction before that
  obtain ⟨new, hnew, hturns⟩ := uniform_move t m
  obtain rfl : new = front ++ .executeText sql values :: back :=
    List.append_cancel_left (hnew.symm.trans hevents)
  have hnone : ∀ e ∈ front, e.turn? = none := by
    rcases hturns with hnone | hsome
    · intro e he
      exact hnone e (List.mem_append_left _ he)
    · exact absurd rfl (hsome (.executeText sql values) (by simp))
  rw [autobeginFlag_append, hset hin]
  exact autobeginFlag_of_no_turns hnone _

/-- The first `begin` fails, and then a statement that is executed has opened a transaction on the
    driver's side, so that none is begun when the connection is asked for one. -/
theorem transaction_joins_statement :
    let d : Driver := ⟨.autobegin true, "?", [⟨"SELECT 1", []⟩], 0, false, [],
      fun a n => a == .begin && n == 1⟩
    let first : Session := ⟨.fresh d Sql.Dialect.ansi.entry false, [⟨0, ⟨"SELECT 1", [], []⟩⟩], []⟩
    let t := first.along [.command .begin, .command (.execute 0 []), .command .begin]
    first.connection.driver.style = .autobegin true ∧ first.connection.inTransaction = false ∧
      t.connection.inTransaction = true ∧
      t.connection.events = [.begin, .executeText "SELECT 1" []] ∧
      autobeginFlag d.fails d.events d.busy t.connection.events = true := by
  intro d first t
  have hin : t.connection.inTransaction = true := rfl
  have hstyle : first.connection.driver.style = .autobegin true := rfl
  have hidle : first.connection.inTransaction = false := rfl
  obtain ⟨es, hes, -, -, hflag, -⟩ := transactions_are_coupled hstyle hidle
    [.command .begin, .command (.execute 0 []), .command .begin]
  refine ⟨hstyle, hidle, hin, rfl, ?_⟩
  obtain rfl : t.connection.events = es := hes
  exact hflag hin

end Session

end TaggedSql
