/-
  What drivers do with the calls that they receive.

  1. **Calls** — a call is received whether it fails or not (`Driver.received`), and the schedule
     says whether it does (`Driver.answer`).

  2. **Operations** — equations say which calls an operation makes and what it yields.

  3. **What operations keep** — whatever calls and the bookkeeping on the driver's side keep, the
     operations that are made of them keep as well.

  4. **Continuation** (`Driver.Continues`) — whatever a driver is asked to do, it stays the driver
     that it is, and forgets no call that it received.
-/
import TaggedSql.Driver
import TaggedSql.Proofs.Operation

namespace TaggedSql.Driver

open Operation

/-! ## Calls -/

/-- The driver once it has received a call. -/
def received (d : Driver) (e : Event) : Driver := { d with events := d.events ++ [e] }

/-- Whether the driver's next call fails, if it is this one. -/
def answer (d : Driver) (e : Event) : Except Error Unit :=
  if d.fails e.action (d.count e.action + 1) then .error (.driver e.action) else .ok ()

@[simp] theorem received_events (d : Driver) (e : Event) :
    (d.received e).events = d.events ++ [e] := rfl

/-- A call fails with the error of its action. -/
theorem answer_cases (d : Driver) (e : Event) :
    d.answer e = .ok () ∨ d.answer e = .error (.driver e.action) := by
  unfold answer
  split
  · exact .inr rfl
  · exact .inl rfl

/-- A call is received, and answered as scheduled. -/
theorem outcome_emit (e : Event) (d : Driver) :
    (emit e).outcome d = (d.answer e, d.received e) := by
  -- a call counts itself, so the schedule is asked about the next number of its action
  have hcount : (d.received e).count e.action = d.count e.action + 1 := by
    simp [count]
  have hemit : emit e d = if d.fails e.action (d.count e.action + 1) then
      .error (.driver e.action) (d.received e) else .ok () (d.received e) := by
    rw [← hcount]
    rfl
  unfold outcome answer
  rw [hemit]
  by_cases h : d.fails e.action (d.count e.action + 1)
  · rw [if_pos h, if_pos h]
  · rw [if_neg h, if_neg h]

/-! ## Operations -/

/-- Ending a transaction is one call, whatever the style. -/
theorem outcome_finish (e : Event) (d : Driver) :
    (finish e).outcome d = (d.answer e, { d with busy := false }.received e) := by
  rw [finish, outcome_bind_of_ok (outcome_modify _ d), outcome_emit]
  rfl

/-- Beginning a transaction ends as the call does, if one is made. -/
theorem begin_cases (d : Driver) :
    (begin.outcome d).1 = .ok () ∨ (begin.outcome d).1 = .error (.driver .begin) := by
  rw [begin, outcome_bind_of_ok (outcome_get d)]
  split
  · rw [outcome_emit]
    exact answer_cases d .begin
  · exact .inl rfl
  · split
    · rw [outcome_bind, outcome_emit]
      rcases answer_cases d .begin with h | h <;> rw [h]
      · exact .inl rfl
      · exact .inr rfl
    · exact .inl rfl

/-- Drivers without statements of their own keep the text on this side. -/
theorem outcome_prepare_of_ne {d : Driver} (h : d.style ≠ .direct) (sql : String) :
    (prepare sql).outcome d =
      (.ok d.statements.length, { d with statements := d.statements ++ [⟨sql, []⟩] }) := by
  rw [prepare, outcome_bind_of_ok (outcome_get d)]
  dsimp only
  rw [if_neg h]
  rfl

/-- A direct driver is told of every binding. -/
theorem outcome_bindValue_direct {d : Driver} (h : d.style = .direct) (n : Nat) (position : Int)
    (v : Value) (type : BindType) :
    (bindValue n position v type).outcome d =
      (d.answer (.bind n position v type), d.received (.bind n position v type)) := by
  rw [bindValue, outcome_bind_of_ok (outcome_get d), if_pos h, outcome_emit]

/-- The other drivers keep the values on this side. -/
theorem outcome_bindValue_of_ne {d : Driver} (h : d.style ≠ .direct) (n : Nat) (position : Int)
    (v : Value) (type : BindType) :
    (bindValue n position v type).outcome d =
      (.ok (), { d with statements := bindSlot n position v d.statements }) := by
  rw [bindValue, outcome_bind_of_ok (outcome_get d), if_neg h, outcome_modify]

/-- A direct driver is told to execute. -/
theorem outcome_execute_direct {d : Driver} (h : d.style = .direct) (n : Nat) :
    (execute n).outcome d =
      ((d.answer (.execute n)).map fun _ => .statement n, d.received (.execute n)) := by
  rw [execute, outcome_bind_of_ok (outcome_get d)]
  simp only [h]
  rw [outcome_bind, outcome_emit]
  cases d.answer (.execute n) <;> rfl

/-- A cursor driver takes a fresh cursor and hands it text and values. -/
theorem outcome_execute_cursor {d : Driver} (h : d.style = .cursor) (n : Nat) :
    (execute n).outcome d =
      match d.answer .cursor with
      | .error e => (.error e, d.received .cursor)
      | .ok () =>
        let d' := { d.received .cursor with handles := d.handles + 1 }
        let call := .executeOn d.handles (d.statement n).sql (d.statement n).slots.values
        ((d'.answer call).map fun _ => .cursor d.handles, d'.received call) := by
  rw [execute, outcome_bind_of_ok (outcome_get d)]
  simp only [h]
  rw [outcome_bind, outcome_emit]
  cases d.answer .cursor with
  | error e => rfl
  | ok a =>
    have htake : takeHandle.outcome (d.received .cursor) =
        (.ok d.handles, { d.received .cursor with handles := d.handles + 1 }) := rfl
    dsimp only
    rw [outcome_bind_of_ok htake, outcome_bind_pure, outcome_emit]

/-- An autobegin driver takes text and values at once, and has a transaction open then. -/
theorem outcome_execute_autobegin {d : Driver} {owns : Bool} (h : d.style = .autobegin owns)
    (n : Nat) :
    (execute n).outcome d =
      let d' := { d with busy := true }
      let call := .executeText (d.statement n).sql (d.statement n).slots.values
      match d'.answer call with
      | .error e => (.error e, d'.received call)
      | .ok () =>
        (.ok (.result d.handles), { d'.received call with handles := d.handles + 1 }) := by
  rw [execute, outcome_bind_of_ok (outcome_get d)]
  dsimp only
  split
  · next h' => cases h.symm.trans h'
  · next h' => cases h.symm.trans h'
  · rw [outcome_bind_of_ok (outcome_modify _ d), outcome_bind, outcome_emit]
    cases ({ d with busy := true } : Driver).answer
      (.executeText (d.statement n).sql (d.statement n).slots.values) <;> rfl

/-! ## What operations keep -/

section Keeps

variable {R : Driver → Driver → Prop} [IsPreorder Driver R]

/-- To prepare a statement stores its text, behind a call if the driver is a direct one. -/
theorem keeps_prepare {sql : String} (hemit : Keeps R (emit (.prepare sql)))
    (hstatements : ∀ f : List DriverStatement → List DriverStatement,
      Keeps R (modify fun d => { d with statements := f d.statements } : Operation Driver Unit)) :
    Keeps R (prepare sql) := by
  refine .bind .get fun d => ?_
  have hrest : Keeps R (do
      modify fun d => { d with statements := d.statements ++ [⟨sql, []⟩] }
      return d.statements.length : Operation Driver Nat) :=
    .bind (hstatements (· ++ [⟨sql, []⟩])) fun _ => .pure _
  dsimp only
  split
  · exact .bind hemit fun _ => hrest
  · exact hrest

/-- A binding is a call of a direct driver, and goes into a slot of the statement otherwise. -/
theorem keeps_bindValue {n : Nat} {position : Int} {v : Value} {type : BindType}
    (hemit : Keeps R (emit (.bind n position v type)))
    (hstatements : ∀ f : List DriverStatement → List DriverStatement,
      Keeps R (modify fun d => { d with statements := f d.statements } : Operation Driver Unit)) :
    Keeps R (bindValue n position v type) := by
  refine .bind .get fun d => ?_
  split
  · exact hemit
  · exact hstatements (bindSlot n position v)

/-- In each style an execution is made of calls, a handle taken and the flag set. -/
theorem keeps_execute {n : Nat} (hemit : ∀ e : Event, e.action = .execute → Keeps R (emit e))
    (hcursor : Keeps R (emit .cursor)) (hhandle : Keeps R takeHandle)
    (hbusy : ∀ flag, Keeps R (modify fun d => { d with busy := flag } : Operation Driver Unit)) :
    Keeps R (execute n) := by
  refine .bind .get fun d => ?_
  dsimp only
  split
  · exact .bind (hemit _ rfl) fun _ => .pure _
  · exact .bind hcursor fun _ => .bind hhandle fun _ => .bind (hemit _ rfl) fun _ => .pure _
  · exact .bind (hbusy true) fun _ => .bind (hemit _ rfl) fun _ => .bind hhandle fun _ => .pure _

/-- A driver with no call of its own to begin a transaction does nothing, and one whose flag is
    set makes none. -/
theorem keeps_begin (hemit : Keeps R (emit .begin))
    (hbusy : ∀ flag, Keeps R (modify fun d => { d with busy := flag } : Operation Driver Unit)) :
    Keeps R begin := by
  refine .bind .get fun d => ?_
  split
  · exact hemit
  · exact .pure _
  · split
    · exact .bind hemit fun _ => hbusy true
    · exact .pure _

theorem keeps_finish {e : Event} (hemit : Keeps R (emit e))
    (hbusy : ∀ flag, Keeps R (modify fun d => { d with busy := flag } : Operation Driver Unit)) :
    Keeps R (finish e) :=
  .bind (hbusy false) fun _ => hemit

/-- To close is one call or, for the owner of an engine, two. -/
theorem keeps_close (hclose : Keeps R (emit .close)) (hdispose : Keeps R (emit .dispose)) :
    Keeps R close := by
  refine .bind .get fun _ => .bind hclose fun _ => ?_
  split
  · exact hdispose
  · exact .pure _

end Keeps

/-! ## Continuation -/

/-- Whether the second driver is what the first has become by receiving further calls. -/
structure Continues (d d' : Driver) : Prop where
  style : d'.style = d.style
  marker : d'.marker = d.marker
  fails : d'.fails = d.fails
  events : ∃ es, d'.events = d.events ++ es

instance : IsPreorder Driver Continues where
  refl d := ⟨rfl, rfl, rfl, [], by simp⟩
  trans := by
    rintro d d' d'' ⟨hs, hm, hf, es, he⟩ ⟨hs', hm', hf', es', he'⟩
    exact ⟨hs'.trans hs, hm'.trans hm, hf'.trans hf, es ++ es', by rw [he', he, List.append_assoc]⟩

theorem continues_emit (e : Event) : Keeps Continues (emit e) := by
  intro d
  rw [outcome_emit]
  exact ⟨rfl, rfl, rfl, [e], rfl⟩

/-- What is neither the driver's nature nor its memory of calls may change freely. -/
theorem continues_modify {f : Driver → Driver}
    (h : ∀ d, (f d).style = d.style ∧ (f d).marker = d.marker ∧ (f d).fails = d.fails ∧
      (f d).events = d.events) : Keeps Continues (modify f : Operation Driver Unit) :=
  .modify fun d => ⟨(h d).1, (h d).2.1, (h d).2.2.1, [], by rw [(h d).2.2.2, List.append_nil]⟩

theorem continues_setBusy (flag : Bool) :
    Keeps Continues (modify fun d => { d with busy := flag } : Operation Driver Unit) :=
  continues_modify fun _ => ⟨rfl, rfl, rfl, rfl⟩

theorem continues_takeHandle : Keeps Continues takeHandle :=
  fun d => ⟨rfl, rfl, rfl, [], (List.append_nil d.events).symm⟩

theorem continues_setStatements (f : List DriverStatement → List DriverStatement) :
    Keeps Continues
      (modify fun d => { d with statements := f d.statements } : Operation Driver Unit) :=
  continues_modify fun _ => ⟨rfl, rfl, rfl, rfl⟩

theorem continues_prepare (sql : String) : Keeps Continues (prepare sql) :=
  keeps_prepare (continues_emit _) continues_setStatements

theorem continues_bindValue (n : Nat) (position : Int) (v : Value) (type : BindType) :
    Keeps Continues (bindValue n position v type) :=
  keeps_bindValue (continues_emit _) continues_setStatements

theorem continues_execute (n : Nat) : Keeps Continues (execute n) :=
  keeps_execute (fun e _ => continues_emit e) (continues_emit _) continues_takeHandle
    continues_setBusy

theorem continues_begin : Keeps Continues begin := keeps_begin (continues_emit _) continues_setBusy

theorem continues_finish (e : Event) : Keeps Continues (finish e) :=
  keeps_finish (continues_emit e) continues_setBusy

theorem continues_close : Keeps Continues close := keeps_close (continues_emit _) (continues_emit _)

end TaggedSql.Driver
