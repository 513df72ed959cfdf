/-
  The calls that begin and end transactions, watched.

  A driver may begin a transaction without anything being sent, so the calls `begin`, `commit` and
  `rollback` cannot all be read off what it received.  They are noted where they are made: the
  watched operations below do what those of a connection do and note every such call, with the flag
  before it and whether it returned.

  1. **Notes** (`Made`, `Begun`) — calls that were made, and whether the last of them that returned
     or ended a transaction was a `begin`.

  2. **Watching** (`Watched`, `Move.watch`) — moves that take notes.

  3. **Watching changes nothing** — without the notes, the watched moves end as the moves do, and in
     the same sessions (`erases_move`), and so do runs (`along_state`).
-/
import TaggedSql.Proofs.Session.Moves

namespace TaggedSql

open Operation

/-! ## Notes -/

/-- The calls to a driver that begin and end transactions. -/
inductive Turn where
  | begin
  | commit
  | rollback
  deriving DecidableEq, Repr

/-- Makes the call. -/
def Turn.run : Turn → Operation Driver Unit
  | begin => Driver.begin
  | commit => Driver.commit
  | rollback => Driver.rollback

/-- What a direct driver receives. -/
def Turn.event : Turn → Event
  | begin => .begin
  | commit => .commit
  | rollback => .rollback

/-- The call that a driver received, if it is one of these. -/
def Event.turn? : Event → Option Turn
  | begin => some .begin
  | commit => some .commit
  | rollback => some .rollback
  | _ => none

/-- The calls of the kind that a driver received. -/
def turns (es : List Event) : List Turn := es.filterMap Event.turn?

/-- A call that was made, with the flag before it, and whether it returned normally. -/
structure Made where
  turn : Turn
  flagged : Bool
  returned : Bool
  deriving DecidableEq, Repr

/-- Whether a `begin` among the calls returned, and no call that ends a transaction was made after
    it. -/
def Begun (made : List Made) : Prop :=
  ∃ front m back, made = front ++ m :: back ∧ m.turn = .begin ∧ m.returned = true ∧
    ∀ n ∈ back, n.turn = .begin

theorem not_begun_nil : ¬ Begun [] := by
  rintro ⟨front, m, back, h, -⟩
  cases front <;> cases h

/-- The last call either is the `begin`, or it does not end a transaction and the `begin` was
    before. -/
theorem begun_concat (made : List Made) (m : Made) :
    Begun (made ++ [m]) ↔ m.turn = .begin ∧ (m.returned = true ∨ Begun made) := by
  constructor
  · rintro ⟨front, n, back, h, hturn, hreturned, hback⟩
    rcases List.eq_nil_or_concat back with rfl | ⟨back, last, rfl⟩
    · obtain ⟨-, rfl⟩ : made = front ∧ m = n := by simpa using h
      exact ⟨hturn, .inl hreturned⟩
    · rw [List.concat_eq_append, ← List.cons_append, ← List.append_assoc] at h
      obtain ⟨rfl, h⟩ := List.append_inj' h rfl
      obtain rfl : m = last := by simpa using h
      refine ⟨hback m (by simp), .inr ⟨front, n, back, rfl, hturn, hreturned, ?_⟩⟩
      exact fun x hx => hback x (by simp [hx])
  · rintro ⟨hturn, hreturned | ⟨front, n, back, rfl, hn, hreturned, hback⟩⟩
    · exact ⟨made, m, [], rfl, hturn, hreturned, by simp⟩
    · refine ⟨front, n, back ++ [m], by simp, hn, hreturned, fun x hx => ?_⟩
      rcases List.mem_append.mp hx with hx | hx
      · exact hback x hx
      · rwa [List.mem_singleton.mp hx]

/-! ## Watching -/

/-- A state, and the calls that were made on the way to it. -/
structure Watched (σ : Type) where
  state : σ
  made : List Made

namespace Watched

variable {σ α β : Type}

/-- An operation that makes none of the calls. -/
def unwatched (x : Operation σ α) : Operation (Watched σ) α :=
  x.within Watched.state fun s w => { w with state := s }

/-- Makes a call and notes it. -/
def call (t : Turn) : Operation (Watched Connection) Unit := do
  let c ← unwatched get
  let r ← observe (unwatched (Connection.onDriver t.run))
  modify fun w => { w with made := w.made ++ [⟨t, c.inTransaction, r.isOk⟩] }
  settle r

/-- Begins a transaction unless one is under way. -/
def begin : Operation (Watched Connection) Unit := do
  let c ← unwatched get
  if c.inTransaction then throw .transactionActive
  call .begin
  unwatched (modify fun c => { c with inTransaction := true })

/-- Ends the transaction. -/
def endWith (t : Turn) : Operation (Watched Connection) Unit := do
  let r ← observe (call t)
  unwatched (modify fun c => { c with inTransaction := false })
  settle r

/-- Leaves a transaction block that ended as told. -/
def leave : Except Error Unit → Operation (Watched Connection) Unit
  | .error e => do
    endWith .rollback
    throw e
  | .ok () => do
    match ← observe (endWith .commit) with
    | .ok () => pure ()
    | .error e =>
      endWith .rollback
      throw e

/-- The connection of a session, with the calls. -/
def connection (w : Watched Session) : Watched Connection := ⟨w.state.connection, w.made⟩

/-- Runs an operation of the connection. -/
def onConnection (x : Operation (Watched Connection) α) : Operation (Watched Session) α :=
  x.within connection fun v w => ⟨{ w.state with connection := v.state }, v.made⟩

end Watched

namespace Session

/-- Carries out a command. -/
def Command.watch : Command → Operation (Watched Session) Reply
  | begin => do
    Watched.onConnection Watched.begin
    return .connection
  | commit => do
    Watched.onConnection (Watched.endWith .commit)
    return .connection
  | rollback => do
    Watched.onConnection (Watched.endWith .rollback)
    return .connection
  | c => Watched.unwatched c.run

/-- Enters a block. -/
def Block.watchEnter : Block → Operation (Watched Connection) Unit
  | transaction => Watched.begin
  | closing => pure ()

/-- Leaves a block that ended as told. -/
def Block.watchLeave : Block → Except Error Unit → Operation (Watched Connection) Unit
  | transaction, r => Watched.leave r
  | closing, r => Watched.unwatched (Connection.leaveClosing r)

/-- Carries out a move. -/
def Move.watch : Move → Operation (Watched Session) Reply
  | command c => c.watch
  | enter b => do
    Watched.onConnection b.watchEnter
    return .connection
  | leave b ended => do
    Watched.onConnection (b.watchLeave ended)
    return .connection

end Session

namespace Watched

open Session

/-- The session after moves, whether they failed or not, and the calls that were made. -/
def along (w : Watched Session) (ms : List Move) : Watched Session :=
  ms.foldl (fun w m => (m.watch.outcome w).2) w

/-! ## Watching changes nothing -/

/-- Whether two operations end alike and in the same states, once the calls are forgotten. -/
def Erases {σ α : Type} (x : Operation (Watched σ) α) (y : Operation σ α) : Prop :=
  ∀ w, (x.outcome w).1 = (y.outcome w.state).1 ∧ (x.outcome w).2.state = (y.outcome w.state).2

namespace Erases

variable {σ α β : Type}

/-- Operations that make no note are what they were. -/
theorem unwatched (x : Operation σ α) : Erases (unwatched x) x := by
  intro w
  rw [Watched.unwatched, outcome_within]
  exact ⟨rfl, rfl⟩

theorem pure (a : α) : Erases (pure a : Operation (Watched σ) α) (pure a) := fun _ => ⟨rfl, rfl⟩

theorem throw (e : Error) : Erases (throw e : Operation (Watched σ) α) (throw e) :=
  fun _ => ⟨rfl, rfl⟩

theorem settle (r : Except Error α) : Erases (settle r : Operation (Watched σ) α) (settle r) := by
  cases r with
  | ok a => exact pure a
  | error e => exact throw e

/-- To look at an outcome makes no note of it. -/
theorem observe {x : Operation (Watched σ) α} {y : Operation σ α} (h : Erases x y) :
    Erases x.observe y.observe := fun w => ⟨congrArg Except.ok (h w).1, (h w).2⟩

/-- Notes are carried along, and the second operation never sees them. -/
theorem bind {x : Operation (Watched σ) α} {y : Operation σ α} {f : α → Operation (Watched σ) β}
    {g : α → Operation σ β} (h : Erases x y) (hf : ∀ a, Erases (f a) (g a)) :
    Erases (x >>= f) (y >>= g) := by
  intro w
  obtain ⟨hends, hstates⟩ := h w
  rcases hx : x.outcome w with ⟨e | a, v⟩ <;> rcases hy : y.outcome w.state with ⟨e' | a', s⟩ <;>
    rw [hx, hy] at hends hstates <;> cases hends
  · rw [outcome_bind_of_error hx, outcome_bind_of_error hy]
    exact ⟨rfl, hstates⟩
  · obtain rfl : v.state = s := hstates
    rw [outcome_bind_of_ok hx, outcome_bind_of_ok hy]
    exact hf a v

/-- The notes of a connection are those of its session. -/
theorem onConnection {x : Operation (Watched Connection) α} {y : Operation Connection α}
    (h : Erases x y) : Erases (onConnection x) (Session.onConnection y) := by
  intro w
  obtain ⟨hends, hstates⟩ := h w.connection
  rw [Watched.onConnection, Session.onConnection, outcome_within, outcome_within]
  exact ⟨hends, congrArg (fun c => { w.state with connection := c }) hstates⟩

end Erases

/-- A call is made on the driver, and noted. -/
theorem outcome_call (t : Turn) (w : Watched Connection) :
    (call t).outcome w =
      let r := t.run.outcome w.state.driver
      (r.1, ⟨{ w.state with driver := r.2 },
        w.made ++ [⟨t, w.state.inTransaction, r.1.isOk⟩]⟩) := by
  have hget : (unwatched get).outcome w = (.ok w.state, w) := outcome_within _ _ _ _
  have hcall : (observe (unwatched (Connection.onDriver t.run))).outcome w =
      (.ok (t.run.outcome w.state.driver).1,
        { w with state := { w.state with driver := (t.run.outcome w.state.driver).2 } }) := by
    rw [outcome_observe, unwatched, outcome_within, Connection.onDriver, outcome_within]
  rw [call, outcome_bind_of_ok hget, outcome_bind_of_ok hcall,
    outcome_bind_of_ok (outcome_modify _ _), outcome_settle]

/-- A call with a note is the call. -/
theorem erases_call (t : Turn) : Erases (call t) (Connection.onDriver t.run) := by
  intro w
  rw [outcome_call, Connection.onDriver, outcome_within]
  exact ⟨rfl, rfl⟩

theorem erases_begin : Erases begin Connection.begin := by
  refine .bind (.unwatched get) fun c => ?_
  have hrest : Erases (do
      call .begin
      unwatched (modify fun c => { c with inTransaction := true })) (do
      Connection.onDriver Driver.begin
      modify fun c => { c with inTransaction := true }) :=
    .bind (erases_call .begin) fun _ => .unwatched _
  dsimp only
  split
  · exact .bind (.throw _) fun _ => hrest
  · exact hrest

theorem erases_endWith (t : Turn) : Erases (endWith t) (Connection.endWith t.run) :=
  .bind (.observe (erases_call t)) fun r => .bind (.unwatched _) fun _ => .settle r

theorem erases_leave (r : Except Error Unit) : Erases (leave r) (Connection.leave r) := by
  cases r with
  | error e => exact .bind (erases_endWith .rollback) fun _ => .throw e
  | ok a =>
    refine .bind (.observe (erases_endWith .commit)) fun r => ?_
    cases r with
    | ok _ => exact .pure _
    | error e => exact .bind (erases_endWith .rollback) fun _ => .throw e

/-- One case per command; those that are no turn are not watched at all. -/
theorem erases_command (c : Command) : Erases c.watch c.run := by
  cases c with
  | begin => exact .bind (.onConnection erases_begin) fun _ => .pure _
  | commit => exact .bind (.onConnection (erases_endWith .commit)) fun _ => .pure _
  | rollback => exact .bind (.onConnection (erases_endWith .rollback)) fun _ => .pure _
  | _ => exact .unwatched _

/-- **Watching a move changes nothing.** -/
theorem erases_move (m : Move) : Erases m.watch m.run := by
  cases m with
  | command c => exact erases_command c
  | enter b =>
    have h : Erases b.watchEnter b.enter := by
      cases b with
      | transaction => exact erases_begin
      | closing => exact .pure ()
    exact .bind (.onConnection h) fun _ => .pure _
  | leave b ended =>
    have h : Erases (b.watchLeave ended) (b.leave ended) := by
      cases b with
      | transaction => exact erases_leave ended
      | closing => exact .unwatched _
    exact .bind (.onConnection h) fun _ => .pure _

/-- **Watching a run changes nothing.** -/
theorem along_state (w : Watched Session) (ms : List Move) :
    (w.along ms).state = w.state.along ms := by
  induction ms generalizing w with
  | nil => rfl
  | cons m ms ih => exact (ih _).trans (congrArg (·.along ms) (erases_move m w).2)

end Watched

end TaggedSql
