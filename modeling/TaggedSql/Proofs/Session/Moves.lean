/-
  Runs, move by move.

  A block is entered, its steps are run, and it is left as they ended.  In between, the session can
  be looked at like at any other time; so what is said of all moments of a run is said of its moves.

  1. **Moves** — a command, entering a block and leaving one; moves are carried out one after the
     other, whether they fail or not (`along`).

  2. **Steps are sequences of moves** (`along_moves`, `along_movesOfAll`) — the moves of a step are
     read off the session in which it begins.

  3. **What moves keep** (`KeptOnConnection.along`) — what all operations of a connection keep, all
     moves of a session keep of its connection.
-/
import TaggedSql.Proofs.Session.Continuation

namespace TaggedSql.Session

open Operation

/-! ## Moves -/

/-- What runs are made of. -/
inductive Move where
  | command (c : Command)
  | enter (b : Block)
  /-- Leaving a block that ended as told. -/
  | leave (b : Block) (ended : Except Error Unit)

/-- Carries out a move. -/
def Move.run : Move → Operation Session Reply
  | command c => c.run
  | enter b => do
    onConnection b.enter
    return .connection
  | leave b ended => do
    onConnection (b.leave ended)
    return .connection

/-- The session after moves, whether they failed or not. -/
def along (s : Session) (ms : List Move) : Session :=
  ms.foldl (fun s m => (m.run.outcome s).2) s

theorem along_append (s : Session) (ms ns : List Move) :
    s.along (ms ++ ns) = (s.along ms).along ns := List.foldl_append

/-- Entering and leaving lead to the sessions that they lead to on the connection. -/
theorem along_enter (s : Session) (b : Block) :
    s.along [.enter b] = ((onConnection b.enter).outcome s).2 := by
  show ((Move.enter b).run.outcome s).2 = _
  rw [Move.run, outcome_bind_pure]

theorem along_leave (s : Session) (b : Block) (ended : Except Error Unit) :
    s.along [.leave b ended] = ((onConnection (b.leave ended)).outcome s).2 := by
  show ((Move.leave b ended).run.outcome s).2 = _
  rw [Move.run, outcome_bind_pure]

/-- Every move goes on from the calls made so far. -/
theorem continues_move (m : Move) : Keeps Continues m.run := by
  cases m with
  | command c => exact continues_command c
  | enter b => exact .bind (continues_onConnection (continues_enter b)) fun _ => .pure _
  | leave b ended =>
    exact .bind (continues_onConnection (continues_leaveBlock b ended)) fun _ => .pure _

/-- And so do moves in a row, whichever of them fail. -/
theorem continues_along (s : Session) (ms : List Move) : Continues s (s.along ms) := by
  induction ms generalizing s with
  | nil => exact refl s
  | cons m ms ih => exact IsTrans.trans _ _ _ (continues_move m s) (ih _)

/-! ## Steps are sequences of moves -/

mutual

/-- The moves of a step that begins in a session. -/
def Step.moves (s : Session) : Step → List Move
  | .command c => [.command c]
  | .block b steps gaveUp =>
    match (onConnection b.enter).outcome s with
    | (.error _, _) => [.enter b]
    | (.ok (), t) =>
      .enter b :: (movesUntilFailure t steps ++
        [.leave b (ending (runUntilFailure t steps).1 gaveUp)])

/-- The moves of steps up to the first that fails. -/
def movesUntilFailure (s : Session) : List Step → List Move
  | [] => []
  | step :: steps =>
    let first := step.run s
    if first.1.failed then step.moves s
    else step.moves s ++ movesUntilFailure first.2 steps

end

/-- The moves of steps, whether they fail or not. -/
def movesOfAll (s : Session) : List Step → List Move
  | [] => []
  | step :: steps => step.moves s ++ movesOfAll (step.run s).2 steps

mutual

/-- **A step is the sequence of its moves.** -/
theorem along_moves (s : Session) : ∀ step : Step, s.along (step.moves s) = (step.run s).2
  | .command c => by
    rw [Step.moves, Step.run]
    rfl
  | .block b steps gaveUp => by
    rw [Step.moves]
    rcases h : (onConnection b.enter).outcome s with ⟨e | _, t⟩
    · rw [run_block_of_error h, along_enter, h]
    · rcases left : (onConnection (b.leave (ending (runUntilFailure t steps).1 gaveUp))).outcome
        (runUntilFailure t steps).2 with ⟨ended, u⟩
      rw [run_block_of_ok h left]
      dsimp only
      rw [← List.singleton_append, along_append, along_enter, h, along_append,
        along_movesUntilFailure, along_leave, left]

/-- **The steps of a block are, too.** -/
theorem along_movesUntilFailure (s : Session) :
    ∀ steps : List Step, s.along (movesUntilFailure s steps) = (runUntilFailure s steps).2
  | [] => by
    rw [movesUntilFailure, runUntilFailure]
    rfl
  | step :: steps => by
    rw [movesUntilFailure, runUntilFailure]
    split
    · exact along_moves s step
    · rw [along_append, along_moves, along_movesUntilFailure]

end

/-- **A whole run is a sequence of moves.** -/
theorem along_movesOfAll (s : Session) (steps : List Step) :
    s.along (movesOfAll s steps) = (runAll s steps).2 := by
  induction steps generalizing s with
  | nil => rfl
  | cons step steps ih => rw [movesOfAll, along_append, along_moves, ih, runAll]

/-! ## What moves keep -/

section Keeps

open TaggedSql.Query

/-- Whether all operations of a connection keep a relation. -/
structure KeptOnConnection (S : Connection → Connection → Prop) : Prop where
  prepare : ∀ sql, Keeps S (Connection.prepare sql)
  parameters : ∀ st supplied, Keeps S (Connection.parameters st supplied)
  execute : ∀ st supplied, Keeps S (Connection.execute st supplied)
  begin : Keeps S Connection.begin
  commit : Keeps S Connection.commit
  rollback : Keeps S Connection.rollback
  close : Keeps S Connection.close

/-- The relation between the connections of two sessions. -/
def OfConnections (S : Connection → Connection → Prop) (s t : Session) : Prop :=
  S s.connection t.connection

variable {S : Connection → Connection → Prop}

theorem keeps_onConnection {α : Type} {x : Operation Connection α} (h : Keeps S x) :
    Keeps (OfConnections S) (onConnection x) := .within h fun _ _ hc => hc

variable [IsPreorder Connection S]

instance : IsPreorder Session (OfConnections S) where
  refl s := refl_of S s.connection
  trans _ _ _ h h' := trans_of S h h'

theorem keeps_entryAt {α : Type} (xs : List α) (number : Nat) :
    Keeps (OfConnections S) (entryAt xs number) := by
  unfold entryAt
  split
  · exact .pure _
  · exact .throw _

theorem keeps_statement (number : Nat) : Keeps (OfConnections S) (statement number) :=
  .bind .get fun _ => keeps_entryAt _ number

theorem keeps_withBuilder {α : Type} (number : Nat) (f : Builder → Except Fault α × Builder) :
    Keeps (OfConnections S) (withBuilder number f) :=
  .bind .get fun _ => .bind (keeps_entryAt _ number) fun _ =>
    .bind (.modify fun s => refl_of S s.connection) fun _ => .settle _

namespace KeptOnConnection

theorem query (h : KeptOnConnection S) (sql : String) (supplied : List (String × Value)) :
    Keeps S (Connection.query sql supplied) :=
  .bind (h.prepare sql) fun st => h.execute st supplied

/-- A block is left by a commit, a roll-back, or one behind the other. -/
theorem leave (h : KeptOnConnection S) (r : Except Error Unit) : Keeps S (Connection.leave r) := by
  cases r with
  | error e => exact .bind h.rollback fun _ => .throw e
  | ok a =>
    refine .bind (.observe h.commit) fun r => ?_
    cases r with
    | ok _ => exact .pure _
    | error e => exact .bind h.rollback fun _ => .throw e

/-- One case per command: those on statements, those on builders and the turns of a
    transaction. -/
theorem command (h : KeptOnConnection S) (c : Command) : Keeps (OfConnections S) c.run := by
  cases c with
  | prepare sql =>
    have hprepare : Keeps (OfConnections S) (Session.prepare sql) :=
      .bind (keeps_onConnection (h.prepare sql)) fun _ => .bind .get fun _ =>
        .bind (.modify fun s => refl_of S s.connection) fun _ => .pure _
    exact .bind hprepare fun n => .bind (keeps_statement n) fun _ => .bind .get fun _ => .pure _
  | query sql supplied =>
    exact .bind (keeps_onConnection (h.query sql supplied)) fun _ => .pure _
  | execute n supplied =>
    exact .bind (keeps_statement n) fun st =>
      .bind (keeps_onConnection (h.execute st supplied)) fun _ => .pure _
  | parameters n supplied =>
    exact .bind (keeps_statement n) fun st =>
      .bind (keeps_onConnection (h.parameters st supplied)) fun _ => .pure _
  | display n => exact .bind (keeps_statement n) fun _ => .pure _
  | quote name => exact .bind .get fun _ => .pure _
  | begin => exact .bind (keeps_onConnection h.begin) fun _ => .pure _
  | commit => exact .bind (keeps_onConnection h.commit) fun _ => .pure _
  | rollback => exact .bind (keeps_onConnection h.rollback) fun _ => .pure _
  | close => exact .bind (keeps_onConnection h.close) fun _ => .pure _
  | describe => exact .bind .get fun _ => .pure _
  | makeBuilder draft =>
    have hmake : Keeps (OfConnections S) (makeBuilder draft) := fun s => refl_of S s.connection
    exact .bind hmake fun _ => .pure _
  | ask n r =>
    cases r with
    | execute =>
      have hexecute : Keeps (OfConnections S) (executeBuilder n) :=
        .bind (keeps_withBuilder n _) fun r => keeps_onConnection (h.query r.sql r.parameters)
      exact .bind hexecute fun _ => .pure _
    | _ => exact .bind (keeps_withBuilder n _) fun _ => .pure _

/-- **A move keeps what the operations keep.** -/
theorem move (h : KeptOnConnection S) (m : Move) : Keeps (OfConnections S) m.run := by
  cases m with
  | command c => exact h.command c
  | enter b =>
    refine .bind (keeps_onConnection ?_) fun _ => .pure _
    cases b with
    | transaction => exact h.begin
    | closing => exact .pure ()
  | leave b ended =>
    refine .bind (keeps_onConnection ?_) fun _ => .pure _
    cases b with
    | transaction => exact h.leave ended
    | closing => exact .bind h.close fun _ => .settle _

/-- **What all operations of a connection keep, whole runs keep.** -/
theorem along (h : KeptOnConnection S) (s : Session) (ms : List Move) :
    S s.connection (s.along ms).connection := by
  induction ms generalizing s with
  | nil => exact refl_of S s.connection
  | cons m ms ih => exact trans_of S (h.move m s) (ih _)

end KeptOnConnection

end Keeps

end TaggedSql.Session
