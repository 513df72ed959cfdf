/-
  Builders on a connection freeze when they are rendered.

  1. **What commands do to builders** (`builders_command`) — making a builder adds one, a request
     changes the builder that it is for, and no other command changes any.  So the builder with a
     number is, at any moment, what the requests to it have made of it (`builder_along`).

  2. **Answers** (`outcome_ask`) — a request is answered by the builder; to be executed, its query
     is rendered and then run on the connection.

  3. **Freezing** (`builders_freeze_when_rendered`) — what is said of builders and requests holds of
     the builders of a session at all moments, whatever else goes on there.
-/
import TaggedSql.Proofs.Query.Freezing
import TaggedSql.Proofs.Session.Effects
import TaggedSql.Proofs.Session.Moves

namespace TaggedSql.Session

open TaggedSql.Query Operation

/-! ## What commands do to builders -/

/-- Whether two sessions have the same builders. -/
def SameBuilders (s t : Session) : Prop := t.builders = s.builders

instance : IsPreorder Session SameBuilders where
  refl _ := rfl
  trans _ _ _ h h' := Eq.trans h' h

theorem sameBuilders_onConnection {α : Type} (x : Operation Connection α) :
    Keeps SameBuilders (onConnection x) := by
  intro s
  rw [onConnection, outcome_within]
  rfl

theorem sameBuilders_statement (n : Nat) : Keeps SameBuilders (statement n) := by
  intro s
  rw [outcome_statement]
  rfl

theorem sameBuilders_prepare (sql : String) : Keeps SameBuilders (prepare sql) :=
  .bind (sameBuilders_onConnection _) fun _ => .bind .get fun _ =>
    .bind (.modify fun _ => rfl) fun _ => .pure _

/-- **A request** is answered by its builder. -/
theorem outcome_ask {s : Session} {n : Nat} {b : Builder} (hb : s.builders[n]? = some b)
    {q : Request} (hq : q ≠ .execute) :
    (Command.ask n q).run.outcome s =
      (((b.answer q).1.mapError .query).map .answer,
        { s with builders := s.builders.set n (b.answer q).2 }) := by
  cases q with
  | execute => exact absurd rfl hq
  | _ =>
    rw [Command.run, outcome_bind_pure, outcome_withBuilder, hb]
    exact hq

/-- What cannot be rendered is not executed, and the session stays what it is. -/
theorem outcome_ask_execute_of_error {s : Session} {n : Nat} {b : Builder}
    (hb : s.builders[n]? = some b) {f : Fault} (hf : b.build.1 = .error f) :
    (Command.ask n .execute).run.outcome s = (.error (.query f), s) := by
  have hstate : b.build.2 = b := by
    rw [b.build_state, hf]
    rfl
  have hset : s.builders.set n b = s.builders := by
    obtain ⟨hlt, rfl⟩ := List.getElem?_eq_some_iff.mp hb
    exact List.set_getElem_self hlt
  rw [Command.run, outcome_bind_pure, executeBuilder, outcome_bind, outcome_withBuilder, hb]
  dsimp only
  rw [hf, hstate, hset]
  rfl

/-- **To be executed**, a query is rendered and then run on the connection; it stays rendered even
    if that fails. -/
theorem outcome_ask_execute_of_ok {s : Session} {n : Nat} {b : Builder}
    (hb : s.builders[n]? = some b) {r : Rendered} (hr : b.build.1 = .ok r) :
    let ran := (Connection.query r.sql r.parameters).outcome s.connection
    (Command.ask n .execute).run.outcome s = (ran.1.map .executed,
      { s with connection := ran.2, builders := s.builders.set n b.build.2 }) := by
  intro ran
  rw [Command.run, outcome_bind_pure, executeBuilder, outcome_bind, outcome_withBuilder, hb]
  dsimp only
  rw [hr]
  dsimp only [Except.mapError]
  rw [onConnection, outcome_within]

/-- The builders after a request to one of them. -/
theorem builders_ask (n : Nat) (q : Request) (s : Session) :
    ((Command.ask n q).run.outcome s).2.builders = s.builders.modify n (·.become true q) := by
  rw [List.modify_eq_set_getElem?]
  cases hb : s.builders[n]? with
  | none =>
    -- there is no such builder
    cases q with
    | execute =>
      rw [Command.run, outcome_bind_pure, executeBuilder, outcome_bind, outcome_withBuilder, hb]
      rfl
    | _ =>
      rw [Command.run, outcome_bind_pure, outcome_withBuilder, hb]
      · rfl
      · rintro ⟨⟩
  | some b =>
    cases q with
    | execute =>
      cases hr : b.build.1 with
      | error f =>
        have hstate : b.become true .execute = b := by
          rw [Builder.become_of_isRendering true b rfl, Builder.renders?, hr]
          rfl
        obtain ⟨hlt, rfl⟩ := List.getElem?_eq_some_iff.mp hb
        rw [outcome_ask_execute_of_error hb hr]
        show s.builders = s.builders.set n (Builder.become true s.builders[n] .execute)
        rw [hstate, List.set_getElem_self hlt]
      | ok r =>
        rw [outcome_ask_execute_of_ok hb hr]
        rfl
    | call | build | text =>
      rw [outcome_ask hb (by rintro ⟨⟩)]
      rfl

/-- **What a command does to builders.** -/
theorem builders_command (c : Command) (s : Session) :
    (c.run.outcome s).2.builders =
      match c with
      | .makeBuilder draft => s.builders ++ [.start s.connection.dialect.dialect draft]
      | .ask n q => s.builders.modify n (·.become true q)
      | _ => s.builders := by
  cases c with
  | makeBuilder draft => rfl
  | ask n q => exact builders_ask n q s
  | prepare sql =>
    have hsame : Keeps SameBuilders (Command.prepare sql).run :=
      .bind (sameBuilders_prepare sql) fun n => .bind (sameBuilders_statement n) fun _ =>
        .bind .get fun _ => .pure _
    exact hsame s
  | execute n supplied =>
    have hsame : Keeps SameBuilders (Command.execute n supplied).run :=
      .bind (sameBuilders_statement n) fun _ =>
        .bind (sameBuilders_onConnection _) fun _ => .pure _
    exact hsame s
  | parameters n supplied =>
    have hsame : Keeps SameBuilders (Command.parameters n supplied).run :=
      .bind (sameBuilders_statement n) fun _ =>
        .bind (sameBuilders_onConnection _) fun _ => .pure _
    exact hsame s
  | display n =>
    have hsame : Keeps SameBuilders (Command.display n).run :=
      .bind (sameBuilders_statement n) fun _ => .pure _
    exact hsame s
  | quote | describe => rfl
  | query sql supplied =>
    exact Keeps.bind (R := SameBuilders) (sameBuilders_onConnection _) (fun _ => .pure _) s
  | begin => exact Keeps.bind (R := SameBuilders) (sameBuilders_onConnection _) (fun _ => .pure _) s
  | commit => exact Keeps.bind (R := SameBuilders) (sameBuilders_onConnection _) (fun _ => .pure _) s
  | rollback => exact Keeps.bind (R := SameBuilders) (sameBuilders_onConnection _) (fun _ => .pure _) s
  | close => exact Keeps.bind (R := SameBuilders) (sameBuilders_onConnection _) (fun _ => .pure _) s

/-! ## Runs -/

/-- The requests to a builder among moves. -/
def requestsTo (n : Nat) (ms : List Move) : List Request :=
  ms.filterMap fun m =>
    match m with
    | .command (.ask k q) => if k = n then some q else none
    | _ => none

/-- **What one move does to a builder**: nothing, unless it is a request to it. -/
theorem builder_move {s : Session} {n : Nat} {b : Builder} (hb : s.builders[n]? = some b)
    (m : Move) :
    (m.run.outcome s).2.builders[n]? = some (b.asked true (requestsTo n [m])) := by
  cases m with
  | enter block =>
    rw [Move.run, outcome_bind_pure, onConnection, outcome_within]
    exact hb
  | leave block ended =>
    rw [Move.run, outcome_bind_pure, onConnection, outcome_within]
    exact hb
  | command c =>
    rw [Move.run, builders_command]
    cases c with
    | makeBuilder draft =>
      -- the new builder comes after those that were there
      have hlt : n < s.builders.length := (List.getElem?_eq_some_iff.mp hb).1
      exact (List.getElem?_append_left hlt).trans hb
    | ask k q =>
      show (s.builders.modify k (·.become true q))[n]? = _
      rw [List.getElem?_modify, hb]
      by_cases hk : k = n
      · simp [requestsTo, hk, Builder.asked]
      · simp [requestsTo, hk, Builder.asked]
    | _ => exact hb

/-- **What moves do to a builder** is what the requests to it do. -/
theorem builder_along {s : Session} {n : Nat} {b : Builder} (hb : s.builders[n]? = some b)
    (ms : List Move) :
    (s.along ms).builders[n]? = some (b.asked true (requestsTo n ms)) := by
  induction ms generalizing s b with
  | nil => exact hb
  | cons m ms ih =>
    have hsplit : requestsTo n (m :: ms) = requestsTo n [m] ++ requestsTo n ms :=
      List.filterMap_append (l := [m])
    rw [hsplit, Builder.asked_append]
    exact ih (builder_move hb m)

/-- How the builder with a number answers, in a session in which it is `b`. -/
structure Answers (s : Session) (n : Nat) (b : Builder) : Prop where
  /-- A request that needs no connection is answered by the builder. -/
  asked : ∀ q, q ≠ .execute →
    ((Command.ask n q).run.outcome s).1 = ((b.answer q).1.mapError .query).map .answer
  /-- What cannot be rendered is not executed, and nothing at all has happened. -/
  failed : ∀ f, b.build.1 = .error f →
    (Command.ask n .execute).run.outcome s = (.error (.query f), s)
  /-- What is executed is what is rendered. -/
  executed : ∀ r, b.build.1 = .ok r → ((Command.ask n .execute).run.outcome s).1 =
    ((Connection.query r.sql r.parameters).outcome s.connection).1.map .executed

theorem answers_of_getElem? {s : Session} {n : Nat} {b : Builder} (hb : s.builders[n]? = some b) :
    s.Answers n b where
  asked q hq := by rw [outcome_ask hb hq]
  failed f hf := outcome_ask_execute_of_error hb hf
  executed r hr := by rw [outcome_ask_execute_of_ok hb hr]

/-- **Builders freeze** when they are rendered first, and not before.  Whether a builder is attached
    to a connection or not: the first request that renders it freezes it with what it rendered, and
    nothing else does; a frozen builder never changes and builds the same query ever after.  It
    refuses all calls but two: the one that does nothing, and the assignment from what has no
    entries, which ends in a fault of its own.  A request that does not render the builder leaves it
    as it is and can be left out.  On a connection all this holds of each builder at all moments,
    whatever else goes on there. -/
theorem builders_freeze_when_rendered (b : Builder) :
    b.Freezes false ∧ b.Freezes true ∧
      ∀ (s : Session) (n : Nat), s.builders[n]? = some b → ∀ ms : List Move,
        (s.along ms).builders[n]? = some (b.asked true (requestsTo n ms)) ∧
          (s.along ms).Answers n (b.asked true (requestsTo n ms)) := by
  refine ⟨b.freezes false, b.freezes true, ?_⟩
  intro s n hb ms
  have hbuilder := builder_along hb ms
  exact ⟨hbuilder, answers_of_getElem? hbuilder⟩

/-- A builder that cannot be rendered at first, and is frozen by an execution that the driver then
    refuses: the later calls are refused as well, one of them for a join that no query has. -/
theorem builder_freezes_despite_driver :
    let b := Builder.start .ansi (.ofUpdate (.name "t") [])
    let c := Connection.fresh (.fresh .cursor "?" fun a _ => a == .execute)
      Sql.Dialect.ansi.entry false
    let s : Session := ⟨c, [], [b]⟩
    let ms : List Move := [.command (.ask 0 .build),
      .command (.ask 0 (.call (.set (.name "a") (.int 1)))), .command (.ask 0 .execute)]
    let more : List Move := [.command (.ask 0 (.call (.compare .and (.name "b") (.text "=~") none))),
      .command .close, .command (.ask 0 .build)]
    s.builders[0]? = some b ∧
      (s.along (ms ++ more)).builders[0]? = (s.along ms).builders[0]? ∧
      ∃ b', (s.along ms).builders[0]? = some b' ∧
        b'.IsFrozen ⟨"UPDATE \"t\" SET \"a\" = i:param_0", [("param_0", .int 1)]⟩ := by
  intro b c s ms more
  obtain ⟨-, hfreezes, hbuilders⟩ := builders_freeze_when_rendered b
  have hrun : ((Builder.start .ansi (.ofUpdate (.name "t") [])).asked true
      [.build, .call (.set (.name "a") (.int 1)), .execute]).rendered =
        some ⟨"UPDATE \"t\" SET \"a\" = i:param_0", [("param_0", .int 1)]⟩ := rfl
  have hrequests : requestsTo 0 ms = [.build, .call (.set (.name "a") (.int 1)), .execute] := rfl
  have hrendered : (b.asked true (requestsTo 0 ms)).rendered =
      some ⟨"UPDATE \"t\" SET \"a\" = i:param_0", [("param_0", .int 1)]⟩ := by
    rw [hrequests]
    exact hrun
  have hb : s.builders[0]? = some b := rfl
  obtain ⟨hfirst, -⟩ := hbuilders s 0 hb ms
  obtain ⟨hlast, -⟩ := hbuilders s 0 hb (ms ++ more)
  refine ⟨hb, ?_, _, hfirst, hfreezes.answers _ _ hrendered⟩
  rw [hlast, hfirst]
  exact congrArg some (hfreezes.stays (requestsTo 0 ms) _ hrendered (requestsTo 0 more))

/-- A frozen builder, and an assignment from a list: the fault is the one that the list causes, and
    no complaint about the builder. -/
theorem frozen_builder_trips_over_list :
    let b := (Builder.start .ansi (.ofUpdate (.name "t") [("a", .int 1)])).asked true [.build]
    let c : Call := .setOther "list"
    b.rendered.isSome ∧ b.draft.knows c ∧ b.answer (.call c) = (.error (.noEntries "list"), b) ∧
      (Fault.noEntries "list").isComplaint = false :=
  ⟨rfl, rfl, rfl, rfl⟩

end TaggedSql.Session
