/-
  Drivers without statements of their own are sent the same.

  1. **Alike** — two sessions are alike when they differ at most in the styles of their drivers, in
     what these keep track of themselves, and in the calls that send nothing; neither driver ever
     fails.

  2. **Operations agree** — every operation of a driver takes alike drivers to alike drivers,
     whatever their styles.  The same follows for connections, for commands (`agrees_command`) and
     for steps (`alike_step`), since none of them looks at what alike sessions differ in.

  3. **The theorem** (`statements_are_independent`) — with what is sent by one command
     (`sends_effect`), a statement's executions depend on nothing but themselves, and a script sends
     the same over both kinds of drivers.
-/
import TaggedSql.Proofs.Session.Independence

namespace TaggedSql

open Operation

/-! ## Drivers -/

namespace Driver

/-- Whether a driver has no statements of its own and never fails. -/
structure IsSmooth (d : Driver) : Prop where
  style : d.style ≠ .direct
  fails : ∀ a n, d.fails a n = false

/-- Whether two smooth drivers hold the same statements and were sent the same. -/
structure Alike (d d' : Driver) : Prop where
  left : d.IsSmooth
  right : d'.IsSmooth
  marker : d.marker = d'.marker
  statements : d.statements = d'.statements
  sent : sent d.events = sent d'.events

/-- Drivers that go on stay smooth: which calls fail is fixed from the start. -/
theorem IsSmooth.continues {d d' : Driver} (h : d.IsSmooth) (hc : d.Continues d') : d'.IsSmooth :=
  ⟨by rw [hc.style]; exact h.style, fun a n => by rw [hc.fails]; exact h.fails a n⟩

/-- A smooth driver refuses no call. -/
theorem IsSmooth.answer {d : Driver} (h : d.IsSmooth) (e : Event) : d.answer e = .ok () :=
  if_neg (by rw [h.fails]; exact Bool.false_ne_true)

theorem IsSmooth.received {d : Driver} (h : d.IsSmooth) (e : Event) : (d.received e).IsSmooth :=
  ⟨h.style, h.fails⟩

theorem Alike.withStatements {d d' : Driver} (h : d.Alike d') (ss : List DriverStatement) :
    Alike { d with statements := ss } { d' with statements := ss } :=
  ⟨⟨h.left.style, h.left.fails⟩, ⟨h.right.style, h.right.fails⟩, h.marker, rfl, h.sent⟩

/-- Quiet work adds nothing to the tuples that were sent. -/
theorem sent_of_quiet {d d' : Driver} (h : d.Quiet d') :
    TaggedSql.sent d'.events = TaggedSql.sent d.events := by
  obtain ⟨es, hes, hsent⟩ := h.events
  rw [hes, sent_append, hsent, List.append_nil]

/-- Alike drivers stay alike as long as they hold the same statements and are sent the same. -/
theorem Alike.continues {d d' e e' : Driver} (h : d.Alike d') (hc : d.Continues e)
    (hc' : d'.Continues e') (hstatements : e.statements = e'.statements)
    (hsent : TaggedSql.sent e.events = TaggedSql.sent e'.events) : e.Alike e' where
  left := h.left.continues hc
  right := h.right.continues hc'
  marker := by rw [hc.marker, hc'.marker, h.marker]
  statements := hstatements
  sent := hsent

/-- Alike drivers stay alike under operations that are quiet and go through. -/
theorem agrees_of_quiet {x : Operation Driver Unit} (hquiet : Keeps Quiet x)
    (hcontinues : Keeps Continues x) (hok : ∀ d, d.IsSmooth → (x.outcome d).1 = .ok ()) :
    Agrees Alike Eq x x := by
  intro d d' h
  refine ⟨h.continues (hcontinues d) (hcontinues d') ?_ ?_, ?_⟩
  · rw [(hquiet d).statements, (hquiet d').statements, h.statements]
  · rw [sent_of_quiet (hquiet d), sent_of_quiet (hquiet d'), h.sent]
  · rw [hok d h.left, hok d' h.right]
    exact .ok rfl

/-- To begin a transaction has the same outcome on both, and sends nothing. -/
theorem agrees_begin : Agrees Alike Eq begin begin := by
  refine agrees_of_quiet quiet_begin continues_begin fun d h => ?_
  rw [begin, outcome_bind_of_ok (outcome_get d)]
  split
  · next hd => exact absurd hd h.style
  · rfl
  · split
    · rw [outcome_bind_of_ok (by rw [outcome_emit, h.answer])]
      rfl
    · rfl

theorem agrees_finish {e : Event} (he : e.sent? = none) :
    Agrees Alike Eq (finish e) (finish e) := by
  refine agrees_of_quiet (quiet_finish he) (continues_finish e) fun d h => ?_
  rw [outcome_finish]
  exact h.answer e

theorem agrees_close : Agrees Alike Eq close close := by
  refine agrees_of_quiet quiet_close continues_close fun d h => ?_
  rw [close, outcome_bind_of_ok (outcome_get d),
    outcome_bind_of_ok (by rw [outcome_emit, h.answer])]
  split
  · rw [outcome_emit]
    exact (h.received _).answer _
  · rfl

/-- Both adapters keep prepared statements on their own side, in the order they come. -/
theorem agrees_prepare (sql : String) : Agrees Alike Eq (prepare sql) (prepare sql) := by
  intro d d' h
  rw [outcome_prepare_of_ne h.left.style, outcome_prepare_of_ne h.right.style, h.statements]
  exact ⟨h.withStatements _, .ok rfl⟩

/-- Bindings go into the statement's slots, which the two have in common. -/
theorem agrees_bindAll (number : Nat) (bs : List BoundValue) :
    Agrees Alike Eq (Statement.bindAll number bs) (Statement.bindAll number bs) := by
  intro d d' h
  rw [outcome_bindAll h.left.style, outcome_bindAll h.right.style, h.statements]
  exact ⟨h.withStatements _, .ok rfl⟩

/-- A smooth driver is sent the text of a statement with the values in its slots. -/
theorem IsSmooth.execute {d : Driver} (h : d.IsSmooth) (n : Nat) :
    (∃ handle, ((Driver.execute n).outcome d).1 = .ok handle) ∧
      ((Driver.execute n).outcome d).2.statements = d.statements ∧
      TaggedSql.sent ((Driver.execute n).outcome d).2.events =
        TaggedSql.sent d.events ++ [((d.statement n).sql, (d.statement n).slots.values)] := by
  cases hd : d.style with
  | direct => exact absurd hd h.style
  | cursor =>
    have htaken : IsSmooth { d.received .cursor with handles := d.handles + 1 } :=
      ⟨h.style, h.fails⟩
    rw [outcome_execute_cursor hd, h.answer]
    dsimp only
    rw [htaken.answer]
    refine ⟨⟨_, rfl⟩, rfl, ?_⟩
    rw [received_events, received_events, List.append_assoc, sent_append]
    rfl
  | autobegin owns =>
    have hopened : IsSmooth { d with busy := true } := ⟨h.style, h.fails⟩
    rw [outcome_execute_autobegin hd]
    dsimp only
    rw [hopened.answer]
    refine ⟨⟨_, rfl⟩, rfl, ?_⟩
    rw [received_events, sent_append]
    rfl

/-- The tuple that is sent is the one in the slots; only the handles may differ. -/
theorem agrees_execute (n : Nat) :
    Agrees Alike (fun _ _ => True) (execute n) (execute n) := by
  intro d d' h
  obtain ⟨⟨handle, hok⟩, hstatements, hsent⟩ := h.left.execute n
  obtain ⟨⟨handle', hok'⟩, hstatements', hsent'⟩ := h.right.execute n
  refine ⟨h.continues (continues_execute n d) (continues_execute n d') ?_ ?_, ?_⟩
  · rw [hstatements, hstatements', h.statements]
  · have hsame : d.statement n = d'.statement n := by rw [statement, statement, h.statements]
    rw [hsent, hsent', h.sent, hsame]
  · rw [hok, hok']
    exact .ok trivial

end Driver

/-! ## Connections -/

namespace Connection

/-- Whether two connections differ in their drivers at most, and these are alike. -/
structure Alike (c c' : Connection) : Prop where
  driver : c.driver.Alike c'.driver
  dialect : c.dialect = c'.dialect
  strict : c.strict = c'.strict
  inTransaction : c.inTransaction = c'.inTransaction
  drained : c.drained = c'.drained

/-- Connections agree where their drivers do. -/
theorem agrees_onDriver {α : Type} {V : α → α → Prop} {x : Operation Driver α}
    (h : Agrees Driver.Alike V x x) : Agrees Alike V (onDriver x) (onDriver x) :=
  .within h (fun _ _ hc => hc.driver) fun _ _ _ _ hc hd => { hc with driver := hd }

theorem agrees_setTransaction (flag : Bool) :
    Agrees Alike Eq (modify fun c => { c with inTransaction := flag } : Operation Connection Unit)
      (modify fun c => { c with inTransaction := flag }) :=
  .modify fun _ _ hc => { hc with inTransaction := rfl }

theorem agrees_prepare (sql : String) : Agrees Alike Eq (prepare sql) (prepare sql) := by
  refine .bind .get fun c c' hc => ?_
  have hoptions : c'.compileOptions = c.compileOptions := by
    rw [compileOptions, compileOptions, hc.driver.marker, hc.strict, hc.dialect]
  rw [hoptions]
  split
  · exact .throw _
  · refine .bind (agrees_onDriver (Driver.agrees_prepare _)) ?_
    rintro n _ rfl
    exact .pure rfl

/-- Values are resolved without the driver, and the streams they read are read by both. -/
theorem agrees_parameters (s : Statement) (supplied : List (String × Value)) :
    Agrees Alike Eq (parameters s supplied) (parameters s supplied) := by
  refine .ofOutcome fun c c' hc => ?_
  rw [hc.dialect, hc.drained]
  exact ⟨⟨hc.driver, rfl, hc.strict, hc.inTransaction, rfl⟩, .refl _⟩

/-- An execution binds the same values on both sides and sends the same tuple. -/
theorem agrees_execute (s : Statement) (supplied : List (String × Value)) :
    Agrees Alike (fun _ _ => True) (execute s supplied) (execute s supplied) := by
  refine .bind (agrees_parameters s supplied) ?_
  rintro bs _ rfl
  exact agrees_onDriver (.bind (Driver.agrees_bindAll _ bs) fun _ _ _ => Driver.agrees_execute _)

theorem agrees_query (sql : String) (supplied : List (String × Value)) :
    Agrees Alike (fun _ _ => True) (query sql supplied) (query sql supplied) := by
  refine .bind (agrees_prepare sql) ?_
  rintro s _ rfl
  exact agrees_execute s supplied

/-- The flags are alike, hence so are the refusals. -/
theorem agrees_begin : Agrees Alike Eq begin begin := by
  refine .bind .get fun c c' hc => ?_
  have hrest : Agrees Alike Eq
      (do onDriver Driver.begin; modify fun c => { c with inTransaction := true })
      (do onDriver Driver.begin; modify fun c => { c with inTransaction := true }) :=
    .bind (agrees_onDriver Driver.agrees_begin) fun _ _ _ => agrees_setTransaction true
  dsimp only
  rw [hc.inTransaction]
  split
  · exact .bind (V := Eq) (.throw _) fun _ _ _ => hrest
  · exact hrest

theorem agrees_endWith {x : Operation Driver Unit} (h : Agrees Driver.Alike Eq x x) :
    Agrees Alike Eq (endWith x) (endWith x) :=
  .bind (.observe (agrees_onDriver h)) fun _ _ hr =>
    .bind (agrees_setTransaction false) fun _ _ _ => .settle hr

theorem agrees_commit : Agrees Alike Eq commit commit := agrees_endWith (Driver.agrees_finish rfl)

theorem agrees_rollback : Agrees Alike Eq rollback rollback :=
  agrees_endWith (Driver.agrees_finish rfl)

theorem agrees_close : Agrees Alike Eq close close := agrees_onDriver Driver.agrees_close

/-- A transaction block is committed on both or rolled back on both. -/
theorem agrees_leave (r : Except Error Unit) : Agrees Alike Eq (leave r) (leave r) := by
  cases r with
  | error e => exact .bind agrees_rollback fun _ _ _ => .throw e
  | ok a =>
    refine .bind (.observe agrees_commit) fun r r' hr => ?_
    cases hr with
    | ok h => exact .pure rfl
    | error e => exact .bind agrees_rollback fun _ _ _ => .throw e

theorem agrees_leaveClosing (r : Except Error Unit) :
    Agrees Alike Eq (leaveClosing r) (leaveClosing r) :=
  .bind agrees_close fun _ _ _ => .settle (.refl r)

end Connection

/-! ## Sessions -/

namespace Session

open TaggedSql.Query

/-- Whether two sessions differ in the drivers of their connections at most, and these are alike. -/
structure Alike (s t : Session) : Prop where
  connection : s.connection.Alike t.connection
  statements : s.statements = t.statements
  builders : s.builders = t.builders

theorem agrees_onConnection {α : Type} {V : α → α → Prop} {x : Operation Connection α}
    (h : Agrees Connection.Alike V x x) : Agrees Alike V (onConnection x) (onConnection x) :=
  .within h (fun _ _ hs => hs.connection) fun _ _ _ _ hs hc => { hs with connection := hc }

theorem agrees_entryAt {α : Type} (xs : List α) (n : Nat) :
    Agrees Alike Eq (entryAt xs n) (entryAt xs n) := by
  unfold entryAt
  split
  · exact .pure rfl
  · exact .throw _

theorem agrees_statement (n : Nat) : Agrees Alike Eq (statement n) (statement n) := by
  refine .bind .get fun s t hs => ?_
  rw [hs.statements]
  exact agrees_entryAt _ n

/-- The handle is the number of statements so far, the same in both. -/
theorem agrees_prepare (sql : String) : Agrees Alike Eq (prepare sql) (prepare sql) := by
  refine .bind (agrees_onConnection (Connection.agrees_prepare sql)) ?_
  rintro made _ rfl
  refine .bind .get fun s t hs => ?_
  dsimp only
  rw [hs.statements]
  exact .bind (.modify fun _ _ h => { h with statements := rfl }) fun _ _ _ => .pure rfl

theorem agrees_makeBuilder (draft : Draft) :
    Agrees Alike Eq (makeBuilder draft) (makeBuilder draft) := by
  refine .bind .get fun s t hs => ?_
  rw [hs.builders, hs.connection.dialect]
  exact .bind (.set ⟨hs.connection, hs.statements, rfl⟩) fun _ _ _ => .pure rfl

/-- A builder's method is the same on either session, since the builders are. -/
theorem agrees_withBuilder {α : Type} (n : Nat) (f : Builder → Except Fault α × Builder) :
    Agrees Alike Eq (withBuilder n f) (withBuilder n f) := by
  refine .bind .get fun s t hs => ?_
  rw [hs.builders]
  refine .bind (agrees_entryAt _ n) ?_
  rintro b _ rfl
  have hset : ∀ s t : Session, s.Alike t →
      Session.Alike { s with builders := s.builders.set n (f b).2 }
        { t with builders := t.builders.set n (f b).2 } :=
    fun _ _ h => ⟨h.connection, h.statements, by rw [h.builders]⟩
  exact .bind (.modify hset) fun _ _ _ => .settle (.refl _)

theorem agrees_executeBuilder (n : Nat) :
    Agrees Alike (fun _ _ => True) (executeBuilder n) (executeBuilder n) := by
  refine .bind (agrees_withBuilder n _) ?_
  rintro r _ rfl
  exact agrees_onConnection (Connection.agrees_query r.sql r.parameters)

/-- **Every command agrees** with itself on alike sessions; of what it yields only whether it yields
    anything is looked at. -/
theorem agrees_command (c : Command) : Agrees Alike (fun _ _ => True) c.run c.run := by
  have hpure : ∀ a b : Reply, Agrees Alike (fun _ _ => True) (pure a) (pure b) :=
    fun _ _ => .pure trivial
  cases c with
  | prepare sql =>
    refine .bind (agrees_prepare sql) ?_
    rintro n _ rfl
    exact .bind (agrees_statement n) fun _ _ _ => .bind .get fun _ _ _ => hpure _ _
  | query sql supplied =>
    exact .bind (agrees_onConnection (Connection.agrees_query sql supplied)) fun _ _ _ => hpure _ _
  | execute n supplied =>
    refine .bind (agrees_statement n) ?_
    rintro s _ rfl
    exact .bind (agrees_onConnection (Connection.agrees_execute s supplied)) fun _ _ _ => hpure _ _
  | parameters n supplied =>
    refine .bind (agrees_statement n) ?_
    rintro s _ rfl
    exact .bind (agrees_onConnection (Connection.agrees_parameters s supplied))
      fun _ _ _ => hpure _ _
  | display n => exact .bind (agrees_statement n) fun _ _ _ => hpure _ _
  | quote name => exact .bind .get fun _ _ _ => hpure _ _
  | begin => exact .bind (agrees_onConnection Connection.agrees_begin) fun _ _ _ => hpure _ _
  | commit => exact .bind (agrees_onConnection Connection.agrees_commit) fun _ _ _ => hpure _ _
  | rollback => exact .bind (agrees_onConnection Connection.agrees_rollback) fun _ _ _ => hpure _ _
  | close => exact .bind (agrees_onConnection Connection.agrees_close) fun _ _ _ => hpure _ _
  | describe => exact .bind .get fun _ _ _ => hpure _ _
  | makeBuilder draft => exact .bind (agrees_makeBuilder draft) fun _ _ _ => hpure _ _
  | ask n r =>
    cases r with
    | execute => exact .bind (agrees_executeBuilder n) fun _ _ _ => hpure _ _
    | _ => exact .bind (agrees_withBuilder n _) fun _ _ _ => hpure _ _

theorem agrees_enter (b : Block) : Agrees Connection.Alike Eq b.enter b.enter := by
  cases b with
  | transaction => exact Connection.agrees_begin
  | closing => exact .pure rfl

theorem agrees_leaveBlock (b : Block) (r : Except Error Unit) :
    Agrees Connection.Alike Eq (b.leave r) (b.leave r) := by
  cases b with
  | transaction => exact Connection.agrees_leave r
  | closing => exact Connection.agrees_leaveClosing r

/-! ## Steps -/

/-- Whether two reports tell of the same end, what was yielded aside, and of the same being sent. -/
structure Report.Alike (r r' : Report) : Prop where
  outcome : Matches (fun _ _ => True) r.outcome r'.outcome
  sent : sent r.events = sent r'.events

theorem Report.Alike.failed {r r' : Report} (h : r.Alike r') : r.failed = r'.failed := by
  have houtcome := h.outcome
  unfold Report.failed
  generalize r.outcome = x at houtcome ⊢
  generalize r'.outcome = y at houtcome ⊢
  cases houtcome <;> rfl

/-- Alike reports end alike. -/
theorem matches_last {rs rs' : List Report} (h : List.Forall₂ Report.Alike rs rs') :
    Matches (fun _ _ => True) ((rs.getLast?.map Report.outcome).getD (.ok .nothing))
      ((rs'.getLast?.map Report.outcome).getD (.ok .nothing)) := by
  induction h with
  | nil => exact .ok trivial
  | cons hr hrest ih =>
    cases hrest with
    | nil => exact hr.outcome
    | cons _ _ =>
      rw [List.getLast?_cons_cons, List.getLast?_cons_cons]
      exact ih

/-- So a block ends in both the same way: with the failure of its last step, given up, or in
    order. -/
theorem ending_of_alike {rs rs' : List Report} (h : List.Forall₂ Report.Alike rs rs')
    (gaveUp : Option String) : ending rs gaveUp = ending rs' gaveUp := by
  have hlast := matches_last h
  unfold ending
  generalize (rs.getLast?.map Report.outcome).getD (.ok .nothing) = x at hlast ⊢
  generalize (rs'.getLast?.map Report.outcome).getD (.ok .nothing) = y at hlast ⊢
  cases hlast <;> cases gaveUp <;> rfl

/-- Reports between alike sessions are alike if they tell of matching ends. -/
theorem alike_report {s s' t t' : Session} (hs : s.Alike s') (ht : t.Alike t')
    (hst : Continues s t) (hst' : Continues s' t') {r r' : Except Error Reply}
    (hr : Matches (fun _ _ => True) r r') (nested nested' : Option (List Report)) :
    (report s t r nested).Alike (report s' t' r' nested') := by
  refine ⟨hr, ?_⟩
  have hevents := congrArg sent (events_report hst r nested)
  have hevents' := congrArg sent (events_report hst' r' nested')
  have hbefore : sent s.connection.events = sent s'.connection.events := hs.connection.driver.sent
  have hafter : sent t.connection.events = sent t'.connection.events := ht.connection.driver.sent
  rw [sent_append, hafter, hevents', sent_append, hbefore] at hevents
  exact (List.append_cancel_left hevents).symm

mutual

/-- **Every step** takes alike sessions to alike sessions, and tells the same of them. -/
theorem alike_step {s s' : Session} (h : s.Alike s') : ∀ step : Step,
    (step.run s).1.Alike (step.run s').1 ∧ (step.run s).2.Alike (step.run s').2
  | .command c => by
    obtain ⟨hstates, hends⟩ := agrees_command c s s' h
    rw [Step.run, Step.run]
    exact ⟨alike_report h hstates (continues_command c s) (continues_command c s') hends _ _,
      hstates⟩
  | .block b steps gaveUp => by
    obtain ⟨hentered, hends⟩ := agrees_onConnection (agrees_enter b) s s' h
    have hcontinues := continues_onConnection (continues_enter b)
    rcases hs : (onConnection b.enter).outcome s with ⟨r, t⟩
    rcases hs' : (onConnection b.enter).outcome s' with ⟨r', t'⟩
    have ht := hcontinues s
    have ht' := hcontinues s'
    rw [hs, hs'] at hentered hends
    rw [hs] at ht
    rw [hs'] at ht'
    cases hends with
    | error e =>
      rw [run_block_of_error hs, run_block_of_error hs']
      exact ⟨alike_report h hentered ht ht' (.error e) _ _, hentered⟩
    | ok _ =>
      obtain ⟨hreports, hbody⟩ := alike_runUntilFailure hentered steps
      -- the bodies ended alike, so both blocks are left in the same way
      obtain ⟨hleft, hends⟩ := agrees_onConnection (agrees_leaveBlock b
        (ending (runUntilFailure t steps).1 gaveUp)) _ _ hbody
      have hstep := continues_step s (.block b steps gaveUp)
      have hstep' := continues_step s' (.block b steps gaveUp)
      rw [run_block_of_ok hs rfl] at hstep ⊢
      rw [run_block_of_ok hs' rfl, ← ending_of_alike hreports] at hstep' ⊢
      exact ⟨alike_report h hleft hstep hstep' (hends.map fun _ _ _ => trivial) _ _, hleft⟩

/-- **The steps of a block** take alike sessions to alike sessions, and tell the same of them. -/
theorem alike_runUntilFailure {s s' : Session} (h : s.Alike s') : ∀ steps : List Step,
    List.Forall₂ Report.Alike (runUntilFailure s steps).1 (runUntilFailure s' steps).1 ∧
      (runUntilFailure s steps).2.Alike (runUntilFailure s' steps).2
  | [] => by
    rw [runUntilFailure, runUntilFailure]
    exact ⟨.nil, h⟩
  | step :: steps => by
    obtain ⟨hreports, hstates⟩ := alike_step h step
    rw [runUntilFailure, runUntilFailure]
    dsimp only
    rw [hreports.failed]
    split
    · exact ⟨.cons hreports .nil, hstates⟩
    · obtain ⟨hrest, hlast⟩ := alike_runUntilFailure hstates steps
      exact ⟨.cons hreports hrest, hlast⟩

end

/-- **Every script** takes alike sessions to alike sessions, and tells the same of them. -/
theorem alike_runAll {s s' : Session} (h : s.Alike s') (steps : List Step) :
    List.Forall₂ Report.Alike (runAll s steps).1 (runAll s' steps).1 := by
  induction steps generalizing s s' with
  | nil => exact .nil
  | cons step steps ih =>
    obtain ⟨hreport, hstates⟩ := alike_step h step
    exact .cons hreport (ih hstates)

/-! ## The theorem -/

/-- A session on a fresh driver without statements of its own is ready. -/
theorem ready_start {style : DriverStyle} (hstyle : style ≠ .direct) (marker : String)
    (fails : Action → Nat → Bool) (dialect : Sql.DialectEntry) (strict : Bool) :
    (Session.start (.fresh (.fresh style marker fails) dialect strict)).Ready :=
  ⟨hstyle, fun _ hst => absurd hst List.not_mem_nil, .nil⟩

/-- Sessions on fresh smooth drivers are alike. -/
theorem alike_start {style style' : DriverStyle} (hstyle : style ≠ .direct)
    (hstyle' : style' ≠ .direct) (marker : String) (dialect : Sql.DialectEntry) (strict : Bool) :
    (Session.start (.fresh (.fresh style marker fun _ _ => false) dialect strict)).Alike
      (.start (.fresh (.fresh style' marker fun _ _ => false) dialect strict)) :=
  ⟨⟨⟨⟨hstyle, fun _ _ => rfl⟩, ⟨hstyle', fun _ _ => rfl⟩, rfl, rfl, rfl⟩, rfl, rfl, rfl, rfl⟩, rfl,
    rfl⟩

/-- **Statements on one connection are independent.**  Over a driver without statements of its own,
    whatever commands went before and however they ended, a command that executes anything sends
    the text that it asks for as compiled, with the coerced values of this very command, one for
    each position.  So two such drivers that never fail are sent the same by the same script. -/
theorem statements_are_independent {style : DriverStyle} (hstyle : style ≠ .direct)
    (marker : String) (dialect : Sql.DialectEntry) (strict : Bool) :
    (∀ (fails : Action → Nat → Bool) (before : List Command) (next : Command),
      let s := Session.start (.fresh (.fresh style marker fails) dialect strict)
      let t := s.after before
      let r := ((Step.command next).run t).1
      (sent r.events = [] ∧ ∀ h, r.outcome ≠ .ok (.executed h)) ∨
        ∃ sql supplied compiled valueOf drained, Asks s before next sql supplied ∧
          (Placeholder.compile ⟨marker, strict, dialect.dialect.lexing⟩ sql).outcome =
            .ok compiled ∧
          Statement.Coerced dialect.dialect compiled.types supplied valueOf t.connection.drained
            compiled.names.eraseDups drained ∧
          sent r.events = [(compiled.sql, compiled.names.map valueOf)]) ∧
    ∀ (style' : DriverStyle) (steps : List Step), style' ≠ .direct →
      (runScript (.fresh (.fresh style marker fun _ _ => false) dialect strict) steps).map
          (fun r => sent r.events) =
        (runScript (.fresh (.fresh style' marker fun _ _ => false) dialect strict) steps).map
          fun r => sent r.events := by
  refine ⟨fun fails before next => ?_, fun style' steps hstyle' => ?_⟩
  · exact sends_asked (ready_start hstyle marker fails dialect strict) rfl before next
  · have halike := alike_runAll (alike_start hstyle hstyle' marker dialect strict) steps
    rw [runScript, runScript, ← List.forall₂_eq_eq_eq, List.forall₂_map_left_iff,
      List.forall₂_map_right_iff]
    exact halike.imp fun _ _ h => h.sent

/-- A value that was supplied to a call that failed is not sent by the next. -/
theorem values_of_failed_call_are_not_sent :
    let s := Session.start
      (.fresh (.fresh .cursor "?" fun _ _ => false) Sql.Dialect.ansi.entry false)
    let before : List Command := [.prepare "f(:a, i:b, :a)",
      .execute 0 [("a", .text "x"), ("b", .int 2)], .execute 0 [("a", .text "y")]]
    let next : Command := .execute 0 [("a", .null), ("b", .int 5)]
    let r := ((Step.command next).run (s.after before)).1
    sent r.events = [("f(?, ?, ?)", [.null, .int 5, .null])] ∧
      ∃ sql supplied compiled valueOf drained, Asks s before next sql supplied ∧
        (Placeholder.compile ⟨"?", false, Sql.Dialect.ansi.lexing⟩ sql).outcome = .ok compiled ∧
        Statement.Coerced .ansi compiled.types supplied valueOf
          (s.after before).connection.drained compiled.names.eraseDups drained ∧
        sent r.events = [(compiled.sql, compiled.names.map valueOf)] := by
  intro s before next r
  have hcursor : DriverStyle.cursor ≠ .direct := by decide
  have hlength : (sent r.events).length = 1 := by decide +kernel
  rcases (statements_are_independent hcursor "?" Sql.Dialect.ansi.entry false).1
    (fun _ _ => false) before next with ⟨hnone, -⟩ | hown
  · rw [hnone] at hlength
    cases hlength
  · refine ⟨?_, hown⟩
    obtain ⟨sql, supplied, compiled, valueOf, drained, hasks, hcompiled, hcoerced, hsent⟩ := hown
    -- only one text was prepared
    obtain ⟨rfl, rfl⟩ : sql = "f(:a, i:b, :a)" ∧ supplied = [("a", .null), ("b", .int 5)] := by
      change Asks s before (.execute 0 [("a", .null), ("b", .int 5)]) sql supplied at hasks
      cases hasks with
      | text h => cases h
      | @statement front back _ _ _ hbefore =>
        cases front with
        | nil =>
          obtain ⟨hprepare, -⟩ := List.cons.inj hbefore
          cases hprepare
          exact ⟨rfl, rfl⟩
        | cons c front =>
          have hlater : Command.prepare sql ∈ before.tail := by
            rw [hbefore]
            exact List.mem_append_right front List.mem_cons_self
          simp [before] at hlater
    have hlexed := Placeholder.eq_compiled_of_outcome hcompiled
    obtain rfl : compiled = ⟨"f(?, ?, ?)", ["a", "b", "a"], [("a", .text), ("b", .int)]⟩ := by
      rw [hlexed]
      decide +kernel
    have hdistinct : ["a", "b", "a"].eraseDups = ["a", "b"] := rfl
    rw [hdistinct] at hcoerced
    obtain _ | ⟨hta, hva, hwa, _ | ⟨htb, hvb, hwb, -⟩⟩ := hcoerced
    cases hta
    cases hva
    cases htb
    cases hvb
    have ha : valueOf "a" = .null := (Except.ok.inj hwa).symm
    have hb : valueOf "b" = .int 5 := (Except.ok.inj hwb).symm
    rw [hsent, List.map_cons, List.map_cons, List.map_cons, List.map_nil, ha, hb]

end Session

end TaggedSql
