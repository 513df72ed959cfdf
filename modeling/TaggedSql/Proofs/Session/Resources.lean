/-
  What is left open.

  Connecting creates an engine and opens a connection of it; closing closes the connection and
  disposes of the engine.  Each of these calls may fail.  What is open on the database's side is
  taken from the calls alone: those that return open and close, those that fail do neither.

  1. **Open resources** (`Resources`, `openAfter`) — the engine and the connection, after calls.

  2. **Connecting** (`Connect.run_leaves`) — nothing is closed when connecting fails, so that the
     error tells what is left open (`Connect.leftBy`).

  3. **Closing** (`Driver.close_cases`, `Connection.close_cases`) — the engine is disposed of if
     closing the connection returns, and only then.

  4. **Runs** (`Disposes`) — this is the rule for all calls that a driver receives which owns its
     engine: every operation of a connection follows it (`disposal_operations`), and so do runs.

  5. **The statement** (`resources_left_open`) — of connecting, whatever reads the configuration,
     and of closing at any moment.
-/
import TaggedSql.Connect
import TaggedSql.Proofs.Session.Moves

namespace TaggedSql

open Operation

/-! ## Open resources -/

/-- Whether a call returns that is made after others. -/
def returns (fails : Action → Nat → Bool) (before : List Event) (e : Event) : Bool :=
  !fails e.action ((before.filter fun b => b.action == e.action).length + 1)

/-- What is open on the database's side: an engine, and a connection of it. -/
structure Resources where
  engine : Bool
  connection : Bool
  deriving DecidableEq, Repr

/-- Nothing is open. -/
def Resources.none : Resources := ⟨false, false⟩

/-- What a call that returns makes of what is open. -/
def Resources.after (r : Resources) : Event → Resources
  | .createEngine .. => { r with engine := true }
  | .connect => { r with connection := true }
  | .close => { r with connection := false }
  | .dispose => { r with engine := false }
  | _ => r

/-- What is open after calls, the latest of them first. -/
def openSince (fails : Action → Nat → Bool) : List Event → Resources
  | [] => .none
  | e :: before =>
    if returns fails before e then (openSince fails before).after e else openSince fails before

/-- What is open after calls. -/
def openAfter (fails : Action → Nat → Bool) (es : List Event) : Resources :=
  openSince fails es.reverse

theorem openAfter_concat (fails : Action → Nat → Bool) (es : List Event) (e : Event) :
    openAfter fails (es ++ [e]) =
      if returns fails es e then (openAfter fails es).after e else openAfter fails es := by
  simp [openAfter, openSince, returns, List.filter_reverse]

namespace Driver

/-- What is open on the other side of a driver. -/
def holds (d : Driver) : Resources := openAfter d.fails d.events

/-- **A call** that returns opens or closes; one that fails does not. -/
theorem emit_cases (e : Event) (d : Driver) :
    returns d.fails d.events e = true ∧ (emit e).outcome d = (.ok (), d.received e) ∧
        (d.received e).holds = d.holds.after e ∨
      returns d.fails d.events e = false ∧
        (emit e).outcome d = (.error (.driver e.action), d.received e) ∧
        (d.received e).holds = d.holds := by
  have hholds : (d.received e).holds =
      if returns d.fails d.events e then d.holds.after e else d.holds := openAfter_concat _ _ _
  have hanswer : d.answer e =
      if returns d.fails d.events e then .ok () else .error (.driver e.action) := by
    unfold answer returns count
    cases d.fails e.action ((d.events.filter fun b => b.action == e.action).length + 1) <;> rfl
  rw [outcome_emit, hanswer, hholds]
  cases returns d.fails d.events e
  · exact .inr ⟨rfl, rfl, rfl⟩
  · exact .inl ⟨rfl, rfl, rfl⟩

end Driver

/-! ## Connecting -/

namespace Connect

/-- What is left open when connecting ends in an error: without a connection the engine, and both
    when the style of markers is not known. -/
def leftBy : Error → Resources
  | .driver .connect => ⟨true, false⟩
  | .unknownMarkerStyle _ => ⟨true, true⟩
  | _ => .none

variable {backend : Backend} {config : Config}

/-- Where there is nothing to connect to, no engine is left. -/
theorem leftBy_of_dialectFor {e : Error} (h : dialectFor backend config = .error e) :
    leftBy e = .none := by
  unfold dialectFor at h
  split at h
  · cases hname : config.dialectName with
    | error e' =>
      obtain rfl : e' = e := by simpa [hname, bind, Except.bind] using h
      unfold Config.dialectName at hname
      split at hname
      · cases hname
      · split at hname <;> cases hname
        rfl
    | ok name =>
      have hrequire : Sql.Registry.standard.require name = .error e := by
        simpa [hname, bind, Except.bind] using h
      unfold Sql.Registry.require at hrequire
      split at hrequire <;> cases hrequire
      rfl
  · cases h
    rfl

/-- Where an option is given twice, no engine is left. -/
theorem leftBy_of_engineArguments {e : Error} (h : engineArguments config = .error e) :
    leftBy e = .none := by
  unfold engineArguments at h
  split at h <;> cases h
  rfl

/-- Where the options make no configuration, no engine is left. -/
theorem leftBy_of_configOf {read : List (String × Value) → Config.Checked Config} {url : Value}
    {options : List (String × Value)} {e : Error} (h : configOf read url options = .error e) :
    leftBy e = .none := by
  unfold configOf at h
  split at h
  · cases h
    rfl
  · cases hfields : read (("url", url) :: options) with
    | error issues =>
      rw [hfields] at h
      cases h
      rfl
    | ok c =>
      rw [hfields] at h
      cases h

/-- Where a style of markers is refused, it is not known. -/
theorem leftBy_of_markerOfStyle {style : String} {e : Error} (h : markerOfStyle style = .error e) :
    leftBy e = ⟨true, true⟩ := by
  unfold markerOfStyle at h
  split at h <;> cases h
  rfl

/-- What is open after an engine was opened, or was not. -/
def leaves (r : Except Error DialectEntry) : Resources :=
  match r with
  | .error e => leftBy e
  | .ok _ => ⟨true, true⟩

/-- Whether an engine was opened, or was not, over the given failures, so that its end tells what is
    left open. -/
def TellsOpen (fails : Action → Nat → Bool) (r : Except Error DialectEntry × Driver) : Prop :=
  r.2.style = .autobegin true ∧ r.2.fails = fails ∧ r.2.holds = leaves r.1

/-- Connecting to an engine that was created. -/
theorem connect_tellsOpen (backend : Backend) (dialect : DialectEntry) {d : Driver}
    (hstyle : d.style = .autobegin true) (hengine : d.holds = ⟨true, false⟩) :
    TellsOpen d.fails ((do
      Driver.emit .connect
      let marker ← settle (markerOfStyle backend.markerStyle)
      modify fun d => { d with marker := marker }
      return dialect : Operation Driver DialectEntry).outcome d) := by
  rcases Driver.emit_cases .connect d with ⟨-, hconnect, hopen⟩ | ⟨-, hconnect, hkept⟩
  · rw [outcome_bind_of_ok hconnect]
    rw [hengine] at hopen
    cases hmarker : markerOfStyle backend.markerStyle with
    | error e =>
      rw [outcome_bind_of_error (outcome_settle _ _)]
      exact ⟨hstyle, rfl, hopen.trans (leftBy_of_markerOfStyle hmarker).symm⟩
    | ok marker =>
      rw [outcome_bind_of_ok (outcome_settle _ _)]
      exact ⟨hstyle, rfl, hopen⟩
  · rw [outcome_bind_of_error hconnect]
    exact ⟨hstyle, rfl, hkept.trans hengine⟩

/-- **Opening an engine** leaves open what its end tells. -/
theorem openEngine_tellsOpen (backend : Backend) (config : Config) (fails : Action → Nat → Bool) :
    TellsOpen fails ((openEngine backend config).outcome (.fresh (.autobegin true) "" fails)) := by
  let d₀ : Driver := .fresh (.autobegin true) "" fails
  show TellsOpen fails ((openEngine backend config).outcome d₀)
  rw [openEngine]
  cases hdialect : dialectFor backend config with
  | error e =>
    rw [outcome_bind_of_error (outcome_settle _ _)]
    exact ⟨rfl, rfl, (leftBy_of_dialectFor hdialect).symm⟩
  | ok dialect =>
    rw [outcome_bind_of_ok (outcome_settle _ _)]
    cases harguments : engineArguments config with
    | error e =>
      rw [outcome_bind_of_error (outcome_settle _ _)]
      exact ⟨rfl, rfl, (leftBy_of_engineArguments harguments).symm⟩
    | ok arguments =>
      rw [outcome_bind_of_ok (outcome_settle _ _)]
      rcases Driver.emit_cases (.createEngine config.url arguments) d₀ with
        ⟨-, hcreate, hengine⟩ | ⟨-, hcreate, hnothing⟩
      · rw [outcome_bind_of_ok hcreate]
        exact connect_tellsOpen backend dialect rfl hengine
      · rw [outcome_bind_of_error hcreate]
        exact ⟨rfl, rfl, hnothing⟩

/-- **Connecting** leaves open what its error tells when it fails.  Otherwise both are open, and the
    connection owns the engine. -/
theorem run_leaves (read : List (String × Value) → Config.Checked Config) (backend : Backend)
    (url : Value) (options : List (String × Value)) (fails : Action → Nat → Bool) :
    let r := run read backend url options fails
    (∃ e, r.1 = .error e ∧ openAfter fails r.2 = leftBy e) ∨
      ∃ c, r.1 = .ok c ∧ c.driver.style = .autobegin true ∧ c.driver.fails = fails ∧
        c.events = r.2 ∧ c.driver.holds = ⟨true, true⟩ := by
  intro r
  have hr : r = run read backend url options fails := rfl
  rw [run] at hr
  cases hconfig : configOf read url options with
  | error e =>
    rw [hconfig] at hr
    refine .inl ⟨e, by rw [hr], ?_⟩
    rw [hr]
    exact (leftBy_of_configOf hconfig).symm
  | ok config =>
    rw [hconfig] at hr
    obtain ⟨hstyle, hfails, hholds⟩ := openEngine_tellsOpen backend config fails
    dsimp only at hr
    rcases hopened : (openEngine backend config).outcome (.fresh (.autobegin true) "" fails) with
      ⟨e | dialect, d⟩
    · rw [hopened] at hr hfails hholds
      refine .inl ⟨e, by rw [hr]; rfl, ?_⟩
      rw [hr, ← hfails]
      exact hholds
    · rw [hopened] at hr hstyle hfails hholds
      exact .inr ⟨.fresh d dialect config.strict, by rw [hr]; rfl, hstyle, hfails, by rw [hr]; rfl,
        hholds⟩

end Connect

/-! ## Closing -/

namespace Driver

/-- **Closing** a driver that owns its engine. -/
theorem close_cases {d : Driver} (h : d.style = .autobegin true) :
    let d' := d.received .close
    returns d.fails d.events .close = false ∧
        close.outcome d = (.error (.driver .close), d') ∧ d'.holds = d.holds ∨
      returns d.fails d.events .close = true ∧
        (returns d.fails d'.events .dispose = false ∧
            close.outcome d = (.error (.driver .dispose), d'.received .dispose) ∧
            (d'.received .dispose).holds = { d.holds with connection := false } ∨
          returns d.fails d'.events .dispose = true ∧
            close.outcome d = (.ok (), d'.received .dispose) ∧
            (d'.received .dispose).holds = .none) := by
  intro d'
  rw [close, outcome_bind_of_ok (outcome_get d)]
  rcases emit_cases .close d with ⟨hreturns, hclose, hholds⟩ | ⟨hfails, hclose, hholds⟩
  · refine .inr ⟨hreturns, ?_⟩
    rw [outcome_bind_of_ok hclose, if_pos h]
    rcases emit_cases .dispose d' with ⟨hreturns', hdispose, hholds'⟩ | ⟨hfails', hdispose, hholds'⟩
    · exact .inr ⟨hreturns', hdispose, by rw [hholds', hholds]; rfl⟩
    · exact .inl ⟨hfails', hdispose, by rw [hholds', hholds]; rfl⟩
  · exact .inl ⟨hfails, by rw [outcome_bind_of_error hclose]; rfl, hholds⟩

end Driver

/-! ## Runs -/

/-- `Disposes fails before es`: in the calls `es` that follow `before`, the engine is disposed of
    right after every call to close that returns, and at no other time. -/
inductive Disposes (fails : Action → Nat → Bool) : List Event → List Event → Prop
  | nil {before : List Event} : Disposes fails before []
  | other {before : List Event} {e : Event} {es : List Event}
      (h : e.action ≠ .close ∧ e.action ≠ .dispose) (rest : Disposes fails (before ++ [e]) es) :
      Disposes fails before (e :: es)
  | failed {before : List Event} {es : List Event} (h : returns fails before .close = false)
      (rest : Disposes fails (before ++ [.close]) es) : Disposes fails before (.close :: es)
  | closed {before : List Event} {es : List Event} (h : returns fails before .close = true)
      (rest : Disposes fails (before ++ [.close, .dispose]) es) :
      Disposes fails before (.close :: .dispose :: es)

theorem Disposes.append {fails : Action → Nat → Bool} {before es es' : List Event}
    (h : Disposes fails before es) (h' : Disposes fails (before ++ es) es') :
    Disposes fails before (es ++ es') := by
  induction h with
  | nil => simpa using h'
  | other hother _ ih => exact .other hother (ih (by simpa using h'))
  | failed hfailed _ ih => exact .failed hfailed (ih (by simpa using h'))
  | closed hclosed _ ih => exact .closed hclosed (ih (by simpa using h'))

namespace Driver

/-- Whether a driver that owns its engine has become another by calls that follow the rule. -/
def Disposal (d d' : Driver) : Prop :=
  d.style = .autobegin true → d'.style = .autobegin true ∧ d'.fails = d.fails ∧
    ∃ es, d'.events = d.events ++ es ∧ Disposes d.fails d.events es

instance : IsPreorder Driver Disposal where
  refl d h := ⟨h, rfl, [], (List.append_nil _).symm, .nil⟩
  trans := by
    intro d d' d'' h h' hd
    obtain ⟨hstyle, hfails, es, hes, hdisposes⟩ := h hd
    obtain ⟨hstyle', hfails', es', hes', hdisposes'⟩ := h' hstyle
    rw [hfails, hes] at hdisposes'
    exact ⟨hstyle', hfails'.trans hfails, es ++ es', by rw [hes', hes, List.append_assoc],
      hdisposes.append hdisposes'⟩

theorem disposal_emit {e : Event} (h : e.action ≠ .close ∧ e.action ≠ .dispose) :
    Keeps Disposal (emit e) := by
  intro d hd
  rw [outcome_emit]
  exact ⟨hd, rfl, [e], rfl, .other h .nil⟩

/-- What makes no call is of no account. -/
theorem disposal_modify {f : Driver → Driver}
    (h : ∀ d, (f d).style = d.style ∧ (f d).fails = d.fails ∧ (f d).events = d.events) :
    Keeps Disposal (modify f : Operation Driver Unit) :=
  .modify fun d hd => ⟨(h d).1.trans hd, (h d).2.1, [],
    by rw [(h d).2.2, List.append_nil], .nil⟩

theorem disposal_setStatements (f : List DriverStatement → List DriverStatement) :
    Keeps Disposal
      (modify fun d => { d with statements := f d.statements } : Operation Driver Unit) :=
  disposal_modify fun _ => ⟨rfl, rfl, rfl⟩

theorem disposal_setBusy (flag : Bool) :
    Keeps Disposal (modify fun d => { d with busy := flag } : Operation Driver Unit) :=
  disposal_modify fun _ => ⟨rfl, rfl, rfl⟩

theorem disposal_takeHandle : Keeps Disposal takeHandle :=
  fun d hd => ⟨hd, rfl, [], (List.append_nil d.events).symm, .nil⟩

/-- An action that neither closes nor disposes. -/
theorem other_of_execute {e : Event} (h : e.action = .execute) :
    e.action ≠ .close ∧ e.action ≠ .dispose := by
  rw [h]
  exact ⟨nofun, nofun⟩

theorem disposal_prepare (sql : String) : Keeps Disposal (prepare sql) :=
  keeps_prepare (disposal_emit ⟨nofun, nofun⟩) disposal_setStatements

theorem disposal_bindValue (n : Nat) (position : Int) (v : Value) (type : BindType) :
    Keeps Disposal (bindValue n position v type) :=
  keeps_bindValue (disposal_emit ⟨nofun, nofun⟩) disposal_setStatements

theorem disposal_execute (n : Nat) : Keeps Disposal (execute n) :=
  keeps_execute (fun _ h => disposal_emit (other_of_execute h)) (disposal_emit ⟨nofun, nofun⟩)
    disposal_takeHandle disposal_setBusy

theorem disposal_begin : Keeps Disposal begin :=
  keeps_begin (disposal_emit ⟨nofun, nofun⟩) disposal_setBusy

theorem disposal_finish {e : Event} (h : e.action ≠ .close ∧ e.action ≠ .dispose) :
    Keeps Disposal (finish e) := keeps_finish (disposal_emit h) disposal_setBusy

/-- **Closing** follows the rule. -/
theorem disposal_close : Keeps Disposal close := by
  intro d hd
  rcases close_cases hd with ⟨hfails, hclose, -⟩ | ⟨hreturns, ⟨-, hclose, -⟩ | ⟨-, hclose, -⟩⟩
  · rw [hclose]
    exact ⟨hd, rfl, [.close], rfl, .failed hfails .nil⟩
  all_goals
    rw [hclose]
    exact ⟨hd, rfl, [.close, .dispose], by simp, .closed hreturns .nil⟩

end Driver

namespace Connection

/-- Whether a connection has become another by calls that follow the rule. -/
def Disposal (c c' : Connection) : Prop := c.driver.Disposal c'.driver

instance : IsPreorder Connection Disposal where
  refl c := refl_of Driver.Disposal c.driver
  trans _ _ _ h h' := trans_of Driver.Disposal h h'

theorem lifts_disposal : Lifts Driver.Disposal Disposal := fun _ _ _ _ hd => hd

/-- **Every operation of a connection** follows the rule. -/
theorem disposal_operations : Session.KeptOnConnection Disposal where
  prepare sql := keeps_prepare lifts_disposal.carries Driver.disposal_prepare sql
  parameters st supplied := keeps_parameters lifts_disposal.carries st supplied
  execute st supplied :=
    keeps_execute lifts_disposal.carries Driver.disposal_bindValue Driver.disposal_execute st
      supplied
  begin := keeps_begin lifts_disposal Driver.disposal_begin
  commit := keeps_endWith lifts_disposal (Driver.disposal_finish ⟨nofun, nofun⟩)
  rollback := keeps_endWith lifts_disposal (Driver.disposal_finish ⟨nofun, nofun⟩)
  close := keeps_onDriver lifts_disposal.carries Driver.disposal_close

/-- **Closing** a connection that owns its engine. -/
theorem close_cases {c : Connection} (h : c.driver.style = .autobegin true) :
    let r := close.outcome c
    returns c.driver.fails c.events .close = false ∧ r.1 = .error (.driver .close) ∧
        r.2.events = c.events ++ [.close] ∧ r.2.driver.holds = c.driver.holds ∨
      returns c.driver.fails c.events .close = true ∧ r.2.events = c.events ++ [.close, .dispose] ∧
        (r.1 = .error (.driver .dispose) ∧
            r.2.driver.holds = { c.driver.holds with connection := false } ∨
          r.1 = .ok () ∧ r.2.driver.holds = .none) := by
  intro r
  have hr : r = ((Driver.close.outcome c.driver).1,
      { c with driver := (Driver.close.outcome c.driver).2 }) := by
    show (onDriver Driver.close).outcome c = _
    rw [onDriver, outcome_within]
  rcases Driver.close_cases h with ⟨hclose, houtcome, hholds⟩ | ⟨hclose, hdisposed⟩
  · rw [houtcome] at hr
    exact .inl ⟨hclose, by rw [hr], by rw [hr]; rfl, by rw [hr]; exact hholds⟩
  · refine .inr ⟨hclose, ?_⟩
    rcases hdisposed with ⟨-, houtcome, hholds⟩ | ⟨-, houtcome, hholds⟩
    all_goals
      rw [houtcome] at hr
      refine ⟨by rw [hr]; exact List.append_assoc c.events [.close] [.dispose], ?_⟩
    · exact .inl ⟨by rw [hr], by rw [hr]; exact hholds⟩
    · exact .inr ⟨by rw [hr], by rw [hr]; exact hholds⟩

end Connection

/-! ## The statement -/

namespace Session

/-- **What is left open.**  When connecting fails, its error tells what it leaves: an engine without
    a connection if the engine did not connect, both if the style of markers is not known, and
    nothing otherwise.  When it succeeds, both are open and the connection owns the engine.  What is
    taken for a configuration makes no difference.

    At any moment of any run over a driver that owns its engine, the engine was disposed of right
    after every call to close that returned, and at no other time.  So closing at that moment
    disposes of the engine unless closing the connection fails, which leaves open what was. -/
theorem resources_left_open (read : List (String × Value) → Config.Checked Config)
    (backend : Backend) (url : Value) (options : List (String × Value))
    (fails : Action → Nat → Bool) {first : Session}
    (hstyle : first.connection.driver.style = .autobegin true) (ms : List Move) :
    (let r := Connect.run read backend url options fails
     (∃ e, r.1 = .error e ∧ openAfter fails r.2 = Connect.leftBy e) ∨
       ∃ c, r.1 = .ok c ∧ c.driver.style = .autobegin true ∧ c.driver.fails = fails ∧
         c.events = r.2 ∧ c.driver.holds = ⟨true, true⟩) ∧
    let d := first.connection.driver
    let c := (first.along ms).connection
    let r := Connection.close.outcome c
    (∃ es, c.events = d.events ++ es ∧ Disposes d.fails d.events es) ∧
      (returns d.fails c.events .close = false ∧ r.1 = .error (.driver .close) ∧
          r.2.events = c.events ++ [.close] ∧ r.2.driver.holds = c.driver.holds ∨
        returns d.fails c.events .close = true ∧ r.2.events = c.events ++ [.close, .dispose] ∧
          (r.1 = .error (.driver .dispose) ∧
              r.2.driver.holds = { c.driver.holds with connection := false } ∨
            r.1 = .ok () ∧ r.2.driver.holds = .none)) ∧
      ∀ steps, first.along (movesOfAll first steps) = (runAll first steps).2 := by
  refine ⟨Connect.run_leaves read backend url options fails, ?_⟩
  intro d c r
  obtain ⟨hc, hfails, es, hes, hdisposes⟩ :=
    Connection.disposal_operations.along first ms hstyle
  have hclosing := Connection.close_cases hc
  rw [hfails] at hclosing
  exact ⟨⟨es, hes, hdisposes⟩, hclosing, along_movesOfAll first⟩

/-- Closing fails the first time; the second time it returns, and the engine goes with the
    connection. -/
theorem closing_again_leaves_nothing :
    let fails : Action → Nat → Bool := fun a n => a == .close && n == 1
    let d : Driver := ⟨.autobegin true, "?", [], 0, false,
      [.createEngine "sqlite://" [], .connect], fails⟩
    let first : Session := .start (.fresh d Sql.Dialect.ansi.entry false)
    let c := (first.along [.command .close]).connection
    first.connection.driver.style = .autobegin true ∧ c.driver.holds = ⟨true, true⟩ ∧
      (Connection.close.outcome c).2.driver.holds = .none := by
  intro fails d first c
  have hstyle : first.connection.driver.style = .autobegin true := rfl
  refine ⟨hstyle, rfl, ?_⟩
  obtain ⟨-, -, hclosing, -⟩ :=
    resources_left_open Config.ofFields ⟨true, "qmark"⟩ (.text "sqlite://") [] fails hstyle
      [.command .close]
  rcases hclosing with ⟨hfails, -⟩ | ⟨-, -, ⟨hdispose, -⟩ | ⟨-, hholds⟩⟩
  · cases hfails
  · cases hdispose
  · exact hholds

/-- With a style of markers that is not known, connecting fails and closes nothing. -/
theorem unknown_style_leaves_open :
    let fails : Action → Nat → Bool := fun _ _ => false
    let r := Connect.run Config.ofFields ⟨true, "named"⟩ (.text "sqlite://") [] fails
    r.1.toOption.isNone ∧ openAfter fails r.2 = ⟨true, true⟩ := by
  intro fails r
  exact ⟨rfl, rfl⟩

end Session

end TaggedSql
