/-
  What an execution sends over a driver without statements of its own.

  1. **Ready statements** — the driver's side holds the text that the statement was compiled to, and
     values at positions of the statement only.  A statement is ready when it has been prepared
     (`ready_prepared`), and executing it keeps it ready (`run_ready`).

  2. **Executions** (`execute_ready`, `query_sends`) — what is sent is the compiled text with the
     coerced values of the very call; only a call that fails may send nothing.  Other statements are
     left alone.
-/
import TaggedSql.Proofs.Session.Continuation
import TaggedSql.Proofs.Statement.Execution
import TaggedSql.Proofs.Statement.Slots

namespace TaggedSql

open Placeholder Sql Operation

namespace Statement

/-! ## Ready statements -/

/-- Whether a driver holds the text of a statement, and values at its positions only. -/
structure Ready (st : Statement) (d : Driver) : Prop where
  typed : ∀ name ∈ st.compiled.names, ∃ type, st.compiled.types.lookup name = some type
  held : ∃ held, d.statements[st.number]? = some held ∧ held.sql = st.compiled.sql ∧
    held.slots.IsWithin 1 st.compiled.names.length

variable {st : Statement} {d : Driver}

theorem Ready.number_lt (h : st.Ready d) : st.number < d.statements.length := by
  obtain ⟨held, hheld, -⟩ := h.held
  exact (List.getElem?_eq_some_iff.mp hheld).1

/-- Only what is held under its own number matters to a statement. -/
theorem Ready.congr {d' : Driver} (h : st.Ready d)
    (hsame : d'.statements[st.number]? = d.statements[st.number]?) : st.Ready d' :=
  ⟨h.typed, by rw [hsame]; exact h.held⟩

/-- **Executing a ready statement** sends its text with the values that were bound, unless it fails;
    the statement stays ready, and no other is touched. -/
theorem run_ready (hd : d.style ≠ .direct) (h : st.Ready d) {bs : List BoundValue}
    (hbs : bs.map BoundValue.position = List.range' 1 st.compiled.names.length) :
    let r := (run st.number bs).outcome d
    st.Ready r.2 ∧ (∀ k, k ≠ st.number → r.2.statements[k]? = d.statements[k]?) ∧
      ∃ es, r.2.events = d.events ++ es ∧
        ((sent es = [] ∧ ∃ e, r.1 = .error e) ∨
          sent es = [(st.compiled.sql, bs.map BoundValue.value)]) := by
  obtain ⟨held, hheld, hsql, hslots⟩ := h.held
  have hlength : st.compiled.names.length = bs.length := by
    simpa using (congrArg List.length hbs).symm
  rw [hlength] at hbs hslots
  have hput : held.slots.putAll bs = Slots.ofBound bs := Slots.putAll_of_isWithin hbs hslots
  -- the driver once all values are bound
  let bound : Driver := { d with
    statements := d.statements.modify st.number fun s => { s with slots := s.slots.putAll bs } }
  have hbound : bound.statements[st.number]? = some ⟨st.compiled.sql, Slots.ofBound bs⟩ := by
    show (d.statements.modify st.number _)[st.number]? = _
    rw [List.getElem?_modify_eq, hheld, ← hsql, ← hput]
    rfl
  have hstatement : bound.statement st.number = ⟨st.compiled.sql, Slots.ofBound bs⟩ := by
    rw [Driver.statement, hbound, Option.getD_some]
  obtain ⟨hstatements, es, hes, hsent⟩ := sends_execute (d := bound) hd st.number
  rw [run, outcome_bind_of_ok (outcome_bindAll hd st.number bs)]
  refine ⟨⟨h.typed, ⟨st.compiled.sql, Slots.ofBound bs⟩, ?_, rfl, ?_⟩, fun k hk => ?_, es, hes, ?_⟩
  · rw [hstatements, hbound]
  · rw [hlength]
    exact Slots.isWithin_ofBound hbs
  · rw [hstatements]
    exact List.getElem?_modify_ne _ _ (Ne.symm hk)
  · rw [hstatement] at hsent
    have hvalues : (Slots.ofBound bs).values = bs.map BoundValue.value := by
      simp [Slots.values, Slots.ofBound, Function.comp_def]
    rwa [hvalues] at hsent

/-! ## Executions -/

/-- `SendsOwn d c supplied drained es r`: among the calls, text and values are handed over once, and
    they are the compiled text and the coerced values of its positions; unless the execution fails,
    when they may not be handed over at all. -/
def SendsOwn (d : Dialect) (c : Compiled) (supplied : List (String × Value)) (drained : List Nat)
    (es : List Event) (r : Except Error ResultHandle) : Prop :=
  (sent es = [] ∧ ∃ e, r = .error e) ∨ ∃ valueOf drained',
    Coerced d c.types supplied valueOf drained c.names.eraseDups drained' ∧
      sent es = [(c.sql, c.names.map valueOf)]

theorem positions_valuesAt (valueOf : String → Value) (typeOf : String → BindType) (first : Nat)
    (names : List String) :
    (valuesAt valueOf typeOf first names).map BoundValue.position =
      List.range' first names.length := by
  rw [valuesAt, List.map_map]
  exact List.zipIdx_map_snd first names

theorem values_valuesAt (valueOf : String → Value) (typeOf : String → BindType) (first : Nat)
    (names : List String) :
    (valuesAt valueOf typeOf first names).map BoundValue.value = names.map valueOf := by
  rw [valuesAt, List.map_map]
  refine Eq.trans ?_ (congrArg (List.map valueOf) (List.zipIdx_map_fst first names))
  rw [List.map_map]
  rfl

/-- **Executing a ready statement** on a connection. -/
theorem execute_ready {c : Connection} (hc : c.driver.style ≠ .direct) (h : st.Ready c.driver)
    (supplied : List (String × Value)) :
    let r := (Connection.execute st supplied).outcome c
    st.Ready r.2.driver ∧
      (∀ k, k ≠ st.number → r.2.driver.statements[k]? = c.driver.statements[k]?) ∧
      ∃ es, r.2.events = c.events ++ es ∧
        SendsOwn c.dialect.dialect st.compiled supplied c.drained es r.1 := by
  rcases resolve_cases h.typed c.dialect.dialect supplied c.drained with
    ⟨-, -, -, e, -, -, -, he⟩ | ⟨-, valueOf, hcoerced, hok⟩
  · rw [outcome_execute_of_error he]
    exact ⟨h, fun _ _ => rfl, [], (List.append_nil _).symm, .inl ⟨rfl, e, rfl⟩⟩
  · rw [outcome_execute_of_ok hok]
    obtain ⟨hready, hothers, es, hes, hsent⟩ := run_ready hc h
      (positions_valuesAt valueOf (typeIn st.compiled.types) 1 st.compiled.names)
    rw [values_valuesAt] at hsent
    exact ⟨hready, hothers, es, hes, hsent.imp_right fun hs => ⟨valueOf, _, hcoerced, hs⟩⟩

end Statement

/-! ## Texts -/

namespace Connection

/-- The connection when a compiled text has been prepared on its driver's side. -/
def prepared (c : Connection) (compiled : Compiled) : Connection :=
  { c with driver := { c.driver with
      statements := c.driver.statements ++ [⟨compiled.sql, []⟩] } }

/-- A text that does not compile is not prepared. -/
theorem outcome_prepare_of_error {c : Connection} {sql : String} {a : Ambiguity}
    (h : (compile c.compileOptions sql).outcome = .error a) :
    (prepare sql).outcome c = (.error (.ambiguous a), c) := by
  rw [prepare, outcome_bind_of_ok (outcome_get c)]
  simp only [h]
  rfl

/-- A text that compiles is prepared under the next number. -/
theorem outcome_prepare_of_ok {c : Connection} (hc : c.driver.style ≠ .direct) {sql : String}
    {compiled : Compiled} (h : (compile c.compileOptions sql).outcome = .ok compiled) :
    (prepare sql).outcome c =
      (.ok ⟨c.driver.statements.length, compiled⟩, c.prepared compiled) := by
  rw [prepare, outcome_bind_of_ok (outcome_get c)]
  simp only [h]
  rw [outcome_bind_pure, onDriver, outcome_within, Driver.outcome_prepare_of_ne hc]
  rfl

/-- What has been prepared is ready, and none of what was prepared before is touched. -/
theorem ready_prepared {c : Connection} {o : CompileOptions} {sql : String} {compiled : Compiled}
    (h : (compile o sql).outcome = .ok compiled) :
    (⟨c.driver.statements.length, compiled⟩ : Statement).Ready (c.prepared compiled).driver where
  typed := fun _ hname => Statement.exists_type_of_compile h hname
  held := ⟨⟨compiled.sql, []⟩, by simp [prepared], rfl, Slots.isWithin_nil _ _⟩

theorem getElem?_prepared (c : Connection) (compiled : Compiled) {k : Nat}
    (hk : k < c.driver.statements.length) :
    (c.prepared compiled).driver.statements[k]? = c.driver.statements[k]? :=
  List.getElem?_append_left hk

/-- **A query** sends what its text compiles to with the values of the very call, unless it
    fails. -/
theorem query_sends {c : Connection} (hc : c.driver.style ≠ .direct) (sql : String)
    (supplied : List (String × Value)) :
    let r := (query sql supplied).outcome c
    (∀ k, k < c.driver.statements.length →
        r.2.driver.statements[k]? = c.driver.statements[k]?) ∧
      ∃ es, r.2.events = c.events ++ es ∧
        ((sent es = [] ∧ ∃ e, r.1 = .error e) ∨
          ∃ compiled, (compile c.compileOptions sql).outcome = .ok compiled ∧
            Statement.SendsOwn c.dialect.dialect compiled supplied c.drained es r.1) := by
  cases h : (compile c.compileOptions sql).outcome with
  | error a =>
    rw [query, outcome_bind_of_error (outcome_prepare_of_error h)]
    exact ⟨fun _ _ => rfl, [], (List.append_nil _).symm, .inl ⟨rfl, _, rfl⟩⟩
  | ok compiled =>
    rw [query, outcome_bind_of_ok (outcome_prepare_of_ok hc h)]
    obtain ⟨-, hothers, es, hes, hsends⟩ :=
      Statement.execute_ready (c := c.prepared compiled) hc (ready_prepared h) supplied
    refine ⟨fun k hk => ?_, es, hes, .inr ⟨compiled, rfl, hsends⟩⟩
    rw [hothers k (Nat.ne_of_lt hk), getElem?_prepared c compiled hk]

end Connection

end TaggedSql
