/-
  Executing a statement.

  1. **Runs** — values are bound in order up to the first that the driver refuses; the statement is
     executed once, and only when all of them are bound (`runs_run`).

  2. **Direct drivers** — a driver that is told of every call receives the bindings in order, and
     after them the execution (`Runs.received`).

  3. **All or nothing** (`execute_all_or_nothing`) — the first name that fails decides the error,
     and the driver is left alone; when all names fit, every position gets the value of its name.
-/
import TaggedSql.Connection
import TaggedSql.Proofs.Driver
import TaggedSql.Proofs.Statement.Resolution

namespace TaggedSql.Statement

open TaggedSql.Placeholder TaggedSql.Sql Operation

/-! ## Runs -/

/-- Binding a value of a statement. -/
def bindOne (number : Nat) (b : BoundValue) : Operation Driver Unit :=
  Driver.bindValue number b.position b.value b.type

/-- `Binds number bs d d'`: the driver takes the values one after the other. -/
inductive Binds (number : Nat) : List BoundValue → Driver → Driver → Prop
  | nil (d : Driver) : Binds number [] d d
  | cons {b : BoundValue} {bs : List BoundValue} {d d' d'' : Driver}
      (h : (bindOne number b).outcome d = (.ok (), d')) (rest : Binds number bs d' d'') :
      Binds number (b :: bs) d d''

/-- `Runs number bs d r`: all values are bound and the statement is executed, or a value is refused
    and its error is the result. -/
inductive Runs (number : Nat) : List BoundValue → Driver → Except Error ResultHandle × Driver → Prop
  | executed {bs : List BoundValue} {d d' : Driver} (hall : Binds number bs d d') :
      Runs number bs d ((Driver.execute number).outcome d')
  | stopped {front back : List BoundValue} {b : BoundValue} {d d' d'' : Driver} {e : Error}
      (hfront : Binds number front d d') (hb : (bindOne number b).outcome d' = (.error e, d'')) :
      Runs number (front ++ b :: back) d (.error e, d'')

theorem Runs.cons {number : Nat} {b : BoundValue} {bs : List BoundValue} {d d' : Driver}
    {r : Except Error ResultHandle × Driver} (h : (bindOne number b).outcome d = (.ok (), d'))
    (hrest : Runs number bs d' r) : Runs number (b :: bs) d r := by
  cases hrest with
  | executed hall => exact .executed (.cons h hall)
  | stopped hfront hb => exact .stopped (.cons h hfront) hb

/-- **Binding and executing** goes on as long as the driver takes the values. -/
theorem runs_run (number : Nat) (bs : List BoundValue) (d : Driver) :
    Runs number bs d ((run number bs).outcome d) := by
  induction bs generalizing d with
  | nil => exact .executed (.nil d)
  | cons b bs ih =>
    have hsplit : run number (b :: bs) = bindOne number b >>= fun _ => run number bs := by
      simp only [run, bindAll, bindOne, bind_assoc]
    rw [hsplit]
    rcases h : (bindOne number b).outcome d with ⟨_ | _, d'⟩
    · rw [outcome_bind_of_error h]
      exact .stopped (.nil d) h
    · rw [outcome_bind_of_ok h]
      exact (ih d').cons h

/-! ## Direct drivers -/

/-- What a driver that is told of every call receives for a value. -/
def bindEvent (number : Nat) (b : BoundValue) : Event := .bind number b.position b.value b.type

theorem outcome_bindOne_direct {d : Driver} (h : d.style = .direct) (number : Nat)
    (b : BoundValue) :
    (bindOne number b).outcome d =
      (d.answer (bindEvent number b), d.received (bindEvent number b)) :=
  Driver.outcome_bindValue_direct h number b.position b.value b.type

theorem Binds.events {number : Nat} {bs : List BoundValue} {d d' : Driver}
    (h : Binds number bs d d') (hd : d.style = .direct) :
    d'.style = .direct ∧ d'.fails = d.fails ∧
      d'.events = d.events ++ bs.map (bindEvent number) := by
  induction h with
  | nil d => exact ⟨hd, rfl, by simp⟩
  | cons hb rest ih =>
    rw [outcome_bindOne_direct hd] at hb
    obtain ⟨-, rfl⟩ := Prod.mk.inj hb
    obtain ⟨hstyle, hfails, hevents⟩ := ih hd
    exact ⟨hstyle, hfails, by rw [hevents]; simp⟩

/-- What a direct driver has received when a run ends as it does: the bindings in order and then the
    execution, or the bindings up to one that the driver fails. -/
inductive Received (number : Nat) (bs : List BoundValue) (d : Driver) :
    Except Error ResultHandle × Driver → Prop
  | executed {answer : Except Error ResultHandle} {d' : Driver}
      (h : d'.events = d.events ++ bs.map (bindEvent number) ++ [.execute number]) :
      Received number bs d (answer, d')
  | stopped {front back : List BoundValue} {b : BoundValue} {n : Nat} {d' : Driver}
      (hbs : bs = front ++ b :: back) (hfails : d.fails .bind n)
      (h : d'.events = d.events ++ (front ++ [b]).map (bindEvent number)) :
      Received number bs d (.error (.driver .bind), d')

/-- **What a direct driver receives** in a run. -/
theorem Runs.received {number : Nat} {bs : List BoundValue} {d : Driver}
    {r : Except Error ResultHandle × Driver} (h : Runs number bs d r) (hd : d.style = .direct) :
    Received number bs d r := by
  cases h with
  | executed hall =>
    obtain ⟨hstyle, -, hevents⟩ := hall.events hd
    rw [Driver.outcome_execute_direct hstyle]
    exact .executed (by rw [Driver.received_events, hevents])
  | @stopped front back b _ d' _ e hfront hb =>
    obtain ⟨hstyle, hsame, hevents⟩ := hfront.events hd
    rw [outcome_bindOne_direct hstyle] at hb
    obtain ⟨he, rfl⟩ := Prod.mk.inj hb
    rw [Driver.answer, hsame] at he
    split at he
    · next hfails =>
      cases he
      exact .stopped rfl hfails (by simp [hevents])
    · cases he

/-! ## All or nothing -/

/-- The parameters of a statement are resolved without the driver. -/
theorem outcome_parameters (s : Statement) (supplied : List (String × Value)) (c : Connection) :
    (Connection.parameters s supplied).outcome c =
      ((resolve c.dialect.dialect s.compiled supplied c.drained).1,
        { c with drained := (resolve c.dialect.dialect s.compiled supplied c.drained).2 }) :=
  outcome_ofOutcome _ c

/-- A name that fails ends the execution. -/
theorem outcome_execute_of_error {s : Statement} {supplied : List (String × Value)} {c : Connection}
    {e : Error} (h : (resolve c.dialect.dialect s.compiled supplied c.drained).1 = .error e) :
    (Connection.execute s supplied).outcome c =
      (.error e,
        { c with drained := (resolve c.dialect.dialect s.compiled supplied c.drained).2 }) :=
  outcome_bind_of_error (by rw [outcome_parameters, h]) _

/-- Values for all positions are handed to the driver. -/
theorem outcome_execute_of_ok {s : Statement} {supplied : List (String × Value)} {c : Connection}
    {bs : List BoundValue}
    (h : (resolve c.dialect.dialect s.compiled supplied c.drained).1 = .ok bs) :
    (Connection.execute s supplied).outcome c =
      (((run s.number bs).outcome c.driver).1,
        { c with
          driver := ((run s.number bs).outcome c.driver).2
          drained := (resolve c.dialect.dialect s.compiled supplied c.drained).2 }) := by
  rw [Connection.execute, outcome_bind_of_ok (by rw [outcome_parameters, h])]
  exact outcome_within _ _ _ _

/-- **All or nothing.**  The first name that fails decides the error, and the driver is left alone;
    when all names fit, position by position the coerced values are bound, each distinct name being
    coerced once, and the statement is executed.  What else the mapping holds makes no
    difference. -/
theorem execute_all_or_nothing {o : CompileOptions} {sql : String} {s : Statement}
    (hs : (compile o sql).outcome = .ok s.compiled) (supplied : List (String × Value))
    (c : Connection) :
    let r := (Connection.execute s supplied).outcome c
    let fits := Fits c.dialect.dialect s.compiled.types supplied
    ((∃ front name back e, s.compiled.names = front ++ name :: back ∧ (∀ n ∈ front, fits n) ∧
          Fails c.dialect.dialect s.compiled.types supplied (front.length + 1) name e ∧
          r.1 = .error e ∧ r.2.driver = c.driver) ∨
        ((∀ n ∈ s.compiled.names, fits n) ∧
          ∃ valueOf typeOf, (∀ n ∈ s.compiled.names, s.compiled.types.lookup n = some (typeOf n)) ∧
            Coerced c.dialect.dialect s.compiled.types supplied valueOf c.drained
              s.compiled.names.eraseDups r.2.drained ∧
            let bound := valuesAt valueOf typeOf 1 s.compiled.names
            Runs s.number bound c.driver (r.1, r.2.driver) ∧
              (c.driver.style = .direct →
                Received s.number bound c.driver (r.1, r.2.driver)))) ∧
      ∀ supplied', (∀ n ∈ s.compiled.names, supplied'.lookup n = supplied.lookup n) →
        (Connection.execute s supplied').outcome c = r := by
  intro r fits
  refine ⟨?_, fun supplied' hsame => ?_⟩
  · rcases resolve_cases (fun _ hn => exists_type_of_compile hs hn) c.dialect.dialect supplied
      c.drained with
      ⟨front, name, back, e, hnames, hfront, hfails, he⟩ | ⟨hall, valueOf, hcoerced, hok⟩
    · have hr : r = _ := outcome_execute_of_error he
      exact .inl ⟨front, name, back, e, hnames, hfront, hfails, by rw [hr], by rw [hr]⟩
    · have hr : r = _ := outcome_execute_of_ok hok
      have hruns : Runs s.number (valuesAt valueOf (typeIn s.compiled.types) 1 s.compiled.names)
          c.driver (r.1, r.2.driver) := by
        rw [hr]
        exact runs_run s.number _ c.driver
      refine .inr ⟨hall, valueOf, typeIn s.compiled.types, fun n hn => ?_, ?_, hruns,
        hruns.received⟩
      · obtain ⟨type, htype⟩ := exists_type_of_compile hs hn
        rw [typeIn, htype, Option.getD_some]
      · rw [hr]
        exact hcoerced
  · have hparameters : Connection.parameters s supplied' = Connection.parameters s supplied := by
      unfold Connection.parameters
      simp only [resolve_congr hsame]
    show (Connection.execute s supplied').outcome c = (Connection.execute s supplied).outcome c
    rw [Connection.execute, Connection.execute, hparameters]

/-- Three positions with two names.  Without a value for the second name nothing is bound, and a
    value under another name does not matter; with one, the driver is told of three bindings and
    of the execution. -/
theorem execute_with_and_without_second_value :
    let s : Statement := ⟨0, Placeholder.compiled "?" (lex ⟨false, false⟩ "f(:a, i:b, :a)".toList)⟩
    let c : Connection := .fresh (.fresh .direct "?" fun _ _ => false) Dialect.ansi.entry false
    let without := (Connection.execute s [("a", .int 1), ("c", .null)]).outcome c
    (compile ⟨"?", false, ⟨false, false⟩⟩ "f(:a, i:b, :a)").outcome = .ok s.compiled ∧
      ((∃ e, without.1 = .error e) ∧ without.2.driver = c.driver ∧
        (Connection.execute s [("a", .int 1)]).outcome c = without) ∧
      ((Connection.execute s [("a", .int 1), ("b", .text "7")]).outcome c).2.driver.events =
        [.bind 0 1 (.text "1") .text, .bind 0 2 (.int 7) .int, .bind 0 3 (.text "1") .text,
          .execute 0] := by
  intro s c without
  have hs : (compile ⟨"?", false, ⟨false, false⟩⟩ "f(:a, i:b, :a)").outcome = .ok s.compiled :=
    compile_lenient rfl _
  have hnames : s.compiled.names = ["a", "b", "a"] := by decide +kernel
  have htypes : s.compiled.types = [("a", .text), ("b", .int)] := by decide +kernel
  refine ⟨hs, ?_, ?_⟩
  · obtain ⟨hcases, hother⟩ := execute_all_or_nothing hs [("a", .int 1), ("c", .null)] c
    have hsame := hother [("a", .int 1)] (by rw [hnames]; simp [List.lookup_cons])
    rcases hcases with ⟨front, name, back, e, -, -, -, he, hdriver⟩ | ⟨hall, -⟩
    · exact ⟨⟨e, he⟩, hdriver, hsame⟩
    · obtain ⟨_, _, _, hmissing, _⟩ := hall "b" (by rw [hnames]; simp)
      cases hmissing
  · obtain ⟨hcases, -⟩ := execute_all_or_nothing hs [("a", .int 1), ("b", .text "7")] c
    rw [hnames, htypes] at hcases
    rcases hcases with ⟨front, name, back, e, hsplit, -, hfails, -⟩ |
      ⟨-, valueOf, typeOf, htypeOf, hcoerced, -, hreceived⟩
    · -- neither name fails
      have hname : name ∈ ["a", "b", "a"] := by
        rw [hsplit]
        exact List.mem_append_right front List.mem_cons_self
      have hfits : Fits c.dialect.dialect [("a", .text), ("b", .int)]
          [("a", .int 1), ("b", .text "7")] name := by
        obtain rfl | rfl : name = "a" ∨ name = "b" := by simpa [or_comm] using hname
        · exact ⟨.text, .int 1, rfl, rfl, fun _ => ⟨.text "1", rfl⟩⟩
        · exact ⟨.int, .text "7", rfl, rfl, fun _ => ⟨.int 7, rfl⟩⟩
      exact absurd hfails hfits.not_fails
    · -- what each name is bound as follows from its coercion
      have hdistinct : ["a", "b", "a"].eraseDups = ["a", "b"] := rfl
      rw [hdistinct] at hcoerced
      obtain _ | ⟨hta, hva, hwa, _ | ⟨htb, hvb, hwb, -⟩⟩ := hcoerced
      cases hta
      cases hva
      cases htb
      cases hvb
      have ha : valueOf "a" = .text "1" := (Except.ok.inj hwa).symm
      have hb : valueOf "b" = .int 7 := (Except.ok.inj hwb).symm
      have htypeA : typeOf "a" = .text := (Option.some.inj (htypeOf "a" (by simp))).symm
      have htypeB : typeOf "b" = .int := (Option.some.inj (htypeOf "b" (by simp))).symm
      generalize (Connection.execute s [("a", .int 1), ("b", .text "7")]).outcome c = r
        at hreceived ⊢
      obtain ⟨answer, c'⟩ := r
      have hnone : c.driver.events = [] := rfl
      have hnumber : s.number = 0 := rfl
      cases hreceived rfl with
      | executed h =>
        rw [hnone, hnumber] at h
        simpa [valuesAt, ha, hb, htypeA, htypeB, bindEvent] using h
      | stopped hbs hfails => cases hfails

end TaggedSql.Statement
