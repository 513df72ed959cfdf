/-
  Statements that are used in turn do not see one another's values.

  1. **Ready sessions** — all statements that were prepared are ready, each under a number of its
     own.  No command changes this (`ready_effect`), so no run does (`ready_after`).

  2. **What is sent** (`sends_effect`) — by one command in a ready session: nothing, or the compiled
     text of what it asks for, with the coerced values of this very command.

  3. **Origins** (`exists_prepare`) — a statement is what its text compiled to when it was prepared,
     whatever came after.
-/
import Mathlib.Data.List.Nodup
import TaggedSql.Proofs.Session.Effects

namespace TaggedSql.Session

open Operation Placeholder

/-! ## Ready sessions -/

/-- Whether all statements of a session are ready, under numbers of their own, on a driver without
    statements of its own. -/
structure Ready (s : Session) : Prop where
  style : s.connection.driver.style ≠ .direct
  statements : ∀ st ∈ s.statements, st.Ready s.connection.driver
  distinct : (s.statements.map Statement.number).Nodup

/-- **What every command preserves.** -/
theorem ready_effect {s t : Session} {c : Command} {r : Except Error Reply} (hs : s.Ready)
    (h : Effect s c r t) (ht : t.connection.driver.style ≠ .direct) : t.Ready := by
  cases h with
  | quiet hr hc hstatements =>
    refine ⟨ht, fun st hst => ?_, by rw [hstatements]; exact hs.distinct⟩
    rw [hstatements] at hst
    exact (hs.statements st hst).congr (by rw [hc.statements])
  | prepared hr hcompiled =>
    refine ⟨ht, fun st hst => ?_, ?_⟩
    · rcases List.mem_append.mp hst with hst | hst
      · have hready := hs.statements st hst
        exact hready.congr (Connection.getElem?_prepared _ _ hready.number_lt)
      · obtain rfl := List.mem_singleton.mp hst
        exact Connection.ready_prepared hcompiled
    · rw [List.map_append, List.nodup_append]
      refine ⟨hs.distinct, List.nodup_singleton _, fun k hk k' hk' => ?_⟩
      obtain ⟨st, hst, rfl⟩ := List.mem_map.mp hk
      rw [List.mem_singleton.mp hk']
      exact Nat.ne_of_lt (hs.statements st hst).number_lt
  | @executed n st supplied hn =>
    have hmem := List.mem_of_getElem? hn
    obtain ⟨hready, hothers, -⟩ :=
      Statement.execute_ready hs.style (hs.statements st hmem) supplied
    refine ⟨ht, fun other hother => ?_, hs.distinct⟩
    -- numbers are distinct, so a statement under this number is the one that was executed
    by_cases hnumber : other.number = st.number
    · obtain rfl := List.inj_on_of_nodup_map hs.distinct hother hmem hnumber
      exact hready
    · exact (hs.statements other hother).congr (hothers _ hnumber)
  | queried bs hq =>
    obtain ⟨hothers, -⟩ := Connection.query_sends hs.style _ _
    refine ⟨ht, fun other hother => ?_, hs.distinct⟩
    have hready := hs.statements other hother
    exact hready.congr (hothers _ hready.number_lt)

/-! ## What is sent -/

/-- What a command, in a session, asks to be executed: a compiled statement and what is supplied for
    its names. -/
inductive Executes (s : Session) : Command → Compiled → List (String × Value) → Prop
  | statement {n : Nat} {st : Statement} (supplied : List (String × Value))
      (h : s.statements[n]? = some st) : Executes s (.execute n supplied) st.compiled supplied
  | text {c : Command} {sql : String} {supplied : List (String × Value)} {compiled : Compiled}
      (h : Queries s c sql supplied)
      (hc : (compile s.connection.compileOptions sql).outcome = .ok compiled) :
      Executes s c compiled supplied

/-- **What one command sends** is its own; a command that yields no result of an execution may send
    nothing. -/
theorem sends_effect {s t : Session} {c : Command} {r : Except Error Reply} (hs : s.Ready)
    (h : Effect s c r t) :
    ∃ es, t.connection.events = s.connection.events ++ es ∧
      ((sent es = [] ∧ ∀ h, r ≠ .ok (.executed h)) ∨
        ∃ compiled supplied valueOf drained, Executes s c compiled supplied ∧
          Statement.Coerced s.connection.dialect.dialect compiled.types supplied valueOf
            s.connection.drained compiled.names.eraseDups drained ∧
          sent es = [(compiled.sql, compiled.names.map valueOf)]) := by
  cases h with
  | quiet hr hc hstatements =>
    obtain ⟨es, hes, hsent⟩ := hc.events
    exact ⟨es, hes, .inl ⟨hsent, hr⟩⟩
  | prepared hr hcompiled => exact ⟨[], (List.append_nil _).symm, .inl ⟨rfl, hr⟩⟩
  | @executed n st supplied hn =>
    obtain ⟨-, -, es, hes, hsends⟩ :=
      Statement.execute_ready hs.style (hs.statements st (List.mem_of_getElem? hn)) supplied
    refine ⟨es, hes, ?_⟩
    rcases hsends with ⟨hsent, e, he⟩ | ⟨valueOf, drained, hcoerced, hsent⟩
    · exact .inl ⟨hsent, by rw [he]; exact nofun⟩
    · exact .inr ⟨_, _, valueOf, drained, .statement supplied hn, hcoerced, hsent⟩
  | queried bs hq =>
    obtain ⟨-, es, hes, hsends⟩ := Connection.query_sends hs.style _ _
    refine ⟨es, hes, ?_⟩
    rcases hsends with ⟨hsent, e, he⟩ |
      ⟨compiled, hcompiled, ⟨hsent, e, he⟩ | ⟨valueOf, drained, hcoerced, hsent⟩⟩
    · exact .inl ⟨hsent, by rw [he]; exact nofun⟩
    · exact .inl ⟨hsent, by rw [he]; exact nofun⟩
    · exact .inr ⟨compiled, _, valueOf, drained, .text hq hcompiled, hcoerced, hsent⟩

/-! ## Runs -/

/-- The session after commands, whether they failed or not. -/
def after (s : Session) (cs : List Command) : Session := (runAll s (cs.map .command)).2

theorem after_nil (s : Session) : s.after [] = s := rfl

theorem after_cons (s : Session) (c : Command) (cs : List Command) :
    s.after (c :: cs) = (c.run.outcome s).2.after cs := by
  rw [after, List.map_cons, runAll, Step.run]
  rfl

theorem continues_after (s : Session) (cs : List Command) : Continues s (s.after cs) :=
  continues_runAll s _

/-- **What a whole run preserves.** -/
theorem ready_after {s : Session} (hs : s.Ready) (cs : List Command) : (s.after cs).Ready := by
  induction cs generalizing s with
  | nil => exact hs
  | cons c cs ih =>
    rw [after_cons]
    refine ih (ready_effect hs (effect_command hs.style c) ?_)
    rw [(continues_command c s).connection.driver.style]
    exact hs.style

/-! ## Origins -/

theorem compileOptions_of_continues {s t : Session} (h : Continues s t) :
    t.connection.compileOptions = s.connection.compileOptions := by
  rw [Connection.compileOptions, Connection.compileOptions, h.connection.driver.marker,
    h.connection.strict, h.connection.dialect]

/-- A command leaves the statements as they are, or prepares one more. -/
theorem statements_effect {s t : Session} {c : Command} {r : Except Error Reply}
    (h : Effect s c r t) :
    t.statements = s.statements ∨ ∃ sql compiled number, c = .prepare sql ∧
      (compile s.connection.compileOptions sql).outcome = .ok compiled ∧
      t.statements = s.statements ++ [⟨number, compiled⟩] := by
  cases h with
  | quiet hr hc hstatements => exact .inl hstatements
  | prepared hr hcompiled => exact .inr ⟨_, _, _, rfl, hcompiled, rfl⟩
  | executed hn => exact .inl rfl
  | queried bs hq => exact .inl rfl

/-- **A statement is what its text compiled to** when it was prepared. -/
theorem exists_prepare {s : Session} (hs : s.Ready) {cs : List Command} {n : Nat} {st : Statement}
    (hn : s.statements.length ≤ n) (h : (s.after cs).statements[n]? = some st) :
    ∃ front sql back, cs = front ++ .prepare sql :: back ∧
      (s.after front).statements.length = n ∧
      (s.after (front ++ [.prepare sql])).statements.length = n + 1 ∧
      (compile s.connection.compileOptions sql).outcome = .ok st.compiled := by
  -- on the commands; the statement is there after the first of them that makes it so
  induction cs generalizing s with
  | nil =>
    have hlt : n < s.statements.length := (List.getElem?_eq_some_iff.mp h).1
    omega
  | cons c cs ih =>
    have hcontinues := continues_command c s
    have heffect := effect_command hs.style c
    have hstyle : (c.run.outcome s).2.connection.driver.style ≠ .direct := by
      rw [hcontinues.connection.driver.style]
      exact hs.style
    have hready := ready_effect hs heffect hstyle
    rw [after_cons] at h
    by_cases hlater : (c.run.outcome s).2.statements.length ≤ n
    · obtain ⟨front, sql, back, rfl, hfront, hprepared, hcompiled⟩ := ih hready hlater h
      refine ⟨c :: front, sql, back, rfl, by rw [after_cons]; exact hfront, ?_, ?_⟩
      · rw [List.cons_append, after_cons]
        exact hprepared
      · rwa [compileOptions_of_continues hcontinues] at hcompiled
    · rcases statements_effect heffect with hsame | ⟨sql, compiled, number, rfl, hcompiled, hmore⟩
      · rw [hsame] at hlater
        exact absurd hn hlater
      · rw [hmore, List.length_append, List.length_singleton] at hlater
        obtain rfl : n = s.statements.length := by omega
        obtain ⟨later, hall⟩ :=
          (continues_after ((Command.prepare sql).run.outcome s).2 cs).statements
        rw [hall, hmore] at h
        have hst : st = ⟨number, compiled⟩ := by simpa using h.symm
        refine ⟨[], sql, cs, rfl, rfl, ?_, by rw [hst]; exact hcompiled⟩
        rw [List.nil_append, after_cons, after_nil, hmore, List.length_append,
          List.length_singleton]

/-- Whether a command, after others, asks for a text with what is supplied: for a text of its own,
    or for the one that the statement of its number was prepared from. -/
inductive Asks (s : Session) (before : List Command) :
    Command → String → List (String × Value) → Prop
  | text {c : Command} {sql : String} {supplied : List (String × Value)}
      (h : Queries (s.after before) c sql supplied) : Asks s before c sql supplied
  | statement {front back : List Command} {sql : String} {n : Nat}
      (supplied : List (String × Value)) (hbefore : before = front ++ .prepare sql :: back)
      (hfront : (s.after front).statements.length = n)
      (hprepared : (s.after (front ++ [.prepare sql])).statements.length = n + 1) :
      Asks s before (.execute n supplied) sql supplied

/-- **Every command sends its own**: what the text that it asks for compiles to, with the coerced
    values of this very command, in the order of the positions. -/
theorem sends_asked {s : Session} (hs : s.Ready) (hnone : s.statements = []) (before : List Command)
    (next : Command) :
    let t := s.after before
    let r := ((Step.command next).run t).1
    (sent r.events = [] ∧ ∀ h, r.outcome ≠ .ok (.executed h)) ∨
      ∃ sql supplied compiled valueOf drained, Asks s before next sql supplied ∧
        (compile s.connection.compileOptions sql).outcome = .ok compiled ∧
        Statement.Coerced s.connection.dialect.dialect compiled.types supplied valueOf
          t.connection.drained compiled.names.eraseDups drained ∧
        sent r.events = [(compiled.sql, compiled.names.map valueOf)] := by
  intro t r
  have ht : t.Ready := ready_after hs before
  have hcontinues : Continues s t := continues_after s before
  obtain ⟨es, hes, hsends⟩ := sends_effect ht (effect_command ht.style next)
  have haccount := events_step t (.command next)
  have hr : r = _ := congrArg Prod.fst (run_command t next)
  have hevents : r.events = es := by
    rw [run_command, hes] at haccount
    rw [hr]
    exact (List.append_cancel_left haccount).symm
  have houtcome : r.outcome = (next.run.outcome t).1 := by
    rw [hr]
    rfl
  rw [hevents, houtcome]
  refine hsends.imp_right ?_
  rintro ⟨compiled, supplied, valueOf, drained, hexecutes, hcoerced, hsent⟩
  rw [hcontinues.connection.dialect] at hcoerced
  cases hexecutes with
  | statement _ hn =>
    obtain ⟨front, sql, back, hbefore, hfront, hprepared, hcompiled⟩ :=
      exists_prepare hs (by rw [hnone]; exact Nat.zero_le _) hn
    exact ⟨sql, supplied, _, valueOf, drained, .statement supplied hbefore hfront hprepared,
      hcompiled, hcoerced, hsent⟩
  | text hq hcompiled =>
    rw [compileOptions_of_continues hcontinues] at hcompiled
    exact ⟨_, supplied, compiled, valueOf, drained, .text hq, hcompiled, hcoerced, hsent⟩

end TaggedSql.Session
