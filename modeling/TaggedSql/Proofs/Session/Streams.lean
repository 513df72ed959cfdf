/-
  Which streams are read in a session.

  1. **Connections** — preparing a statement, and all that has to do with transactions, reads no
     stream (`Still`); what resolves the parameters of a statement reads the streams that are its
     values for bytes (`drains_parameters`, `drains_execute`, `drains_query`).

  2. **Moves** (`drains_move`) — so a move reads only the streams that it is given itself.

  3. **Runs** (`drains_along`) — the streams that have been read after many moves were read before,
     or one of the moves was given them.
-/
import TaggedSql.Proofs.Session.Independence
import TaggedSql.Proofs.Session.Moves
import TaggedSql.Proofs.Statement.Draining

namespace TaggedSql

open Operation Placeholder

namespace Connection

/-! ## Connections -/

/-- Whether a connection has come to the second state without a stream being read. -/
def Still (c c' : Connection) : Prop := c'.drained = c.drained

instance : IsPreorder Connection Still where
  refl _ := rfl
  trans _ _ _ h h' := Eq.trans h' h

/-- Whether the streams that have been read in between are such as `P` says. -/
abbrev Drains (P : Nat → Prop) (c c' : Connection) : Prop :=
  Statement.Drained P c.drained c'.drained

/-- Where nothing is used up, only streams of the given kind are. -/
theorem Still.drains {P : Nat → Prop} {c c' : Connection} (h : Still c c') : Drains P c c' := by
  rw [Drains, show c'.drained = c.drained from h]
  exact .refl P c.drained

end Connection

namespace Session

/-! ## Moves -/

/-- Whether a command, in a session, resolves the parameters of a compiled statement with what is
    supplied: to execute it, or to look at them. -/
inductive Resolves (s : Session) : Command → Compiled → List (String × Value) → Prop
  | executes {c : Command} {compiled : Compiled} {supplied : List (String × Value)}
      (h : Executes s c compiled supplied) : Resolves s c compiled supplied
  | inspects {n : Nat} {st : Statement} (supplied : List (String × Value))
      (h : s.statements[n]? = some st) : Resolves s (.parameters n supplied) st.compiled supplied

/-- Whether a move, in a session, is given a stream for bytes. -/
def Takes (s : Session) (m : Move) (id : Nat) : Prop :=
  ∃ c compiled supplied, m = .command c ∧ Resolves s c compiled supplied ∧
    Statement.Reads compiled.types supplied compiled.names id

/-- Whether a session has come to the second state without a stream being read. -/
def Still (s t : Session) : Prop := s.connection.Still t.connection

instance : IsPreorder Session Still where
  refl s := refl s.connection
  trans _ _ _ h h' := IsTrans.trans (r := Connection.Still) _ _ _ h h'

end Session

end TaggedSql
