/-
  Builders: a draft, the dialect that writes it, and the query it was rendered to.

  Rendering freezes a builder: `Builder.build` renders once and returns the same query ever
  after, and a call on a rendered builder is refused.  Values are assigned one by one, and it is
  each single assignment that is refused; so a frozen builder takes the assignment of no values,
  which does nothing, and trips over one that holds no entries as any other builder does.

  `Builder.answer` serves every request that needs no connection; without one, a query is not
  executed.
-/
import TaggedSql.Query.Draft

namespace TaggedSql.Query

open TaggedSql.Sql

/-- A statement with named placeholders and the values of its parameters. -/
structure Rendered where
  sql : String
  parameters : List (String × Value)

/-- A query builder. -/
structure Builder where
  dialect : Dialect
  draft : Draft
  rendered : Option Rendered

/-- What a builder can be asked for. -/
inductive Request where
  | call (c : Call)
  | build
  | text
  | execute

/-- What a builder answers: that it took the call, its query, or the text of its query. -/
inductive Answer where
  | taken
  | built (r : Rendered)
  | text (sql : String)

namespace Builder

/-- A builder at its start. -/
def start (dialect : Dialect) (draft : Draft) : Builder := ⟨dialect, draft, none⟩

/-- Whether the call ends before it is noticed that the builder is frozen. -/
def isUnguarded : Call → Bool
  | .setValues [] | .setOther _ => true
  | _ => false

/-- Carries out a call. -/
def apply (b : Builder) (c : Call) : Attempt Builder :=
  if !b.draft.knows c then .stopped b .unknownCall
  else if b.rendered.isSome && !isUnguarded c then .stopped b (.frozen b.draft.kind)
  else (b.draft.apply c).map fun d => { b with draft := d }

/-- The statement as it would be rendered now. -/
def preview (b : Builder) : Except Fault String := b.draft.render b.dialect

/-- The rendered query, and the builder that keeps it. -/
def build (b : Builder) : Except Fault Rendered × Builder :=
  match b.rendered with
  | some r => (.ok r, b)
  | none =>
    match b.preview with
    | .error f => (.error f, b)
    | .ok sql =>
      let r : Rendered := ⟨sql, b.draft.bindings.entries⟩
      (.ok r, { b with rendered := some r })

/-- Answers a request, and yields the builder after it. -/
def answer (b : Builder) : Request → Except Fault Answer × Builder
  | .call c =>
    match b.apply c with
    | ⟨b', none⟩ => (.ok .taken, b')
    | ⟨b', some f⟩ => (.error f, b')
  | .build => (b.build.1.map .built, b.build.2)
  | .text => (b.build.1.map fun r => .text r.sql, b.build.2)
  | .execute => (.error (.detached b.draft.kind), b)

/-- A frozen builder builds the query it was frozen with, and stays as it is. -/
theorem build_of_rendered {b : Builder} {r : Rendered} (h : b.rendered = some r) :
    b.build = (.ok r, b) := by
  simp [build, h]

end Builder

end TaggedSql.Query
