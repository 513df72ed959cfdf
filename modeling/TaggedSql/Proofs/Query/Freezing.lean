/-
  Builders freeze when they are rendered.

  1. **One request** (`Builder.become_of_isRendering`) — a request for the query keeps what it
     renders the builder to, and changes nothing when it does not render it; a call never renders a
     builder.

  2. **Frozen builders** (`Builder.become_of_rendered`) — nothing changes a builder that is
     rendered, and all its answers are known (`Builder.IsFrozen`).  The complaint that it is frozen
     meets every call but two: to assign no values, which does nothing, and to assign from what has
     no entries, which fails before it is noticed that the builder is frozen.

  3. **Runs** (`Builder.freezes`) — a builder is frozen by the first request that renders it, and by
     nothing else; requests that fail to render it might as well not have been made.
-/
import TaggedSql.Proofs.Query.Supported

namespace TaggedSql.Query

/-! ## One request -/

/-- Whether a request is for the query itself, and no call that shapes it. -/
def Request.isRendering : Request → Bool
  | .call _ => false
  | .build | .text | .execute => true

namespace Builder

/-- What a request renders the builder to, if it does.  Only a builder that is attached to a
    connection is rendered to be executed. -/
def renders? (attached : Bool) (b : Builder) : Request → Option Rendered
  | .call _ => none
  | .build | .text => b.build.1.toOption
  | .execute => if attached then b.build.1.toOption else none

/-- The builder after a request. -/
def become (attached : Bool) (b : Builder) : Request → Builder
  | .execute => if attached then b.build.2 else (b.answer .execute).2
  | q => (b.answer q).2

/-- The builder after requests. -/
def asked (attached : Bool) (b : Builder) (qs : List Request) : Builder :=
  qs.foldl (become attached) b

theorem asked_append (attached : Bool) (b : Builder) (front back : List Request) :
    b.asked attached (front ++ back) = (b.asked attached front).asked attached back :=
  List.foldl_append

/-- Rendering keeps what was rendered, and changes nothing when it fails. -/
theorem build_state (b : Builder) :
    b.build.2 = b.build.1.toOption.elim b fun r => { b with rendered := some r } := by
  unfold build
  split
  · next r hr =>
    -- it was rendered before
    show b = { b with rendered := some r }
    rw [← hr]
  · split <;> rfl

theorem become_call (attached : Bool) (b : Builder) (c : Call) :
    b.become attached (.call c) = (b.apply c).state := by
  show (b.answer (.call c)).2 = _
  rw [answer]
  rcases b.apply c with ⟨b', _ | f⟩ <;> rfl

/-- Calls do not render a builder. -/
theorem rendered_apply (b : Builder) (c : Call) : (b.apply c).state.rendered = b.rendered := by
  rcases b.apply_state c with hsame | hdraft
  · rw [hsame]
  · rw [hdraft]

/-- **A request for the query** keeps what it renders the builder to, and changes nothing when it
    does not render it. -/
theorem become_of_isRendering (attached : Bool) (b : Builder) {q : Request} (hq : q.isRendering) :
    b.become attached q =
      (b.renders? attached q).elim b fun r => { b with rendered := some r } := by
  cases q with
  | call c => cases hq
  | build | text => exact b.build_state
  | execute =>
    cases attached with
    | true => exact b.build_state
    | false => rfl

theorem isRendering_of_renders {attached : Bool} {b : Builder} {q : Request} {r : Rendered}
    (h : b.renders? attached q = some r) : q.isRendering := by
  cases q with
  | call c => cases h
  | _ => rfl

/-- A builder that is not rendered becomes rendered to what a request renders it to. -/
theorem rendered_become {attached : Bool} {b : Builder} (hb : b.rendered = none) (q : Request) :
    (b.become attached q).rendered = b.renders? attached q := by
  by_cases hq : q.isRendering
  · rw [become_of_isRendering attached b hq]
    cases b.renders? attached q with
    | none => exact hb
    | some r => rfl
  · cases q with
    | call c => rw [become_call, rendered_apply, hb, renders?]
    | _ => exact absurd rfl hq

/-- What every call keeps of a query, taken or not, every request keeps. -/
theorem draft_become {P : Draft → Prop} (hP : ∀ d c, P d → P (d.apply c).state) {b : Builder}
    (hb : P b.draft) (attached : Bool) (q : Request) : P (b.become attached q).draft := by
  by_cases hq : q.isRendering
  · -- rendering leaves the query alone
    rw [become_of_isRendering attached b hq]
    cases b.renders? attached q <;> exact hb
  · cases q with
    | call c =>
      rw [become_call]
      rcases b.apply_state c with hsame | hdraft
      · rwa [hsame]
      · rw [hdraft]
        exact hP b.draft c hb
    | _ => exact absurd rfl hq

/-! ## Frozen builders -/

/-- A call on a rendered builder is refused, unless it ends before that is noticed. -/
theorem apply_of_rendered {b : Builder} {r : Rendered} (h : b.rendered = some r) {c : Call}
    (hc : b.draft.knows c) (hguarded : isUnguarded c = false) :
    b.apply c = .stopped b (.frozen b.draft.kind) := by
  rw [apply, hc, h, hguarded]
  rfl

/-- A call that ends before that is noticed ends as it does on any builder. -/
theorem apply_of_isUnguarded {b : Builder} {c : Call} (hc : b.draft.knows c)
    (hunguarded : isUnguarded c) : b.apply c = ⟨b, (b.draft.apply c).fault⟩ := by
  have hstate : { b with draft := (b.draft.apply c).state } = b := by
    rw [Draft.apply_of_isUnguarded hunguarded]
  rw [apply, hc, hunguarded, if_neg (by decide), if_neg (by simp), Attempt.map, hstate]

theorem state_apply_of_rendered {b : Builder} {r : Rendered} (h : b.rendered = some r) (c : Call) :
    (b.apply c).state = b := by
  by_cases hc : b.draft.knows c
  · cases hunguarded : isUnguarded c with
    | true => rw [apply_of_isUnguarded hc hunguarded]
    | false => exact congrArg Attempt.state (apply_of_rendered h hc hunguarded)
  · rw [apply, if_pos (by simpa using hc)]
    rfl

/-- **A rendered builder** is changed by nothing. -/
theorem become_of_rendered {b : Builder} {r : Rendered} (h : b.rendered = some r) (attached : Bool)
    (q : Request) : b.become attached q = b := by
  cases q with
  | call c => rw [become_call, state_apply_of_rendered h]
  | build | text =>
    show b.build.2 = b
    rw [build_of_rendered h]
  | execute =>
    show (if attached then b.build.2 else b) = b
    rw [build_of_rendered h, ite_self]

theorem asked_of_rendered {b : Builder} {r : Rendered} (h : b.rendered = some r) (attached : Bool)
    (qs : List Request) : b.asked attached qs = b := by
  induction qs with
  | nil => rfl
  | cons q qs ih =>
    show (b.become attached q).asked attached qs = b
    rw [become_of_rendered h, ih]

/-- What a builder that is frozen with a query answers. -/
structure IsFrozen (b : Builder) (r : Rendered) : Prop where
  build : b.answer .build = (.ok (.built r), b)
  text : b.answer .text = (.ok (.text r.sql), b)
  /-- The complaint is the same for all calls, whatever they ask for. -/
  refuses : ∀ c, b.draft.knows c → isUnguarded c = false →
    b.answer (.call c) = (.error (.frozen b.draft.kind), b) ∧
      (Fault.frozen b.draft.kind).isComplaint
  /-- To assign no values does nothing. -/
  idles : b.draft.knows (.setValues []) → b.answer (.call (.setValues [])) = (.ok .taken, b)
  /-- To assign from what has no entries fails, but not because the builder is frozen. -/
  trips : ∀ kind, b.draft.knows (.setOther kind) →
    b.answer (.call (.setOther kind)) = (.error (.noEntries kind), b)

theorem isFrozen_of_rendered {b : Builder} {r : Rendered} (h : b.rendered = some r) :
    b.IsFrozen r where
  build := by
    rw [answer, build_of_rendered h]
    rfl
  text := by
    rw [answer, build_of_rendered h]
    rfl
  refuses c hc hguarded := by
    rw [answer, apply_of_rendered h hc hguarded]
    exact ⟨rfl, rfl⟩
  idles hc := by
    obtain ⟨q, hq⟩ := Draft.exists_update_of_knows (c := .setValues []) rfl hc
    rw [answer, apply_of_isUnguarded hc rfl, hq]
    rfl
  trips kind hc := by
    obtain ⟨q, hq⟩ := Draft.exists_update_of_knows (c := .setOther kind) rfl hc
    rw [answer, apply_of_isUnguarded hc rfl, hq]
    rfl

/-! ## Runs -/

/-- **What every call keeps** of a query, whole runs of requests keep. -/
theorem draft_asked {P : Draft → Prop} (hP : ∀ d c, P d → P (d.apply c).state) {b : Builder}
    (hb : P b.draft) (attached : Bool) (qs : List Request) : P (b.asked attached qs).draft :=
  List.foldlRecOn qs _ (motive := fun b : Builder => P b.draft) hb
    fun _ hb q _ => draft_become hP hb attached q

/-- `FirstRenders attached b qs r`: among the requests there is one that renders the builder to `r`,
    and it was not rendered before; nothing changes it after that. -/
def FirstRenders (attached : Bool) (b : Builder) (qs : List Request) (r : Rendered) : Prop :=
  ∃ front q back, qs = front ++ q :: back ∧ (b.asked attached front).rendered = none ∧
    (b.asked attached front).renders? attached q = some r ∧
    b.asked attached qs = { b.asked attached front with rendered := some r }

/-- **The first rendering**, and nothing else, freezes a builder. -/
theorem rendered_asked_iff {attached : Bool} {b : Builder} (hb : b.rendered = none)
    (qs : List Request) (r : Rendered) :
    (b.asked attached qs).rendered = some r ↔ b.FirstRenders attached qs r := by
  constructor
  · intro h
    induction qs generalizing b with
    | nil => exact absurd (hb.symm.trans h) (by simp)
    | cons q qs ih =>
      cases hq : b.renders? attached q with
      | none =>
        obtain ⟨front, p, back, rfl, hfront, hp, hlast⟩ :=
          ih (b := b.become attached q) (by rw [rendered_become hb, hq]) h
        exact ⟨q :: front, p, back, rfl, hfront, hp, hlast⟩
      | some r' =>
        -- frozen by the first request
        have hstep : (b.become attached q).rendered = some r' := by rw [rendered_become hb, hq]
        have hlast : b.asked attached (q :: qs) = b.become attached q :=
          asked_of_rendered hstep attached qs
        rw [hlast, hstep] at h
        cases h
        refine ⟨[], q, qs, rfl, hb, hq, ?_⟩
        rw [hlast, become_of_isRendering attached b (isRendering_of_renders hq), hq]
        rfl
  · rintro ⟨front, q, back, -, -, -, hlast⟩
    rw [hlast]

/-- How builders freeze; `attached` says whether they can be executed. -/
structure Freezes (attached : Bool) (b : Builder) : Prop where
  /-- The first rendering freezes a builder, and nothing else does. -/
  first : b.rendered = none → ∀ qs r,
    (b.asked attached qs).rendered = some r ↔ b.FirstRenders attached qs r
  /-- A frozen builder stays what it is. -/
  stays : ∀ qs r, (b.asked attached qs).rendered = some r → ∀ more,
    b.asked attached (qs ++ more) = b.asked attached qs
  /-- What a frozen builder answers. -/
  answers : ∀ qs r, (b.asked attached qs).rendered = some r → (b.asked attached qs).IsFrozen r
  /-- A request that does not render the builder leaves it unchanged and can be left out. -/
  inVain : ∀ front q back, q.isRendering → (b.asked attached front).renders? attached q = none →
    (b.asked attached front).become attached q = b.asked attached front ∧
      b.asked attached (front ++ q :: back) = b.asked attached (front ++ back)

/-- **Every builder freezes** when it is rendered first, and not before. -/
theorem freezes (attached : Bool) (b : Builder) : b.Freezes attached where
  first hb := rendered_asked_iff hb
  stays qs r h more := by rw [asked_append, asked_of_rendered h]
  answers qs r h := isFrozen_of_rendered h
  inVain front q back hq h := by
    have hsame : (b.asked attached front).become attached q = b.asked attached front := by
      rw [become_of_isRendering attached _ hq, h]
      rfl
    refine ⟨hsame, ?_⟩
    rw [asked_append, asked_append]
    show ((b.asked attached front).become attached q).asked attached back = _
    rw [hsame]

end Builder

end TaggedSql.Query
