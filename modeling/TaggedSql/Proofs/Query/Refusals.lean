/-
  What a `SELECT` or an `UPDATE` keeps of a call that it refuses.

  1. **Parameters up to a conflict** (`bindNamed_stopped`) — the parameters of a raw condition are
     bound one after the other, and those in front of the first conflict stay bound.

  2. **One call** (`refused_call_leaves`) — a refused call leaves the builder as it was, with one
     exception: a raw condition whose second or later parameter conflicts leaves the parameters in
     front of that one.  They are all it leaves: the clauses and the counter of generated names are
     as before.

  3. **Runs** (`after_accepted`) — where no raw condition has more than one parameter, the calls
     that were refused might as well not have been made.
-/
import TaggedSql.Proofs.Query.Supported

namespace TaggedSql.Query

open TaggedSql.Sql

/-! ## Parameters up to a conflict -/

/-- Binds names one after the other. -/
def Bindings.putAll (b : Bindings) (parameters : List (String × Value)) : Bindings :=
  parameters.foldl (fun b p => b.put p.1 p.2) b

theorem Bindings.counter_putAll (b : Bindings) (parameters : List (String × Value)) :
    (b.putAll parameters).counter = b.counter := by
  induction parameters generalizing b with
  | nil => rfl
  | cons p parameters ih => exact ih (b.put p.1 p.2)

/-- **Stopping at a conflict.**  The parameters in front of it are bound, none of them in
    conflict. -/
theorem bindNamed_stopped {b b' : Bindings} {parameters : List (String × Value)} {f : Fault}
    (h : bindNamed b parameters = (b', some f)) :
    ∃ front name v back, parameters = front ++ (name, v) :: back ∧
      bindNamed b front = (b', none) ∧ b' = b.putAll front ∧ conflict? b' name v = some f := by
  induction parameters generalizing b with
  | nil => cases h
  | cons p parameters ih =>
    obtain ⟨name, v⟩ := p
    rw [bindNamed] at h
    split at h
    · next hconflict =>
      cases h
      exact ⟨[], name, v, parameters, rfl, rfl, rfl, hconflict⟩
    · next hnone =>
      obtain ⟨front, name', v', back, rfl, hfront, hb', hconflict⟩ := ih h
      refine ⟨(name, v) :: front, name', v', back, rfl, ?_, hb', hconflict⟩
      rw [bindNamed, hnone]
      exact hfront

theorem bindNamed_append {b b' : Bindings} {front : List (String × Value)}
    (h : bindNamed b front = (b', none)) (rest : List (String × Value)) :
    bindNamed b (front ++ rest) = bindNamed b' rest := by
  induction front generalizing b with
  | nil =>
    cases h
    rfl
  | cons p front ih =>
    obtain ⟨name, v⟩ := p
    rw [bindNamed] at h
    split at h
    · cases h
    · next hnone =>
      rw [List.cons_append, bindNamed, hnone]
      exact ih h

theorem Filter.whereRaw_of_conflict {q : Filter} {parameters : List (String × Value)}
    {b' : Bindings} {f : Fault} (h : bindNamed q.bindings parameters = (b', some f))
    (expression : String) : q.whereRaw expression parameters = .stopped ⟨b', q.conditions⟩ f := by
  rw [Filter.whereRaw, h]

/-- A raw condition that is refused has met a conflict. -/
theorem Filter.exists_conflict {q : Filter} {expression : String}
    {parameters : List (String × Value)} {f : Fault}
    (h : (q.whereRaw expression parameters).fault = some f) :
    ∃ b', bindNamed q.bindings parameters = (b', some f) := by
  unfold Filter.whereRaw at h
  split at h
  · next b' f' hstopped =>
    cases h
    exact ⟨b', hstopped⟩
  · cases h

/-! ## One call -/

/-- The query with other bindings. -/
def Draft.withBindings : Draft → Bindings → Draft
  | select d, b => .select { d with bindings := b }
  | insert d, b => .insert { d with bindings := b }
  | update d, b => .update { d with bindings := b }

theorem Draft.withBindings_self (q : Draft) : q.withBindings q.bindings = q := by
  cases q <;> rfl

theorem Draft.bindings_withBindings (q : Draft) (b : Bindings) :
    (q.withBindings b).bindings = b := by
  cases q <;> rfl

/-- Bindings do not show in the text of a query. -/
theorem Draft.render_withBindings (q : Draft) (b : Bindings) (d : Dialect) :
    (q.withBindings b).render d = q.render d := by
  cases q <;> rfl

/-- `Leaves b c f b'`: the builder `b`, refusing the call `c` for the fault `f`, is left as `b'`. -/
inductive Builder.Leaves (b : Builder) : Call → Fault → Builder → Prop
  /-- Nothing has changed. -/
  | nothing (c : Call) (f : Fault) : Leaves b c f b
  /-- The parameters in front of the one that conflicts have been bound. -/
  | parameters {expression : String} {front back : List (String × Value)} {name : String}
      {v : Value} {f : Fault} (hopen : b.rendered = none) (hsome : front ≠ [])
      (hfront : bindNamed b.draft.bindings front = (b.draft.bindings.putAll front, none))
      (hconflict : conflict? (b.draft.bindings.putAll front) name v = some f) :
      Leaves b (.whereRaw expression (front ++ (name, v) :: back)) f
        { b with draft := b.draft.withBindings (b.draft.bindings.putAll front) }

theorem Builder.Leaves.preview {b b' : Builder} {c : Call} {f : Fault} (h : b.Leaves c f b') :
    b'.preview = b.preview := by
  cases h with
  | nothing => rfl
  | parameters => exact Draft.render_withBindings ..

theorem Builder.Leaves.counter {b b' : Builder} {c : Call} {f : Fault} (h : b.Leaves c f b') :
    b'.draft.bindings.counter = b.draft.bindings.counter := by
  cases h with
  | nothing => rfl
  | parameters => rw [Draft.bindings_withBindings, Bindings.counter_putAll]

theorem ofExcept_refused {σ : Type} {s : σ} {r : Except Fault σ} {f : Fault}
    (h : (Attempt.ofExcept s r).fault = some f) : (Attempt.ofExcept s r).state = s := by
  cases r with
  | error e => rfl
  | ok t => cases h

theorem SelectDraft.apply_refused {q : SelectDraft} {c : Call} {f : Fault}
    (h : (q.apply c).fault = some f) :
    (q.apply c).state = q ∨ ∃ expression parameters b', c = .whereRaw expression parameters ∧
      bindNamed q.bindings parameters = (b', some f) ∧
      (q.apply c).state = { q with bindings := b' } := by
  cases c with
  | whereRaw expression parameters =>
    rw [SelectDraft.apply] at h ⊢
    obtain ⟨b', hconflict⟩ := Filter.exists_conflict h
    refine .inr ⟨expression, parameters, b', rfl, hconflict, ?_⟩
    rw [Filter.whereRaw_of_conflict hconflict]
    rfl
  | compare conjunction column operator value =>
    rw [SelectDraft.apply] at h ⊢
    exact .inl (ofExcept_refused h)
  | join table left right kind label =>
    rw [SelectDraft.apply] at h ⊢
    exact .inl (ofExcept_refused h)
  | orderBy column direction =>
    rw [SelectDraft.apply] at h ⊢
    exact .inl (ofExcept_refused h)
  | limit value =>
    rw [SelectDraft.apply] at h ⊢
    exact .inl (ofExcept_refused h)
  | offset value =>
    rw [SelectDraft.apply] at h ⊢
    exact .inl (ofExcept_refused h)
  | values | set | setValues | setOther => exact .inl rfl
  | _ => cases h

theorem UpdateDraft.apply_refused {q : UpdateDraft} {c : Call} {f : Fault}
    (h : (q.apply c).fault = some f) :
    (q.apply c).state = q ∨ ∃ expression parameters b', c = .whereRaw expression parameters ∧
      bindNamed q.bindings parameters = (b', some f) ∧
      (q.apply c).state = { q with bindings := b' } := by
  cases c with
  | whereRaw expression parameters =>
    rw [UpdateDraft.apply] at h ⊢
    obtain ⟨b', hconflict⟩ := Filter.exists_conflict h
    refine .inr ⟨expression, parameters, b', rfl, hconflict, ?_⟩
    rw [Filter.whereRaw_of_conflict hconflict]
    rfl
  | compare conjunction column operator value =>
    rw [UpdateDraft.apply] at h ⊢
    exact .inl (ofExcept_refused h)
  | set | setValues => cases h
  | _ => exact .inl rfl

theorem Draft.apply_refused {q : Draft} (hk : q.kind ≠ .insert) {c : Call} {f : Fault}
    (h : (q.apply c).fault = some f) :
    (q.apply c).state = q ∨ ∃ expression parameters b', c = .whereRaw expression parameters ∧
      bindNamed q.bindings parameters = (b', some f) ∧ (q.apply c).state = q.withBindings b' := by
  cases q with
  | insert q => exact absurd rfl hk
  | select q =>
    rcases SelectDraft.apply_refused h with hsame | ⟨e, ps, b', rfl, hstopped, hstate⟩
    · exact .inl (congrArg Draft.select hsame)
    · exact .inr ⟨e, ps, b', rfl, hstopped, congrArg Draft.select hstate⟩
  | update q =>
    rcases UpdateDraft.apply_refused h with hsame | ⟨e, ps, b', rfl, hstopped, hstate⟩
    · exact .inl (congrArg Draft.update hsame)
    · exact .inr ⟨e, ps, b', rfl, hstopped, congrArg Draft.update hstate⟩

theorem Draft.whereRaw_of_conflict {q : Draft} (hk : q.kind ≠ .insert)
    {parameters : List (String × Value)} {b' : Bindings} {f : Fault}
    (h : bindNamed q.bindings parameters = (b', some f)) (expression : String) :
    q.apply (.whereRaw expression parameters) = .stopped (q.withBindings b') f := by
  cases q with
  | insert q => exact absurd rfl hk
  | select q =>
    rw [Draft.apply, SelectDraft.apply, Filter.whereRaw_of_conflict (q := q.filter) h]
    rfl
  | update q =>
    rw [Draft.apply, UpdateDraft.apply, Filter.whereRaw_of_conflict (q := q.filter) h]
    rfl

/-- A call that a builder refuses is refused by its draft, unless the builder does not pass it
    on. -/
theorem Builder.apply_refused {b : Builder} {c : Call} {f : Fault}
    (h : (b.apply c).fault = some f) :
    (b.apply c).state = b ∨ b.rendered = none ∧ (b.draft.apply c).fault = some f ∧
      (b.apply c).state = { b with draft := (b.draft.apply c).state } := by
  rw [Builder.apply] at h ⊢
  split_ifs at h ⊢ with hunknown hfrozen
  · exact .inl rfl
  · exact .inl rfl
  · by_cases hc : isUnguarded c
    · -- the query stays what it is, rendered or not
      refine .inl ?_
      show { b with draft := (b.draft.apply c).state } = b
      rw [Draft.apply_of_isUnguarded hc]
    · exact .inr ⟨by simpa [hc] using hfrozen, h, rfl⟩

/-- A builder that is not rendered yet hands raw conditions on to its draft. -/
theorem Builder.apply_whereRaw {b : Builder} (hk : b.draft.kind ≠ .insert)
    (hopen : b.rendered = none) (expression : String) (parameters : List (String × Value)) :
    b.apply (.whereRaw expression parameters) =
      (b.draft.apply (.whereRaw expression parameters)).map fun q => { b with draft := q } := by
  rw [Builder.apply, hopen, if_neg (by cases hd : b.draft <;> simp_all [Draft.knows, Draft.kind]),
    if_neg (by simp)]

/-- A conflict stops a raw condition, and it leaves the parameters in front of it, however many
    they are. -/
theorem apply_whereRaw_of_conflict {b : Builder} {expression name : String} {v : Value} {f : Fault}
    (front back : List (String × Value)) {b' : Bindings} (hk : b.draft.kind ≠ .insert)
    (hopen : b.rendered = none) (hfront : bindNamed b.draft.bindings front = (b', none))
    (hconflict : conflict? b' name v = some f) :
    b.apply (.whereRaw expression (front ++ (name, v) :: back)) =
      .stopped { b with draft := b.draft.withBindings b' } f := by
  have hstopped : bindNamed b.draft.bindings (front ++ (name, v) :: back) = (b', some f) := by
    rw [bindNamed_append hfront, bindNamed, hconflict]
  rw [Builder.apply_whereRaw hk hopen, Draft.whereRaw_of_conflict hk hstopped]
  rfl

/-- Another text is in conflict with the one that is bound. -/
theorem conflict?_text {b : Bindings} {name s t : String} (h : b.get? name = some (.text s))
    (hne : s ≠ t) : conflict? b name (.text t) = some (.parameterTaken name) := by
  simp [conflict?, h, Value.signals, Value.same, Value.isSignaling, hne]

/-- What a refused call leaves. -/
theorem Builder.leaves_of_refused {b : Builder} (hk : b.draft.kind ≠ .insert) {c : Call} {f : Fault}
    (h : (b.apply c).fault = some f) : b.Leaves c f (b.apply c).state := by
  rcases Builder.apply_refused h with hsame | ⟨hopen, hfault, hstate⟩
  · rw [hsame]
    exact .nothing c f
  · rw [hstate]
    rcases Draft.apply_refused hk hfault with hsame | ⟨e, ps, b', rfl, hstopped, hdraft⟩
    · rw [hsame]
      exact .nothing c f
    · obtain ⟨front, name, v, back, rfl, hfront, rfl, hconflict⟩ := bindNamed_stopped hstopped
      rw [hdraft]
      cases front with
      | nil =>
        -- a conflict of the very first parameter leaves nothing
        have hnothing : b.draft.withBindings (b.draft.bindings.putAll []) = b.draft :=
          b.draft.withBindings_self
        rw [hnothing]
        exact .nothing _ f
      | cons p front => exact .parameters hopen (List.cons_ne_nil p front) hfront hconflict

/-- **A refused call** leaves the builder of a `SELECT` or an `UPDATE` as it was, unless it is a raw
    condition of which a later parameter conflicts; and that leaves the parameters in front of the
    conflict, and nothing else.  The text of the statement and the number of the next generated name
    to try are the same as before in any case. -/
theorem refused_call_leaves {b : Builder} (hk : b.draft.kind ≠ .insert) {c : Call} {f : Fault}
    (h : (b.apply c).fault = some f) :
    b.Leaves c f (b.apply c).state ∧ (b.apply c).state.preview = b.preview ∧
      (b.apply c).state.draft.bindings.counter = b.draft.bindings.counter := by
  have hleaves := Builder.leaves_of_refused hk h
  exact ⟨hleaves, hleaves.preview, hleaves.counter⟩

/-- A raw condition of which the second parameter conflicts. -/
theorem refused_call_leaves_first_parameter :
    let b := (Builder.start .ansi (.ofSelect [])).after [.whereRaw "x = :a" [("a", .text "one")]]
    let c : Call := .whereRaw "x = :b AND y = :a" [("b", .text "five"), ("a", .text "two")]
    b.draft.kind ≠ .insert ∧ (b.apply c).fault = some (.parameterTaken "a") ∧
      b.Leaves c (.parameterTaken "a") (b.apply c).state := by
  intro b c
  have hk : b.draft.kind ≠ .insert := by decide
  have happly : b.apply c = .stopped _ (.parameterTaken "a") :=
    apply_whereRaw_of_conflict [("b", .text "five")] [] hk rfl rfl
      (conflict?_text (s := "one") rfl (by decide))
  have hfault : (b.apply c).fault = some (.parameterTaken "a") := congrArg Attempt.fault happly
  exact ⟨hk, hfault, (refused_call_leaves hk hfault).1⟩

/-- So a refused call can be told from one that was not made: what is built afterwards has a
    parameter that was never accepted. -/
theorem refused_raw_condition_leaves_parameter :
    let b := (Builder.start .ansi (.ofSelect [])).after [.whereRaw "x = :a" [("a", .text "one")]]
    let c : Call := .whereRaw "x = :b AND y = :a" [("b", .text "five"), ("a", .text "two")]
    (b.apply c).fault = some (.parameterTaken "a") ∧
      b.build.1.map Rendered.parameters = .ok [("a", .text "one")] ∧
      (b.apply c).state.build.1.map Rendered.parameters =
        .ok [("a", .text "one"), ("b", .text "five")] := by
  intro b c
  have happly : b.apply c = .stopped _ (.parameterTaken "a") :=
    apply_whereRaw_of_conflict [("b", .text "five")] [] (by decide) rfl rfl
      (conflict?_text (s := "one") rfl (by decide))
  refine ⟨congrArg Attempt.fault happly, rfl, ?_⟩
  rw [congrArg Attempt.state happly]
  rfl

/-! ## Runs -/

theorem Draft.kind_apply (q : Draft) (c : Call) : (q.apply c).state.kind = q.kind := by
  cases q <;> rfl

theorem Builder.kind_apply (b : Builder) (c : Call) :
    (b.apply c).state.draft.kind = b.draft.kind := by
  rcases b.apply_state c with hsame | hdraft
  · rw [hsame]
  · rw [hdraft]
    exact b.draft.kind_apply c

/-- Where refused calls leave the builder as it was, they might as well not have been made; `I` is
    what the calls preserve. -/
theorem Builder.after_accepted_of {I : Builder → Prop} {b : Builder} {calls : List Call} (hb : I b)
    (hstep : ∀ b, I b → ∀ c ∈ calls, I (b.apply c).state ∧
      ∀ f, (b.apply c).fault = some f → (b.apply c).state = b) :
    b.after (b.accepted calls) = b.after calls := by
  induction calls generalizing b with
  | nil => rfl
  | cons c calls ih =>
    obtain ⟨hnext, hrefused⟩ := hstep b hb c List.mem_cons_self
    have hrest := ih hnext fun b hb c' hc' => hstep b hb c' (List.mem_cons_of_mem c hc')
    rw [Builder.accepted]
    cases hf : (b.apply c).fault with
    | none => exact hrest
    | some f =>
      rw [hrefused f hf] at hrest
      rw [Builder.after_cons, hrefused f hf]
      exact hrest

/-- **Refused calls might as well not have been made**, where raw conditions have no more than one
    parameter each. -/
theorem after_accepted {b : Builder} (hk : b.draft.kind ≠ .insert) {calls : List Call}
    (hraw : ∀ c ∈ calls, c.rawParameters.length ≤ 1) :
    b.after (b.accepted calls) = b.after calls := by
  refine Builder.after_accepted_of (I := fun b => b.draft.kind ≠ .insert) hk fun b hk c hc => ?_
  refine ⟨by rwa [b.kind_apply c], fun f hf => ?_⟩
  -- a raw condition of one parameter has none in front of it
  have hlength := hraw c hc
  have hleaves := Builder.leaves_of_refused hk hf
  generalize (b.apply c).state = b' at hleaves
  cases hleaves with
  | nothing => rfl
  | parameters hopen hsome =>
    rw [Call.rawParameters, List.length_append, List.length_cons] at hlength
    exact absurd (List.length_eq_zero_iff.mp (by omega)) hsome

end TaggedSql.Query
