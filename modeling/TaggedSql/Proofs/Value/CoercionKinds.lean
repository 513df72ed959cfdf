/-
  What a coercion comes to.

  A bind type asks for values of one kind, and a value that cannot be turned into that kind is
  refused under the name of its parameter.  This is about every value, type and dialect, and about
  all readers that yield what they are asked for.

  1. **Kinds** (`BindType.Binds`) — what each type binds, and how a conversion that has no more to
     it may end (`Ends`): with such a value, or with the refusal of the value it looked at
     (`Value.subject`), which takes a text of that value.

  2. **Escapes** (`Value.Escapes`) — what a refusal does not cover: a timestamp without a date in
     UTC, and texts and streams without bytes.

  3. **Conversions** (`convert_ends`) — every other conversion ends so.  Read as an integer, a
     constant may be bound as whatever it holds.

  4. **The statement** (`coercion_ends`) — an escape ends in an error that names no parameter.
     Every other coercion binds a value of its type's kind, the absent value exactly for the
     absent value, or refuses the value under the given name, if the value can be shown.

  5. **The standard readers** (`escapes_standard_iff`) — with them, only a timestamp with an
     offset, or a text that spells one, has no date in UTC: days and counts of seconds have one.
-/
import TaggedSql.Proofs.Value.Readers
import TaggedSql.Statement

namespace TaggedSql

open TaggedSql.Calendar TaggedSql.Sql TaggedSql.Coercion

/-! ## Kinds -/

/-- The kind of values that a type binds.  Timestamps and times are bound as texts. -/
inductive BindType.Binds : BindType → Value → Prop
  | text (s : String) : Binds .text (.text s)
  | illFormed (s : Text.IllFormed) : Binds .text (.illFormed s)
  | int (n : Int) : Binds .int (.int n)
  | float (x : Number.Binary64) : Binds .float (.float x)
  | bool (b : Bool) : Binds .bool (.bool b)
  | blob (bytes : List UInt8) : Binds .blob (.blob .bytes bytes)
  | timestamp (s : String) : Binds .timestamp (.text s)
  | time (s : String) : Binds .time (.text s)

theorem BindType.Binds.ne_null {type : BindType} {w : Value} (h : type.Binds w) : w ≠ .null := by
  rintro rfl
  cases h

/-- What a chain of constants holds in the end. -/
def Value.held : Value → Value
  | .constant _ v => v.held
  | v => v

/-- The value that a conversion under the type looks at, and that its refusal shows. -/
def Value.subject (type : BindType) (v : Value) : Value :=
  match type with
  | .text => v.held
  | .timestamp => atMidnight v
  | .time => timeOfDay v
  | .int | .float | .bool | .blob => v

namespace Coercion

/-- How a conversion that looks at `u` may end: the refusal shows `u`, which takes a text of it. -/
inductive Ends (type : BindType) (u : Value) : Except CoercionFault Value → Prop
  | bound {w : Value} (h : type.Binds w) : Ends type u (.ok w)
  | refused {shown : String} (h : u.display? = some shown) (cause : Option CoercionCause) :
      Ends type u (.error (.refused u shown cause))
  | unwritable (h : u.display? = none) : Ends type u (.error .unwritable)

/-- A refusal shows the value if a text can be made of it. -/
theorem refusal_ends (type : BindType) (u : Value) (cause : Option CoercionCause) :
    Ends type u (.error (refusal u cause)) := by
  unfold refusal
  cases h : u.display? with
  | some shown => exact .refused h cause
  | none => exact .unwritable h

/-- A reader that yields the kind of the type ends in a value of that kind or in a refusal. -/
theorem orRefuse_ends {type : BindType} {o : Option Value} (h : ∀ w, o = some w → type.Binds w)
    (u : Value) : Ends type u (orRefuse u o) := by
  cases o with
  | none => exact refusal_ends _ _ _
  | some w => exact .bound (h w rfl)

theorem orRefuse_map_ends {α : Type} {type : BindType} {f : α → Value}
    (h : ∀ x, type.Binds (f x)) (o : Option α) (u : Value) :
    Ends type u (orRefuse u (o.map f)) := by
  refine orRefuse_ends ?_ u
  intro w hw
  obtain ⟨x, -, rfl⟩ := Option.map_eq_some_iff.mp hw
  exact h x

/-- A value without a plain text is no constant, and cannot be displayed either. -/
theorem held_of_plain?_eq_none {v : Value} (h : v.plain? = none) :
    v.held = v ∧ v.display? = none := by
  cases v with
  | text | illFormed | decimal | date | time | timestamp | uuid | constant | raw => cases h
  | _ => exact ⟨rfl, h⟩

end Coercion

/-! ## Escapes -/

/-- `v.Escapes r d type f`: under the type, the value is neither bound nor refused but fails as `f`
    says, which names no parameter.  A timestamp escapes when a dialect moves it out of the
    calendar; for bytes, a text with a lone surrogate and a stream that cannot be read escape. -/
inductive Value.Escapes (r : Readers) (d : Dialect) : BindType → Value → CoercionFault → Prop
  | outOfCalendar {v : Value} {t : Timestamp} (hv : v ≠ .null) (hd : d ≠ .postgres)
      (hread : r.timestamp (atMidnight v) = some t) (hutc : t.toUtc? = none) :
      Escapes r d .timestamp v .outOfCalendar
  | unencodable (s : Text.IllFormed) : Escapes r d .blob (.illFormed s) .unencodable
  | unread (id : Nat) (kind shown : String) (failure : ReadFailure) :
      Escapes r d .blob (.stream id (.unreadable kind shown failure)) (ofFailure failure)

namespace Calendar.Timestamp

/-- A count from 1970 is in UTC already. -/
theorem exists_toUtc?_of_ofEpoch? {n : Int} {t : Timestamp} (h : ofEpoch? n = some t) :
    ∃ u, t.toUtc? = some u := by
  obtain ⟨day, -, rfl⟩ := Option.map_eq_some_iff.mp h
  have hrest : (n - Int.fdiv n 86400000000 * 86400000000).toNat < 86400000000 := by
    rw [Int.fdiv_eq_ediv_of_nonneg _ (by decide)]
    omega
  generalize (n - Int.fdiv n 86400000000 * 86400000000).toNat = rest at hrest
  have hinstant : (Clock.ofMicrosecond rest (some .utc)).instant = rest := by
    rw [Clock.instant, Clock.microsecondOfDay_ofMicrosecond]
    exact sub_zero _
  have hbefore : ¬(rest : Int) < 0 := by omega
  have hafter : ¬86400000000 ≤ (rest : Int) := by omega
  have hoffset : (Clock.ofMicrosecond rest (some .utc)).offset = some .utc := rfl
  simp only [toUtc?, hoffset, hinstant, if_neg hbefore, if_neg hafter]
  exact ⟨_, rfl⟩

/-- A timestamp of a dialect that keeps offsets, or one with a date in UTC, has a text. -/
theorem exists_timestampText? {d : Dialect} {t : Timestamp} (h : d = .postgres ∨ t.toUtc? ≠ none) :
    ∃ s, d.timestampText? t = some s := by
  cases d with
  | postgres => exact ⟨t.text, rfl⟩
  | _ =>
    obtain ⟨u, hu⟩ := Option.ne_none_iff_exists'.mp (h.resolve_left nofun)
    rw [Dialect.timestampText?, hu]
    exact ⟨_, rfl⟩

/-- A timestamp without a date in UTC has no text where offsets are not kept. -/
theorem timestampText?_of_toUtc? {d : Dialect} (hd : d ≠ .postgres) {t : Timestamp}
    (h : t.toUtc? = none) : d.timestampText? t = none := by
  cases d with
  | postgres => exact absurd rfl hd
  | _ => rw [Dialect.timestampText?, h]; rfl

end Calendar.Timestamp

namespace Coercion

variable {r : Readers} {d : Dialect} {drained : List Nat} {type : BindType} {v : Value}

/-- What escapes fails. -/
theorem convert_of_escapes {f : CoercionFault} (h : v.Escapes r d type f) :
    convert r d drained type v = .error f := by
  cases h with
  | outOfCalendar hv hd hread hutc =>
    simp only [convert, toTimestampText, hread, Timestamp.timestampText?_of_toUtc? hd hutc]
  | unencodable s => rfl
  | unread id kind shown failure => rfl

/-! ## Conversions -/

theorem toText_ends (v : Value) : Ends .text v.held (toText v) := by
  fun_induction toText v with
  | case1 s => exact .bound (.text s)
  | case2 s => exact .bound (.illFormed s)
  | case3 m v ih => exact ih
  | case4 kind bytes s _ => exact .bound (.text s)
  | case5 kind bytes _ => exact refusal_ends _ _ _
  | case6 kind items => exact refusal_ends _ _ _
  | case7 entries => exact refusal_ends _ _ _
  | case8 v => exact .bound (.text _)
  | case9 v _ _ _ _ _ _ hplain =>
    obtain ⟨hheld, hdisplay⟩ := held_of_plain?_eq_none hplain
    rw [hheld]
    exact .unwritable hdisplay

theorem toBlob_ends (hescapes : ∀ f, ¬v.Escapes r d .blob f) :
    Ends .blob v (toBlob drained v) := by
  cases v with
  | blob kind bytes => exact .bound (.blob _)
  | text s => exact .bound (.blob _)
  | illFormed s => exact absurd (.unencodable s) (hescapes _)
  | stream id content =>
    cases content with
    | text s => exact .bound (.blob _)
    | bytes bs => exact .bound (.blob _)
    | unreadable kind shown failure => exact absurd (.unread id kind shown failure) (hescapes _)
  | _ => exact refusal_ends _ _ _

/-- What is read as an integer is bound as one, or is what a constant holds. -/
theorem readInt_ends (hr : r.YieldsTargets) (v : Value) :
    Ends .int v (orRefuse v (r.int v)) ∨
      ∃ m w, v = .constant m w ∧ orRefuse v (r.int v) = .ok w := by
  cases hread : r.int v with
  | none => exact .inl (refusal_ends _ _ _)
  | some w =>
    rcases hr.int hread with ⟨n, rfl⟩ | ⟨m, hconstant⟩
    · exact .inl (.bound (.int n))
    · exact .inr ⟨m, w, hconstant, rfl⟩

/-- A timestamp that stays in the calendar is bound as its text. -/
theorem toTimestampText_ends (hv : v ≠ .null) (hescapes : ∀ f, ¬v.Escapes r d .timestamp f) :
    Ends .timestamp (atMidnight v) (toTimestampText r d v) := by
  simp only [toTimestampText]
  cases hread : r.timestamp (atMidnight v) with
  | none => exact refusal_ends _ _ _
  | some t =>
    have hkept : d = .postgres ∨ t.toUtc? ≠ none := by
      by_contra hnone
      obtain ⟨hd, hutc⟩ := not_or.mp hnone
      exact hescapes _ (.outOfCalendar hv hd hread (not_not.mp hutc))
    obtain ⟨s, hs⟩ := Timestamp.exists_timestampText? hkept
    simp only [hs]
    exact .bound (.timestamp s)

/-- **Conversions.**  One case for each type. -/
theorem convert_ends (hr : r.YieldsTargets) (d : Dialect) (drained : List Nat) (hv : v ≠ .null)
    (hescapes : ∀ f, ¬v.Escapes r d type f) :
    Ends type (v.subject type) (convert r d drained type v) ∨
      ∃ m w, type = .int ∧ v = .constant m w ∧ convert r d drained type v = .ok w := by
  cases type with
  | text => exact .inl (toText_ends v)
  | blob => exact .inl (toBlob_ends hescapes)
  | int =>
    rcases readInt_ends hr v with hends | ⟨m, w, hconstant, hread⟩
    · exact .inl hends
    · exact .inr ⟨m, w, rfl, hconstant, hread⟩
  | float => exact .inl (orRefuse_map_ends .float _ v)
  | bool => exact .inl (orRefuse_map_ends .bool _ v)
  | timestamp => exact .inl (toTimestampText_ends hv hescapes)
  | time => exact .inl (orRefuse_map_ends (fun t => .time (d.timeText t)) _ (timeOfDay v))

/-- The absent value apart, to coerce is to convert. -/
theorem coerce_eq_convert (r : Readers) (d : Dialect) (drained : List Nat) (type : BindType)
    (h : v ≠ .null) : r.coerce d drained type v = convert r d drained type v := by
  cases v with
  | null => exact absurd rfl h
  | _ => rfl

end Coercion

/-! ## The statement -/

/-- How a conversion that ends so is reported under the name of its parameter. -/
theorem Coercion.Ends.named {type : BindType} {u : Value} {r : Except CoercionFault Value}
    (h : Ends type u r) (name : String) :
    (∃ w, r.mapError (Statement.errorOf name type) = .ok w ∧ type.Binds w) ∨
      (∃ shown cause, u.display? = some shown ∧
        r.mapError (Statement.errorOf name type) = .error (.refused name type u shown cause)) ∨
      u.display? = none ∧ r.mapError (Statement.errorOf name type) = .error .unwritable := by
  cases h with
  | bound h => exact .inl ⟨_, rfl, h⟩
  | refused h cause => exact .inr (.inl ⟨_, cause, h, rfl⟩)
  | unwritable h => exact .inr (.inr ⟨h, rfl⟩)

/-- **What a coercion comes to.**  A timestamp that leaves the calendar in UTC, and a text or a
    stream without bytes, ends in an error that carries no name.  Every other coercion yields the
    absent value for the absent value and a value of the kind that the type binds for any other,
    or refuses the value under the name of its parameter.  A refusal shows the value, so one that
    holds an integer too long to be written ends in an error without a name as well; and what a
    constant holds may be bound as an integer unseen. -/
theorem coercion_ends {r : Readers} (hr : r.YieldsTargets) (d : Dialect) (drained : List Nat)
    (name : String) (type : BindType) (v : Value) :
    let outcome := (r.coerce d drained type v).mapError (Statement.errorOf name type)
    (∃ f, v.Escapes r d type f ∧ outcome = .error (Statement.errorOf name type f)) ∨
      (∀ f, ¬v.Escapes r d type f) ∧
        ((∃ w, outcome = .ok w ∧
            (v = .null ∧ w = .null ∨ v ≠ .null ∧ w ≠ .null ∧ type.Binds w)) ∨
          (∃ shown cause, (v.subject type).display? = some shown ∧
            outcome = .error (.refused name type (v.subject type) shown cause)) ∨
          (v.subject type).display? = none ∧ outcome = .error .unwritable ∨
          ∃ m w, type = .int ∧ v = .constant m w ∧ outcome = .ok w) := by
  intro outcome
  by_cases hnull : v = .null
  · subst hnull
    refine .inr ⟨fun f hescapes => ?_, .inl ⟨.null, rfl, .inl ⟨rfl, rfl⟩⟩⟩
    cases hescapes with
    | outOfCalendar hv => exact hv rfl
  have hconvert : outcome = _ := congrArg (Except.mapError (Statement.errorOf name type))
    (coerce_eq_convert r d drained type hnull)
  by_cases hescapes : ∃ f, v.Escapes r d type f
  · obtain ⟨f, hf⟩ := hescapes
    exact .inl ⟨f, hf, by rw [hconvert, convert_of_escapes hf]; rfl⟩
  · have hnone : ∀ f, ¬v.Escapes r d type f := fun f hf => hescapes ⟨f, hf⟩
    refine .inr ⟨hnone, ?_⟩
    rw [hconvert]
    rcases convert_ends hr d drained hnull hnone with
      hends | ⟨m, w, htype, hconstant, hread⟩
    · rcases hends.named name with ⟨w, hw, hbinds⟩ | hrefused | hunwritable
      · exact .inl ⟨w, hw, .inr ⟨hnull, hbinds.ne_null, hbinds⟩⟩
      · exact .inr (.inl hrefused)
      · exact .inr (.inr (.inl hunwritable))
    · exact .inr (.inr (.inr ⟨m, w, htype, hconstant, by rw [hread]; rfl⟩))

/-- Under the standard readers, a text that spells no integer is refused under its name. -/
theorem forty_two_is_refused :
    let v : Value := .text "forty-two"
    Readers.standard.YieldsTargets ∧ (∀ f, ¬v.Escapes Readers.standard .ansi .int f) ∧
      ∃ shown cause, v.display? = some shown ∧
        (coerce .ansi [] .int v).mapError (Statement.errorOf "p" .int) =
          .error (.refused "p" .int v shown cause) := by
  intro v
  rcases coercion_ends Readers.yieldsTargets_standard .ansi [] "p" .int v with
    ⟨f, hf, -⟩ | ⟨hnone, ⟨w, hw, -⟩ | hrefused | ⟨hshown, -⟩ | ⟨m, w, -, hv, -⟩⟩
  · cases hf
  · cases hw
  · exact ⟨Readers.yieldsTargets_standard, hnone, hrefused⟩
  · cases hshown
  · have hkinds : Value.text "forty-two" = .constant m w := hv
    cases hkinds

/-- The last second of the calendar, an hour behind UTC, is neither bound nor refused under its
    name. -/
theorem last_second_leaves_calendar :
    let v : Value := .timestamp ⟨⟨9999, 12, 31⟩, ⟨23, 59, 59, 0, some (.ofSeconds (-3600))⟩⟩
    let outcome := (coerce .ansi [] .timestamp v).mapError (Statement.errorOf "p" .timestamp)
    (∀ w, outcome ≠ .ok w) ∧
      ∀ type u shown cause, outcome ≠ .error (.refused "p" type u shown cause) := by
  intro v outcome
  have houtcome : outcome = .error .outOfCalendar := rfl
  rw [houtcome]
  exact ⟨nofun, nofun⟩

/-! ## The standard readers -/

/-- Whether a value is a timestamp, or a text that spells it in full. -/
inductive Value.Spells : Value → Timestamp → Prop
  | timestamp (t : Timestamp) : Spells (.timestamp t) t
  | text {v : Value} {s : List Char} {t : Timestamp} (htext : textOf? v = some s)
      (hread : Timestamp.read? s = some t) : Spells v t

namespace Coercion

/-- What is read off a count of seconds has a date in UTC. -/
theorem exists_toUtc?_of_count {c : Count} {t : Timestamp} (h : c.timestamp? = some t) :
    ∃ u, t.toUtc? = some u :=
  Timestamp.exists_toUtc?_of_ofEpoch? h

/-- A value that spells a timestamp is read as it. -/
theorem readTimestamp?_of_spells {v : Value} {t : Timestamp} (h : v.Spells t) :
    readTimestamp? (atMidnight v) = some t := by
  cases h with
  | timestamp t => rfl
  | text htext hread =>
    cases v with
    | text s =>
      obtain rfl := Option.some.inj htext
      simp [atMidnight, readTimestamp?, Count.ofValue?, textOf?, readTimestampText?, hread]
    | blob kind bytes =>
      simp [atMidnight, readTimestamp?, Count.ofValue?, htext, readTimestampText?, hread]
    | _ => cases htext

/-- What is read as a timestamp without being spelled as one has a date in UTC. -/
theorem exists_toUtc?_of_read {v : Value} {t : Timestamp}
    (h : readTimestamp? (atMidnight v) = some t) : v.Spells t ∨ ∃ u, t.toUtc? = some u := by
  have htext : ∀ s, textOf? v = some s → readTimestampText? s = some t →
      v.Spells t ∨ ∃ u, t.toUtc? = some u := by
    intro s hs hread
    rcases Option.or_eq_some_iff.mp hread with hread | ⟨-, hcount⟩
    · exact .inl (.text hs hread)
    · obtain ⟨c, -, hc⟩ := Option.bind_eq_some_iff.mp hcount
      exact .inr (exists_toUtc?_of_count hc)
  cases v with
  | timestamp u =>
    obtain rfl : u = t := Option.some.inj h
    exact .inl (.timestamp u)
  | date day =>
    -- midnight is no offset away from UTC
    obtain rfl : ⟨day, .midnight⟩ = t := Option.some.inj h
    exact .inr ⟨_, rfl⟩
  | text s => exact htext _ rfl h
  | blob kind bytes =>
    obtain ⟨s, hs, hread⟩ := Option.bind_eq_some_iff.mp h
    exact htext s hs hread
  | int n => exact .inr (exists_toUtc?_of_count h)
  | float x =>
    cases hx : Count.ofDouble? x with
    | none => simp [atMidnight, readTimestamp?, Count.ofValue?, hx, textOf?] at h
    | some c =>
      simp only [atMidnight, readTimestamp?, Count.ofValue?, hx] at h
      exact .inr (exists_toUtc?_of_count h)
  | decimal x =>
    cases hx : Count.ofValue? (.decimal x) with
    | none => simp [atMidnight, readTimestamp?, hx, textOf?] at h
    | some c =>
      simp only [atMidnight, readTimestamp?, hx] at h
      exact .inr (exists_toUtc?_of_count h)
  | _ => cases h

/-- **With the standard readers**, a timestamp escapes when it is given or spelled in full and has
    no date in UTC. -/
theorem escapes_standard_iff {d : Dialect} {v : Value} :
    v.Escapes Readers.standard d .timestamp .outOfCalendar ↔
      d ≠ .postgres ∧ ∃ t, v.Spells t ∧ t.toUtc? = none := by
  constructor
  · intro h
    cases h with
    | @outOfCalendar _ t hv hd hread hutc =>
      rcases exists_toUtc?_of_read hread with hspells | ⟨u, hu⟩
      · exact ⟨hd, t, hspells, hutc⟩
      · cases hutc.symm.trans hu
  · rintro ⟨hd, t, hspells, hutc⟩
    refine .outOfCalendar ?_ hd (readTimestamp?_of_spells hspells) hutc
    rintro rfl
    cases hspells with
    | text htext hread => cases htext

end Coercion

end TaggedSql
