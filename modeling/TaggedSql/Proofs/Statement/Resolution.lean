/-
  Resolving the parameters of a statement.

  1. **Names** — a name fits when it has a value that converts to its type, and fails otherwise; no
     name does both, and streams that were read before make no difference (`fits_or_fails`).

  2. **Resolution** (`resolve_cases`) — the first name that fails decides the error.  When all names
     fit, each distinct name is coerced once, in the order in which the names come up, and every
     position gets the value of its name.

  3. **Relevance** (`resolve_congr`) — nothing else in the mapping is looked at.
-/
import TaggedSql.Statement

namespace TaggedSql.Statement

open TaggedSql.Coercion TaggedSql.Placeholder TaggedSql.Sql

variable {d : Dialect} {types : List (String × BindType)} {supplied : List (String × Value)}

/-! ## Names -/

/-- Whether a name has a value that converts to its type, whatever streams have been read. -/
def Fits (d : Dialect) (types : List (String × BindType)) (supplied : List (String × Value))
    (name : String) : Prop :=
  ∃ type v, types.lookup name = some type ∧ supplied.lookup name = some v ∧
    ∀ drained, ∃ w, coerce d drained type v = .ok w

/-- What goes wrong with a name at a position: it has no value, or one that does not convert to its
    type, whatever streams have been read. -/
inductive Fails (d : Dialect) (types : List (String × BindType)) (supplied : List (String × Value))
    (position : Nat) (name : String) : Error → Prop
  | missing (hv : supplied.lookup name = none) :
      Fails d types supplied position name (.missingParameter name position)
  | refused {type : BindType} {v : Value} {f : CoercionFault}
      (htype : types.lookup name = some type) (hv : supplied.lookup name = some v)
      (hf : ∀ drained, coerce d drained type v = .error f) :
      Fails d types supplied position name (errorOf name type f)

/-- Which streams have been read matters to what is bound, but not to whether it can be. -/
theorem coerce_error {drained : List Nat} {type : BindType} {v : Value} {f : CoercionFault}
    (h : coerce d drained type v = .error f) (drained' : List Nat) :
    coerce d drained' type v = .error f := by
  unfold coerce Readers.coerce at h ⊢
  split at h
  · cases h
  · next hnull =>
    rw [if_neg hnull]
    cases type with
    | blob =>
      cases v with
      | stream id content =>
        -- what cannot be read fails each time
        cases content with
        | unreadable kind shown failure => exact h
        | _ => cases h
      | _ => exact h
    | _ => exact h

/-- Every name that has a type fits or fails. -/
theorem fits_or_fails {name : String} {type : BindType} (htype : types.lookup name = some type)
    (supplied : List (String × Value)) (position : Nat) :
    Fits d types supplied name ∨ ∃ e, Fails d types supplied position name e := by
  cases hv : supplied.lookup name with
  | none => exact .inr ⟨_, .missing hv⟩
  | some v =>
    cases hw : coerce d [] type v with
    | error f => exact .inr ⟨_, .refused htype hv (coerce_error hw)⟩
    | ok w =>
      refine .inl ⟨type, v, htype, hv, fun drained => ?_⟩
      cases hdrained : coerce d drained type v with
      | ok w' => exact ⟨w', rfl⟩
      | error f => rw [coerce_error hdrained] at hw; cases hw

/-- A name that fits does not fail. -/
theorem Fits.not_fails {position : Nat} {name : String} {e : Error}
    (h : Fits d types supplied name) : ¬Fails d types supplied position name e := by
  obtain ⟨type, v, htype, hv, hconverts⟩ := h
  intro hfails
  cases hfails with
  | missing hnone => cases hv.symm.trans hnone
  | @refused type' v' f htype' hv' hf =>
    obtain rfl : type' = type := Option.some.inj (htype'.symm.trans htype)
    obtain rfl : v' = v := Option.some.inj (hv'.symm.trans hv)
    obtain ⟨w, hw⟩ := hconverts []
    cases hw.symm.trans (hf [])

/-! ## Resolution -/

/-- `Coerced d types supplied valueOf drained names drained'`: the values of the names are coerced
    one after the other to what `valueOf` says.  A stream that one of them reads yields nothing to
    those after it. -/
inductive Coerced (d : Dialect) (types : List (String × BindType))
    (supplied : List (String × Value)) (valueOf : String → Value) :
    List Nat → List String → List Nat → Prop
  | nil (drained : List Nat) : Coerced d types supplied valueOf drained [] drained
  | cons {drained drained' : List Nat} {name : String} {names : List String} {type : BindType}
      {v : Value} (htype : types.lookup name = some type) (hv : supplied.lookup name = some v)
      (hw : coerce d drained type v = .ok (valueOf name))
      (rest : Coerced d types supplied valueOf (v.drains type ++ drained) names drained') :
      Coerced d types supplied valueOf drained (name :: names) drained'

/-- The values for names at positions from `first` on. -/
def valuesAt (valueOf : String → Value) (typeOf : String → BindType) (first : Nat)
    (names : List String) : List BoundValue :=
  (names.zipIdx first).map fun p => ⟨p.2, valueOf p.1, typeOf p.1⟩

/-- The type that a statement asks for under a name. -/
def typeIn (types : List (String × BindType)) (name : String) : BindType :=
  (types.lookup name).getD .text

/-- The names that are not known yet, each once. -/
def newNames (known : List (String × Value)) (names : List String) : List String :=
  (names.filter fun name => (known.lookup name).isNone).eraseDups

theorem newNames_cons_known {known : List (String × Value)} {name : String} {v : Value}
    (h : known.lookup name = some v) (names : List String) :
    newNames known (name :: names) = newNames known names := by
  simp [newNames, h]

theorem newNames_cons_new {known : List (String × Value)} {name : String}
    (h : known.lookup name = none) (w : Value) (names : List String) :
    newNames known (name :: names) = name :: newNames ((name, w) :: known) names := by
  have hsame : (fun n => !n == name && (known.lookup n).isNone) =
      fun n => (((name, w) :: known).lookup n).isNone := by
    funext n
    by_cases hn : n = name
    · simp [hn]
    · simp [List.lookup_cons, beq_false_of_ne hn]
  simp only [newNames, List.filter_cons, h, Option.isNone_none, if_true, List.eraseDups_cons,
    List.filter_filter, hsame]

/-- `FailsAt d types supplied position names e`: the first of the names that fails, the names being
    at positions from `position` on, fails with the error. -/
def FailsAt (d : Dialect) (types : List (String × BindType)) (supplied : List (String × Value))
    (position : Nat) (names : List String) (e : Error) : Prop :=
  ∃ front name back, names = front ++ name :: back ∧ (∀ n ∈ front, Fits d types supplied n) ∧
    Fails d types supplied (position + front.length) name e

/-- `Yields d types supplied known drained position names r`: the names are resolved as `r` says, up
    to the first that fails if one does.  What is known of a name stays its value. -/
inductive Yields (d : Dialect) (types : List (String × BindType)) (supplied : List (String × Value))
    (known : List (String × Value)) (drained : List Nat) (position : Nat) (names : List String) :
    Except Error (List BoundValue) × List Nat → Prop
  | error {e : Error} {drained' : List Nat} (he : FailsAt d types supplied position names e) :
      Yields d types supplied known drained position names (.error e, drained')
  | ok {valueOf : String → Value} {drained' : List Nat}
      (hall : ∀ n ∈ names, Fits d types supplied n)
      (hvalueOf : ∀ n w, known.lookup n = some w → valueOf n = w)
      (hcoerced : Coerced d types supplied valueOf drained (newNames known names) drained') :
      Yields d types supplied known drained position names
        (.ok (valuesAt valueOf (typeIn types) position names), drained')

theorem FailsAt.cons {position : Nat} {name : String} {names : List String} {e : Error}
    (hfits : Fits d types supplied name) (h : FailsAt d types supplied (position + 1) names e) :
    FailsAt d types supplied position (name :: names) e := by
  obtain ⟨front, n, back, rfl, hfront, hfails⟩ := h
  refine ⟨name :: front, n, back, rfl, List.forall_mem_cons.mpr ⟨hfits, hfront⟩, ?_⟩
  rwa [List.length_cons, ← Nat.add_assoc, Nat.add_right_comm]

/-- A name that is known gets the value that it has. -/
theorem Yields.cons_known {known : List (String × Value)} {drained : List Nat} {position : Nat}
    {name : String} {v : Value} {names : List String}
    {r : Except Error (List BoundValue) × List Nat} (hk : known.lookup name = some v)
    (hfits : Fits d types supplied name)
    (h : Yields d types supplied known drained (position + 1) names r) :
    Yields d types supplied known drained position (name :: names)
      (r.1.map (⟨position, v, typeIn types name⟩ :: ·), r.2) := by
  cases h with
  | error he => exact .error (he.cons hfits)
  | ok hall hvalueOf hcoerced =>
    rw [← newNames_cons_known hk] at hcoerced
    rw [← hvalueOf name v hk]
    exact .ok (List.forall_mem_cons.mpr ⟨hfits, hall⟩) hvalueOf hcoerced

/-- A name that is not known is coerced, and known from there on. -/
theorem Yields.cons_new {known : List (String × Value)} {drained : List Nat} {position : Nat}
    {name : String} {names : List String} {type : BindType} {v w : Value}
    {r : Except Error (List BoundValue) × List Nat} (hk : known.lookup name = none)
    (htype : types.lookup name = some type) (hv : supplied.lookup name = some v)
    (hw : coerce d drained type v = .ok w) (hfits : Fits d types supplied name)
    (h : Yields d types supplied ((name, w) :: known) (v.drains type ++ drained) (position + 1)
      names r) :
    Yields d types supplied known drained position (name :: names)
      (r.1.map (⟨position, w, type⟩ :: ·), r.2) := by
  cases h with
  | error he => exact .error (he.cons hfits)
  | @ok valueOf _ hall hvalueOf hcoerced =>
    have hname : valueOf name = w := hvalueOf name w (by simp)
    have hbefore : ∀ n x, known.lookup n = some x → valueOf n = x := by
      intro n x hn
      have hne : n ≠ name := by
        rintro rfl
        rw [hk] at hn
        cases hn
      refine hvalueOf n x ?_
      rwa [List.lookup_cons, beq_false_of_ne hne]
    have hfirst := Coerced.cons htype hv (by rw [hw, hname]) hcoerced
    rw [← newNames_cons_new hk w] at hfirst
    have htypeIn : typeIn types name = type := by rw [typeIn, htype, Option.getD_some]
    rw [← hname, ← htypeIn]
    exact .ok (List.forall_mem_cons.mpr ⟨hfits, hall⟩) hbefore hfirst

/-- **What resolving does**, with some names already known. -/
theorem yields_resolveFrom {names : List String}
    (htypes : ∀ name ∈ names, ∃ type, types.lookup name = some type)
    (known : List (String × Value))
    (hknown : ∀ n w, known.lookup n = some w → Fits d types supplied n)
    (drained : List Nat) (position : Nat) :
    Yields d types supplied known drained position names
      (resolveFrom d types supplied known drained position names) := by
  -- on the names; what is known grows, and what is coerced later agrees with it
  induction names generalizing known drained position with
  | nil =>
    have hvalueOf : ∀ n w, known.lookup n = some w → (known.lookup n).getD .null = w := by
      intro n w hn
      rw [hn, Option.getD_some]
    exact .ok (by simp) hvalueOf (.nil drained)
  | cons name names ih =>
    obtain ⟨type, htype⟩ := htypes name List.mem_cons_self
    have htypes' : ∀ n ∈ names, ∃ type, types.lookup n = some type :=
      fun n hn => htypes n (List.mem_cons_of_mem name hn)
    have hgetD : (types.lookup name).getD .text = type := by rw [htype, Option.getD_some]
    cases hk : known.lookup name with
    | some v =>
      simp only [resolveFrom, hk]
      exact .cons_known hk (hknown name v hk) (ih htypes' known hknown drained (position + 1))
    | none =>
      rcases fits_or_fails (d := d) htype supplied position with hfits | ⟨e, hfails⟩
      · obtain ⟨type', v, htype', hv, hconverts⟩ := id hfits
        obtain rfl : type' = type := Option.some.inj (htype'.symm.trans htype)
        obtain ⟨w, hw⟩ := hconverts drained
        simp only [resolveFrom, hk, hv, hgetD, hw]
        have hknown' : ∀ n x, ((name, w) :: known).lookup n = some x → Fits d types supplied n := by
          intro n x hn
          by_cases hname : n = name
          · rwa [hname]
          · rw [List.lookup_cons, beq_false_of_ne hname] at hn
            exact hknown n x hn
        exact .cons_new hk htype hv hw hfits (ih htypes' _ hknown' _ _)
      · have hfirst : FailsAt d types supplied position (name :: names) e :=
          ⟨[], name, names, rfl, by simp, hfails⟩
        cases hfails with
        | missing hv =>
          simp only [resolveFrom, hk, hv]
          exact .error hfirst
        | @refused type' v f htype' hv hf =>
          obtain rfl : type' = type := Option.some.inj (htype'.symm.trans htype)
          simp only [resolveFrom, hk, hv, hgetD, hf]
          exact .error hfirst

/-- **What resolving does.**  The first name that fails decides the error; when all names fit, each
    is coerced once and every position gets the value of its name. -/
theorem resolve_cases {c : Compiled}
    (htypes : ∀ name ∈ c.names, ∃ type, c.types.lookup name = some type)
    (d : Dialect) (supplied : List (String × Value)) (drained : List Nat) :
    (∃ front name back e, c.names = front ++ name :: back ∧
        (∀ n ∈ front, Fits d c.types supplied n) ∧
        Fails d c.types supplied (front.length + 1) name e ∧
        (resolve d c supplied drained).1 = .error e) ∨
      ((∀ n ∈ c.names, Fits d c.types supplied n) ∧
        ∃ valueOf, Coerced d c.types supplied valueOf drained c.names.eraseDups
            (resolve d c supplied drained).2 ∧
          (resolve d c supplied drained).1 =
            .ok (valuesAt valueOf (typeIn c.types) 1 c.names)) := by
  have hyields : Yields d c.types supplied [] drained 1 c.names (resolve d c supplied drained) :=
    yields_resolveFrom htypes [] (by simp) drained 1
  have hnew : newNames [] c.names = c.names.eraseDups :=
    congrArg List.eraseDups (List.filter_eq_self.mpr fun _ _ => rfl)
  generalize resolve d c supplied drained = r at hyields
  cases hyields with
  | error he =>
    obtain ⟨front, name, back, hnames, hfront, hfails⟩ := he
    exact .inl ⟨front, name, back, _, hnames, hfront, by rwa [Nat.add_comm], rfl⟩
  | ok hall hvalueOf hcoerced =>
    rw [hnew] at hcoerced
    exact .inr ⟨hall, _, hcoerced, rfl⟩

/-! ## Relevance -/

theorem resolveFrom_congr {names : List String} {supplied' : List (String × Value)}
    (h : ∀ n ∈ names, supplied'.lookup n = supplied.lookup n) (known : List (String × Value))
    (drained : List Nat) (position : Nat) :
    resolveFrom d types supplied' known drained position names =
      resolveFrom d types supplied known drained position names := by
  induction names generalizing known drained position with
  | nil => rfl
  | cons name names ih =>
    have hrest := ih fun n hn => h n (List.mem_cons_of_mem name hn)
    simp only [resolveFrom, h name List.mem_cons_self, hrest]

/-- **Only the values of the statement's names matter.** -/
theorem resolve_congr {c : Compiled} {supplied' : List (String × Value)}
    (h : ∀ n ∈ c.names, supplied'.lookup n = supplied.lookup n) (d : Dialect) (drained : List Nat) :
    resolve d c supplied' drained = resolve d c supplied drained :=
  resolveFrom_congr h [] drained 1

/-! ## Compiled statements -/

/-- Every name of a compiled statement has a type. -/
theorem exists_type_of_compile {o : CompileOptions} {sql : String} {c : Compiled}
    (h : (compile o sql).outcome = .ok c) {name : String} (hname : name ∈ c.names) :
    ∃ type, c.types.lookup name = some type := by
  obtain rfl := eq_compiled_of_outcome h
  obtain ⟨⟨n, type⟩, hp, rfl⟩ := List.mem_map.mp hname
  rw [Placeholder.compiled, lookup_keepFirst]
  cases hlookup : (parameters (lex o.lexing sql.toList)).lookup n with
  | some type => exact ⟨type, rfl⟩
  | none => exact absurd (List.lookup_eq_none_iff.mp hlookup (n, type) hp) (by simp)

end TaggedSql.Statement
