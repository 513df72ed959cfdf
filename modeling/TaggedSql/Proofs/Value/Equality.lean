/-
  Equality of values is transitive.

  1. **Atoms** — a value that holds no others has a content, and two such values are the same when
     they have one content (`same_atom`).  All numbers have their number for content, whatever
     their kind, and a named constant the member that it is; a not-a-number has none and is the same
     as nothing.

  2. **Collections and mappings** — sequences agree item by item; sets and mappings of one size
     agree when what is in the first is in the second.  Each reads as a statement about members
     (`allIn_iff`, `allEntriesIn_iff`).

  3. **Transitivity** (`same_trans`) — by recursion on the first value, as `same` itself recurses.
-/
import TaggedSql.Value.Equality

namespace TaggedSql.Value

open TaggedSql.Number

/-! ## Atoms -/

/-- The one form of a number that others are compared with; none for a not-a-number. -/
def Magnitude.canonical? : Magnitude → Option Magnitude
  | .finite x => some (.finite x.canonical)
  | .infinite negative => some (.infinite negative)
  | .unordered => none

/-- What an atom holds, up to equality. -/
inductive Content where
  | null
  | text (s : String)
  | illFormed (s : Text.IllFormed)
  | blob (bytes : List UInt8)
  | date (d : Calendar.Date)
  | time (aware : Bool) (comparand : Int)
  | timestamp (aware : Bool) (instant : Int)
  | uuid (digits : String)
  | constant (member : Member)
  | raw (sql : String)
  | stream (id : Nat)
  | number (m : Magnitude)

/-- The content of a number. -/
def number? (v : Value) : Option Content :=
  (v.magnitude?.bind Magnitude.canonical?).map .number

/-- The content of an atom, none when it is not the same as itself. -/
def content? : Value → Option Content
  | .null => some .null
  | .text s => some (.text s)
  | .illFormed s => some (.illFormed s)
  | .blob _ bytes => some (.blob bytes)
  | .date d => some (.date d)
  | .time t => some (.time t.offset.isSome t.comparand)
  | .timestamp t => some (.timestamp t.clock.offset.isSome t.instant)
  | .uuid digits => some (.uuid digits)
  | .constant member _ => some (.constant member)
  | .raw sql => some (.raw sql)
  | .stream id _ => some (.stream id)
  | v => v.number?

/-- Whether a value holds others. -/
def isCompound : Value → Bool
  | .collection .. | .mapping _ => true
  | _ => false

theorem Magnitude.same_iff (a b : Magnitude) :
    a.same b ↔ a.canonical?.isSome ∧ b.canonical? = a.canonical? := by
  cases a <;> cases b <;> simp [Magnitude.same, Magnitude.canonical?, Scientific.same] <;>
    exact eq_comm

/-- Numbers are the same when they have one content. -/
theorem sameNumber_iff (v w : Value) :
    sameNumber v w ↔ v.number?.isSome ∧ w.number? = v.number? := by
  unfold sameNumber number?
  cases hv : v.magnitude? with
  | none => simp
  | some a =>
    cases hw : w.magnitude? with
    | none => cases ha : a.canonical? <;> simp [ha]
    | some b =>
      show a.same b ↔ _
      rw [Magnitude.same_iff]
      cases ha : a.canonical? <;> cases hb : b.canonical? <;> simp [ha, hb]

theorem content?_of_magnitude? {v : Value} {m : Magnitude} (h : v.magnitude? = some m) :
    v.content? = v.number? := by
  cases v <;> first | rfl | cases h

/-- What is no number has not the content of one. -/
theorem content?_ne_number? {v w : Value} (h : v.magnitude? = none) (hw : w.number?.isSome) :
    v.content? ≠ w.number? := by
  obtain ⟨c, hc⟩ := Option.isSome_iff_exists.mp hw
  obtain ⟨m, -, rfl⟩ := Option.map_eq_some_iff.mp hc
  rw [hc]
  cases v <;> simp_all [content?, number?, magnitude?]

/-- A number is compared as a number, whatever with. -/
theorem same_of_magnitude? {v w : Value} (h : v.magnitude?.isSome ∨ w.magnitude?.isSome) :
    v.same w = sameNumber v w := by
  rcases h with h | h
  · cases v with
    | bool b => cases w <;> rw [same] <;> simp
    | int n => cases w <;> rw [same] <;> simp
    | float x => cases w <;> rw [same] <;> simp
    | decimal d => cases w <;> rw [same] <;> simp
    | _ => cases h
  · cases w with
    | bool b => cases v <;> rw [same] <;> simp
    | int n => cases v <;> rw [same] <;> simp
    | float x => cases v <;> rw [same] <;> simp
    | decimal d => cases v <;> rw [same] <;> simp
    | _ => cases h

/-- **Atoms are the same when they have one content.** -/
theorem same_atom {v : Value} (h : v.isCompound = false) (w : Value) :
    v.same w ↔ v.content?.isSome ∧ w.content? = v.content? := by
  cases hv : v.magnitude? with
  | some m =>
    rw [same_of_magnitude? (Or.inl (by rw [hv]; rfl)), sameNumber_iff, content?_of_magnitude? hv]
    cases hw : w.magnitude? with
    | some n => rw [content?_of_magnitude? hw]
    | none =>
      constructor
      · rintro ⟨hsome, heq⟩
        rw [← heq, number?, hw] at hsome
        cases hsome
      · rintro ⟨hsome, heq⟩
        exact absurd heq (content?_ne_number? hw hsome)
  | none =>
    cases hw : w.magnitude? with
    | some n =>
      rw [same_of_magnitude? (Or.inr (by rw [hw]; rfl)), sameNumber_iff, content?_of_magnitude? hw]
      constructor
      · rintro ⟨hsome, -⟩
        rw [number?, hv] at hsome
        cases hsome
      · rintro ⟨hsome, heq⟩
        rw [← heq] at hsome
        exact absurd heq.symm (content?_ne_number? hv hsome)
    | none =>
      have hsides : sameNumber v w = false := by simp [sameNumber, hv]
      have hnone : w.number? = none := by
        rw [number?, hw]
        rfl
      cases v with
      | collection kind items => cases h
      | mapping entries => cases h
      | null => cases w <;> simp_all [same, content?]
      | text s =>
        cases w <;> simp_all [same, content?]
        exact eq_comm
      | illFormed s =>
        cases w <;> simp_all [same, content?]
        exact eq_comm
      | constant member v =>
        cases w <;> simp_all [same, content?]
        exact eq_comm
      | blob kind bytes =>
        cases w <;> simp_all [same, content?]
        exact eq_comm
      | date d =>
        cases w <;> simp_all [same, content?]
        exact eq_comm
      | time t =>
        cases w <;> simp_all [same, content?, Calendar.Clock.same]
        exact and_congr eq_comm eq_comm
      | timestamp t =>
        cases w <;> simp_all [same, content?, Calendar.Timestamp.same]
        exact and_congr eq_comm eq_comm
      | uuid digits =>
        cases w <;> simp_all [same, content?]
        exact eq_comm
      | raw sql =>
        cases w <;> simp_all [same, content?]
        exact eq_comm
      | stream id content =>
        cases w <;> simp_all [same, content?]
        exact eq_comm
      | _ => cases hv

theorem same_trans_atom {u v w : Value} (h : u.isCompound = false) (huv : u.same v)
    (hvw : v.same w) : u.same w := by
  obtain ⟨hsome, heq⟩ := (same_atom h v).mp huv
  have hv : v.isCompound = false := by
    cases v with
    | collection kind items =>
      rw [← heq] at hsome
      cases hsome
    | mapping entries =>
      rw [← heq] at hsome
      cases hsome
    | _ => rfl
  exact (same_atom h w).mpr ⟨hsome, ((same_atom hv w).mp hvw).2.trans heq⟩

/-! ## Collections and mappings -/

theorem allIn_iff (vs ws : List Value) : allIn vs ws ↔ ∀ v ∈ vs, ∃ w ∈ ws, v.same w := by
  induction vs with
  | nil => simp [allIn]
  | cons v vs ih => simp [allIn, ih]

theorem allEntriesIn_iff (es fs : List (Value × Value)) :
    allEntriesIn es fs ↔ ∀ e ∈ es, ∃ f ∈ fs, e.1.same f.1 ∧ e.2.same f.2 := by
  induction es with
  | nil => simp [allEntriesIn]
  | cons e es ih =>
    obtain ⟨k, v⟩ := e
    simp [allEntriesIn, ih]

/-- A collection is the same as a collection only. -/
theorem same_collection {j : CollectionKind} {xs : List Value} {w : Value}
    (h : (Value.collection j xs).same w) :
    ∃ k ys, w = .collection k ys ∧
      ((j.isSet = true ∧ k.isSet = true ∧ xs.length = ys.length ∧ allIn xs ys) ∨
        (j.isSet = false ∧ j = k ∧ sameItems xs ys)) := by
  cases w with
  | collection k ys =>
    refine ⟨k, ys, rfl, ?_⟩
    cases hj : j.isSet <;> cases hk : k.isSet <;> simp_all [same]
  | _ => simp [same, sameNumber, magnitude?] at h

theorem same_mapping {es : List (Value × Value)} {w : Value} (h : (Value.mapping es).same w) :
    ∃ fs, w = .mapping fs ∧ es.length = fs.length ∧ allEntriesIn es fs := by
  cases w with
  | mapping fs => exact ⟨fs, rfl, by simpa [same] using h⟩
  | _ => simp [same, sameNumber, magnitude?] at h

/-! ## Transitivity -/

mutual

/-- **Equality of values is transitive.** -/
theorem same_trans : ∀ {u v w : Value}, u.same v → v.same w → u.same w
  | .collection j xs, v, w, huv, hvw => by
    obtain ⟨k, ys, rfl, hxy⟩ := same_collection huv
    obtain ⟨l, zs, rfl, hyz⟩ := same_collection hvw
    rcases hxy with ⟨hj, hk, hlen, hin⟩ | ⟨hj, rfl, hitems⟩
    · rcases hyz with ⟨-, hl, hlen', hin'⟩ | ⟨hk', -⟩
      · simp [same, hj, hl, hlen, hlen', allIn_trans hin hin']
      · rw [hk] at hk'
        cases hk'
    · rcases hyz with ⟨hj', -⟩ | ⟨-, rfl, hitems'⟩
      · rw [hj] at hj'
        cases hj'
      · simp [same, hj, sameItems_trans hitems hitems']
  | .mapping es, v, w, huv, hvw => by
    obtain ⟨fs, rfl, hlen, hin⟩ := same_mapping huv
    obtain ⟨gs, rfl, hlen', hin'⟩ := same_mapping hvw
    simp [same, hlen, hlen', allEntriesIn_trans hin hin']
  | .null, _, _, huv, hvw => same_trans_atom rfl huv hvw
  | .bool _, _, _, huv, hvw => same_trans_atom rfl huv hvw
  | .int _, _, _, huv, hvw => same_trans_atom rfl huv hvw
  | .float _, _, _, huv, hvw => same_trans_atom rfl huv hvw
  | .decimal _, _, _, huv, hvw => same_trans_atom rfl huv hvw
  | .text _, _, _, huv, hvw => same_trans_atom rfl huv hvw
  | .illFormed _, _, _, huv, hvw => same_trans_atom rfl huv hvw
  | .blob .., _, _, huv, hvw => same_trans_atom rfl huv hvw
  | .date _, _, _, huv, hvw => same_trans_atom rfl huv hvw
  | .time _, _, _, huv, hvw => same_trans_atom rfl huv hvw
  | .timestamp _, _, _, huv, hvw => same_trans_atom rfl huv hvw
  | .uuid _, _, _, huv, hvw => same_trans_atom rfl huv hvw
  | .constant .., _, _, huv, hvw => same_trans_atom rfl huv hvw
  | .raw _, _, _, huv, hvw => same_trans_atom rfl huv hvw
  | .stream .., _, _, huv, hvw => same_trans_atom rfl huv hvw

theorem sameItems_trans : ∀ {us vs ws : List Value}, sameItems us vs → sameItems vs ws →
    sameItems us ws
  | [], vs, ws, huv, hvw => by cases vs <;> cases ws <;> simp_all [sameItems]
  | u :: us, vs, ws, huv, hvw => by
    cases vs with
    | nil => simp [sameItems] at huv
    | cons v vs =>
      cases ws with
      | nil => simp [sameItems] at hvw
      | cons w ws =>
        simp only [sameItems, Bool.and_eq_true] at huv hvw ⊢
        exact ⟨same_trans huv.1 hvw.1, sameItems_trans huv.2 hvw.2⟩

theorem allIn_trans : ∀ {us vs ws : List Value}, allIn us vs → allIn vs ws → allIn us ws
  | [], _, _, _, _ => by simp [allIn]
  | u :: us, vs, ws, huv, hvw => by
    simp only [allIn, Bool.and_eq_true, List.any_eq_true] at huv ⊢
    obtain ⟨⟨v, hv, hsame⟩, hrest⟩ := huv
    obtain ⟨w, hw, hsame'⟩ := (allIn_iff vs ws).mp hvw v hv
    exact ⟨⟨w, hw, same_trans hsame hsame'⟩, allIn_trans hrest hvw⟩

theorem allEntriesIn_trans : ∀ {es fs gs : List (Value × Value)}, allEntriesIn es fs →
    allEntriesIn fs gs → allEntriesIn es gs
  | [], _, _, _, _ => by simp [allEntriesIn]
  | (k, v) :: es, fs, gs, hef, hfg => by
    simp only [allEntriesIn, Bool.and_eq_true, List.any_eq_true] at hef ⊢
    obtain ⟨⟨f, hf, hkey, hvalue⟩, hrest⟩ := hef
    obtain ⟨g, hg, hkey', hvalue'⟩ := (allEntriesIn_iff fs gs).mp hfg f hf
    exact ⟨⟨g, hg, same_trans hkey hkey', same_trans hvalue hvalue'⟩,
      allEntriesIn_trans hrest hfg⟩

end

end TaggedSql.Value
