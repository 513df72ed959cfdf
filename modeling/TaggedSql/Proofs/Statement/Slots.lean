/-
  Values that are kept on this side of the driver.

  1. **Slots** — putting values at consecutive positions into slots that lie within these positions
     leaves exactly these values (`putAll_of_isWithin`): nothing that was there before is left.

  2. **Binding** — a driver without statements of its own takes every value, and only the slots of
     the one statement change (`outcome_bindAll`).

  3. **Executing** (`sends_execute`) — such a driver sends the text of the statement with the values
     in its slots, unless the call before it fails.
-/
import TaggedSql.Proofs.Driver
import TaggedSql.Statement

namespace TaggedSql

open Operation

/-! ## Slots -/

namespace Slots

/-- Whether slots are in order and lie among `count` positions from `first` on. -/
def IsWithin (first count : Nat) (slots : Slots) : Prop :=
  (slots.Pairwise fun p q => p.1 < q.1) ∧
    ∀ p ∈ slots, (first : Int) ≤ p.1 ∧ p.1 < (first : Int) + (count : Int)

theorem isWithin_nil (first count : Nat) : IsWithin first count [] := ⟨.nil, by simp⟩

/-- Puts values into slots, one after the other. -/
def putAll (bs : List BoundValue) (slots : Slots) : Slots :=
  bs.foldl (fun slots b => slots.put b.position b.value) slots

/-- The slots that values at positions make up. -/
def ofBound (bs : List BoundValue) : Slots := bs.map fun b => ((b.position : Int), b.value)

/-- A value put at the first position comes first, and replaces the one that was there. -/
theorem put_first {first count : Nat} {slots : Slots} (h : slots.IsWithin first (count + 1))
    (v : Value) : ∃ rest, slots.put first v = ((first : Int), v) :: rest ∧
      IsWithin (first + 1) count rest := by
  obtain ⟨hsorted, hrange⟩ := h
  cases slots with
  | nil => exact ⟨[], rfl, isWithin_nil _ _⟩
  | cons p tail =>
    obtain ⟨hhead, htail⟩ := List.pairwise_cons.mp hsorted
    obtain ⟨hp, hp'⟩ := hrange p List.mem_cons_self
    -- the slots are in order, so only the head can be at the first position
    by_cases hlt : (first : Int) < p.1
    · refine ⟨p :: tail, by rw [put, if_pos hlt], hsorted, fun q hq => ?_⟩
      obtain ⟨hq', hq''⟩ := hrange q hq
      rcases List.mem_cons.mp hq with rfl | htailq
      · omega
      · have := hhead q htailq
        omega
    · have heq : (first : Int) = p.1 := by omega
      refine ⟨tail, by rw [put, if_neg hlt, if_pos heq], htail, fun q hq => ?_⟩
      have hq' := hrange q (List.mem_cons_of_mem p hq)
      have := hhead q hq
      omega

/-- What is put behind a slot leaves it alone. -/
theorem putAll_cons {p : Int × Value} {bs : List BoundValue}
    (h : ∀ b ∈ bs, p.1 < (b.position : Int)) (slots : Slots) :
    putAll bs (p :: slots) = p :: putAll bs slots := by
  induction bs generalizing slots with
  | nil => rfl
  | cons b bs ih =>
    have hb : p.1 < (b.position : Int) := h b List.mem_cons_self
    have hput : Slots.put b.position b.value (p :: slots) = p :: slots.put b.position b.value := by
      rw [put, if_neg (by omega), if_neg (by omega)]
    rw [putAll, List.foldl_cons, hput]
    exact ih (fun b' hb' => h b' (List.mem_cons_of_mem b hb')) _

/-- **Nothing old is left** of slots that lie within the positions at which values are put. -/
theorem putAll_of_isWithin {bs : List BoundValue} {first : Nat} {slots : Slots}
    (hbs : bs.map BoundValue.position = List.range' first bs.length)
    (hslots : slots.IsWithin first bs.length) : putAll bs slots = ofBound bs := by
  -- on the values; the slots that are left lie within the positions that are left
  induction bs generalizing first slots with
  | nil =>
    obtain ⟨-, hrange⟩ := hslots
    cases slots with
    | nil => rfl
    | cons p tail =>
      have hp := hrange p List.mem_cons_self
      simp only [List.length_nil] at hp
      omega
  | cons b bs ih =>
    rw [List.map_cons, List.length_cons, List.range'_succ] at hbs
    obtain ⟨hfirst, hrest⟩ := List.cons.inj hbs
    obtain ⟨rest, hput, hwithin⟩ := put_first hslots b.value
    have hlater : ∀ b' ∈ bs, (first : Int) < (b'.position : Int) := by
      intro b' hb'
      have hmem : b'.position ∈ List.range' (first + 1) bs.length :=
        hrest ▸ List.mem_map_of_mem hb'
      have := List.mem_range'_1.mp hmem
      omega
    rw [putAll, List.foldl_cons, hfirst, hput]
    show putAll bs (((first : Int), b.value) :: rest) = _
    rw [putAll_cons hlater, ih hrest hwithin, ofBound, ofBound, List.map_cons, hfirst]

/-- Values at consecutive positions are in order. -/
theorem isWithin_ofBound {bs : List BoundValue} {first : Nat}
    (hbs : bs.map BoundValue.position = List.range' first bs.length) :
    (ofBound bs).IsWithin first bs.length := by
  constructor
  · have hsorted : (bs.map BoundValue.position).Pairwise (· < ·) := by
      rw [hbs]
      exact List.pairwise_lt_range'
    rw [ofBound, List.pairwise_map]
    exact (List.pairwise_map.mp hsorted).imp Int.ofNat_lt.mpr
  · intro p hp
    obtain ⟨b, hb, rfl⟩ := List.mem_map.mp hp
    have hmem : b.position ∈ List.range' first bs.length := hbs ▸ List.mem_map_of_mem hb
    have := List.mem_range'_1.mp hmem
    dsimp only
    omega

end Slots

/-! ## Binding -/

/-- **Binding on this side** never fails, and changes the slots of the one statement only. -/
theorem outcome_bindAll {d : Driver} (h : d.style ≠ .direct) (number : Nat) (bs : List BoundValue) :
    (Statement.bindAll number bs).outcome d =
      (.ok (), { d with statements := d.statements.modify number fun s =>
        { s with slots := s.slots.putAll bs } }) := by
  induction bs generalizing d with
  | nil =>
    have hsame : d.statements.modify number (fun s => { s with slots := s.slots.putAll [] }) =
        d.statements := List.modify_id _ _
    rw [hsame]
    rfl
  | cons b bs ih =>
    rw [Statement.bindAll, outcome_bind_of_ok (Driver.outcome_bindValue_of_ne h _ _ _ _)]
    refine (ih (d := { d with
      statements := Driver.bindSlot number b.position b.value d.statements }) h).trans ?_
    rw [Driver.bindSlot, List.modify_modify_eq]
    rfl

/-! ## Executing -/

/-- The text and the values that a call hands over to be executed. -/
def Event.sent? : Event → Option (String × List Value)
  | executeOn _ sql values | executeText sql values => some (sql, values)
  | _ => none

/-- What is executed by handing over text and values, call by call. -/
def sent (es : List Event) : List (String × List Value) := es.filterMap Event.sent?

@[simp] theorem sent_append (es es' : List Event) : sent (es ++ es') = sent es ++ sent es' :=
  List.filterMap_append

/-- Executing on such a driver hands over the text of the statement and the values in its slots, if
    no call before that fails. -/
theorem sends_execute {d : Driver} (h : d.style ≠ .direct) (number : Nat) :
    let r := (Driver.execute number).outcome d
    r.2.statements = d.statements ∧ ∃ es, r.2.events = d.events ++ es ∧
      ((sent es = [] ∧ ∃ e, r.1 = .error e) ∨
        sent es = [((d.statement number).sql, (d.statement number).slots.values)]) := by
  cases hd : d.style with
  | direct => exact absurd hd h
  | cursor =>
    rw [Driver.outcome_execute_cursor hd]
    cases d.answer .cursor with
    | error e => exact ⟨rfl, [.cursor], rfl, .inl ⟨rfl, e, rfl⟩⟩
    | ok a => exact ⟨rfl, [.cursor, _], (List.append_assoc _ [_] [_]), .inr rfl⟩
  | autobegin owns =>
    rw [Driver.outcome_execute_autobegin hd]
    dsimp only
    split
    · exact ⟨rfl, [_], rfl, .inr rfl⟩
    · exact ⟨rfl, [_], rfl, .inr rfl⟩

end TaggedSql
