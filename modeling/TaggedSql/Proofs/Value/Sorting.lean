/-
  Values that can be sorted.

  Sorting fails when it comes upon two values that cannot be compared.  It moves values about and
  makes up none, so where each two of the values can be compared, it never does (`exists_sort`).
-/
import TaggedSql.Value.Order

namespace TaggedSql.Value

/-- Whether the first value can be compared with the second. -/
def Compares (v w : Value) : Prop := ∃ before, lt v w = .ok before

/-- Whether each two of the values can be compared. -/
def AllCompare (vs : List Value) : Prop := ∀ v ∈ vs, ∀ w ∈ vs, v.Compares w

theorem AllCompare.subset {vs ws : List Value} (h : AllCompare vs) (hs : ∀ w ∈ ws, w ∈ vs) :
    AllCompare ws := fun v hv w hw => h v (hs v hv) w (hs w hw)

/-- Texts can be compared. -/
theorem compares_text (s t : String) : (text s).Compares (text t) := ⟨decide (s < t), by simp [lt]⟩

/-! ## Runs -/

/-- A run is taken off the values that it is looked for in. -/
theorem exists_takeRun (falling : Bool) {last : Value} {vs : List Value}
    (h : AllCompare (last :: vs)) :
    ∃ run rest, takeRun falling last vs = .ok (run, rest) ∧ run ++ rest = vs := by
  induction vs generalizing last with
  | nil => exact ⟨[], [], rfl, rfl⟩
  | cons v vs ih =>
    obtain ⟨before, hbefore⟩ := h v (by simp) last (by simp)
    rw [takeRun, hbefore]
    dsimp only
    split
    · obtain ⟨run, rest, htake, happ⟩ := ih (h.subset fun w hw => List.mem_cons_of_mem last hw)
      exact ⟨v :: run, rest, by rw [htake]; rfl, by rw [List.cons_append, happ]⟩
    · exact ⟨[], v :: vs, rfl, rfl⟩

/-- The first run and the rest are the values again, in another order. -/
theorem exists_firstRun {vs : List Value} (h : AllCompare vs) :
    ∃ run rest, firstRun vs = .ok (run, rest) ∧ ∀ w, w ∈ run ++ rest ↔ w ∈ vs := by
  rcases vs with _ | ⟨v, _ | ⟨w, rest⟩⟩
  · exact ⟨[], [], rfl, by simp⟩
  · exact ⟨[v], [], rfl, by simp⟩
  · obtain ⟨falling, hfalling⟩ := h w (by simp) v (by simp)
    obtain ⟨run, back, htake, happ⟩ := exists_takeRun falling h
    rw [firstRun, hfalling]
    dsimp only
    rw [htake]
    refine ⟨_, _, rfl, fun u => ?_⟩
    rw [← happ]
    cases falling <;> simp [or_left_comm]

/-! ## Insertion -/

/-- A value is put among others. -/
theorem exists_insertSorted {v : Value} {ws : List Value} (h : ∀ w ∈ ws, v.Compares w) :
    ∃ us, insertSorted v ws = .ok us ∧ ∀ u, u ∈ us ↔ u = v ∨ u ∈ ws := by
  induction hn : ws.length using Nat.strongRecOn generalizing ws with
  | ind n ih =>
    rw [insertSorted]
    split
    · next hnone =>
      -- there is no value in the middle
      have hnil : ws = [] := by
        have hle := List.getElem?_eq_none_iff.mp hnone
        exact List.length_eq_zero_iff.mp (by omega)
      exact ⟨[v], rfl, by simp [hnil]⟩
    · next w hw =>
      obtain ⟨hlt, hget⟩ := List.getElem?_eq_some_iff.mp hw
      have hsplit : ws = ws.take (ws.length / 2) ++ w :: ws.drop (ws.length / 2 + 1) := by
        rw [← hget, ← List.drop_eq_getElem_cons hlt, List.take_append_drop]
      obtain ⟨before, hbefore⟩ := h w (List.mem_of_getElem? hw)
      rw [hbefore]
      have hmem : ∀ u, u ∈ ws ↔ u ∈ ws.take (ws.length / 2) ∨ u = w ∨
          u ∈ ws.drop (ws.length / 2 + 1) := by
        intro u
        rw [← List.mem_cons, ← List.mem_append, ← hsplit]
      cases before with
      | true =>
        have hshort : (ws.take (ws.length / 2)).length < n := by
          rw [List.length_take]
          omega
        obtain ⟨us, hus, hall⟩ := ih _ hshort (fun x hx => h x (List.mem_of_mem_take hx)) rfl
        refine ⟨_, by dsimp only; rw [hus]; rfl, fun u => ?_⟩
        rw [hmem, List.mem_append, List.mem_cons, hall, or_assoc]
      | false =>
        have hshort : (ws.drop (ws.length / 2 + 1)).length < n := by
          rw [List.length_drop]
          omega
        obtain ⟨us, hus, hall⟩ := ih _ hshort (fun x hx => h x (List.mem_of_mem_drop hx)) rfl
        refine ⟨_, by dsimp only; rw [hus]; rfl, fun u => ?_⟩
        rw [hmem, List.mem_append, List.mem_cons, hall]
        simp only [or_left_comm]

/-! ## Sorting -/

/-- Values are put among others one after the other. -/
theorem exists_insertAll {vs ws : List Value} (h : AllCompare (vs ++ ws)) :
    ∃ us, vs.foldlM (fun sorted v => insertSorted v sorted) ws = .ok us ∧
      ∀ u, u ∈ us ↔ u ∈ vs ∨ u ∈ ws := by
  induction vs generalizing ws with
  | nil => exact ⟨ws, rfl, by simp⟩
  | cons v vs ih =>
    have hcompares : ∀ w ∈ ws, v.Compares w := fun w hw => h v (by simp) w (by simp [hw])
    obtain ⟨us, hus, hmem⟩ := exists_insertSorted hcompares
    have hboth : AllCompare (vs ++ us) := by
      refine h.subset fun w hw => ?_
      rcases List.mem_append.mp hw with hw | hw
      · simp [hw]
      · rcases (hmem w).mp hw with rfl | hw
        · simp
        · simp [hw]
    obtain ⟨all, hall, hmemAll⟩ := ih hboth
    refine ⟨all, ?_, fun u => ?_⟩
    · rw [List.foldlM_cons, hus]
      exact hall
    · rw [hmemAll, hmem, List.mem_cons, or_left_comm, or_assoc]

/-- **Values of which each two can be compared** can be sorted, and are there again. -/
theorem exists_sort {vs : List Value} (h : AllCompare vs) :
    ∃ ws, sort vs = .ok ws ∧ ∀ w, w ∈ ws ↔ w ∈ vs := by
  obtain ⟨run, rest, hrun, hmem⟩ := exists_firstRun h
  have hsub : ∀ w ∈ rest ++ run, w ∈ vs := by
    intro w hw
    rw [List.mem_append] at hw
    exact (hmem w).mp (List.mem_append.mpr hw.symm)
  obtain ⟨ws, hws, hall⟩ := exists_insertAll (h.subset hsub)
  refine ⟨ws, ?_, fun w => ?_⟩
  · rw [sort, hrun]
    exact hws
  · rw [hall, ← hmem, List.mem_append, or_comm]

end TaggedSql.Value
