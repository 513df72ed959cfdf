/-
  Where the lexemes of a text stand.

  `placed` puts its offset beside every lexeme.  The lexemes tile the text: every offset is covered
  by one of them (`exists_covering`) and by one only (`eq_of_covers`), and what stands at an offset
  is the token that the text has there, or a plain character where it has none (`at_offset`).
-/
import TaggedSql.Placeholder.Lexeme

namespace TaggedSql.Placeholder

open TaggedSql.Text

/-- Lexemes beside the offsets at which they start, the first of them at `offset`. -/
def placed (offset : Nat) : List Lexeme → List (Nat × Lexeme)
  | [] => []
  | l :: ls => (offset, l) :: placed (offset + l.text.length) ls

/-- `Covers q p`: the offset `p` lies in the lexeme `q`. -/
def Covers (q : Nat × Lexeme) (p : Nat) : Prop := q.1 ≤ p ∧ p < q.1 + q.2.text.length

theorem map_snd_placed (ls : List Lexeme) : ∀ offset, (placed offset ls).map Prod.snd = ls := by
  induction ls with
  | nil => intro _; rfl
  | cons l ls ih =>
    intro offset
    rw [placed, List.map_cons, ih]

/-- No lexeme starts in front of the first one. -/
theorem le_of_mem_placed {ls : List Lexeme} :
    ∀ {offset : Nat} {q : Nat × Lexeme}, q ∈ placed offset ls → offset ≤ q.1 := by
  induction ls with
  | nil => intro _ _ h; cases h
  | cons l ls ih =>
    intro offset q h
    rcases List.mem_cons.mp h with rfl | h
    · exact Nat.le_refl _
    · have := ih h
      omega

/-- Every offset of a text is covered by a lexeme. -/
theorem exists_covering {ls : List Lexeme} :
    ∀ {offset p : Nat}, offset ≤ p → p < offset + (ls.flatMap Lexeme.text).length →
      ∃ q ∈ placed offset ls, Covers q p := by
  induction ls with
  | nil =>
    intro offset p h1 h2
    simp at h2
    omega
  | cons l ls ih =>
    intro offset p h1 h2
    rw [List.flatMap_cons, List.length_append] at h2
    by_cases hp : p < offset + l.text.length
    · exact ⟨(offset, l), List.mem_cons_self .., h1, hp⟩
    · have hnext : offset + l.text.length ≤ p := by omega
      obtain ⟨q, hq, hc⟩ := ih hnext (by omega)
      exact ⟨q, List.mem_cons_of_mem _ hq, hc⟩

/-- No offset is covered by two lexemes. -/
theorem eq_of_covers {ls : List Lexeme} :
    ∀ {offset p : Nat} {q r : Nat × Lexeme}, q ∈ placed offset ls → r ∈ placed offset ls →
      Covers q p → Covers r p → q = r := by
  induction ls with
  | nil => intro _ _ _ _ h; cases h
  | cons l ls ih =>
    intro offset p q r hq hr hqp hrp
    rcases List.mem_cons.mp hq with rfl | hq'
    · rcases List.mem_cons.mp hr with rfl | hr'
      · rfl
      · have h1 := le_of_mem_placed hr'
        have h2 := hqp.2
        have h3 := hrp.1
        simp only at h2
        omega
    · rcases List.mem_cons.mp hr with rfl | hr'
      · have h1 := le_of_mem_placed hq'
        have h2 := hrp.2
        have h3 := hqp.1
        simp only at h2
        omega
      · exact ih hq' hr' hqp hrp

/-- Lexemes with text stand at increasing offsets. -/
theorem pairwise_placed {ls : List Lexeme} (hne : ∀ l ∈ ls, l.text ≠ []) :
    ∀ offset, (placed offset ls).Pairwise fun q r => q.1 < r.1 := by
  induction ls with
  | nil => intro _; exact List.Pairwise.nil
  | cons l ls ih =>
    intro offset
    have hpos := List.length_pos_iff.mpr (hne l (List.mem_cons_self ..))
    have hls := ih fun m hm => hne m (List.mem_cons_of_mem _ hm)
    refine List.Pairwise.cons (fun r hr => ?_) (hls _)
    have := le_of_mem_placed hr
    simp only
    omega

/-! ## The lexemes of a text -/

/-- What a lexeme at the front of a text says about it: either it is the token that stands there,
    or none stands there and it is a plain character. -/
def Stands (o : LexOptions) (previous : Option Char) (l : Lexeme) (rest : List Char) : Prop :=
  token? o previous (l.text ++ rest) = some (l, rest) ∨
    token? o previous (l.text ++ rest) = none ∧ ∃ c, l = .plain c

/-- A lexeme of a text, with what stands in front of it and behind it. -/
theorem at_offset {o : LexOptions} {previous : Option Char} {s : List Char} :
    ∀ {offset : Nat} {q : Nat × Lexeme}, q ∈ placed offset (lexemes o previous s) →
      ∃ front rest, s = front ++ q.2.text ++ rest ∧ q.1 = offset + front.length ∧
        Stands o (front.getLast?.or previous) q.2 rest := by
  fun_induction lexemes o previous s with
  | case1 previous => intro _ _ h; cases h
  | case2 previous c s t h ih =>
    intro offset q hq
    obtain ⟨hne, hs⟩ := fits_token h
    rcases List.mem_cons.mp hq with rfl | hq'
    · exact ⟨[], t.2, by simp [hs], rfl, Or.inl (by simpa [hs] using h)⟩
    · obtain ⟨front, rest, hrest, hoff, hst⟩ := ih hq'
      refine ⟨t.1.text ++ front, rest, ?_, ?_, ?_⟩
      · rw [← hs, hrest]
        simp
      · rw [hoff, List.length_append]
        omega
      · have hprev : (t.1.text ++ front).getLast?.or previous =
            front.getLast?.or t.1.text.getLast? := by
          rw [List.getLast?_append, Option.or_assoc, List.getLast?_eq_some_getLast hne]
          rfl
        rw [hprev]
        exact hst
  | case3 previous c s h ih =>
    intro offset q hq
    rcases List.mem_cons.mp hq with rfl | hq'
    · exact ⟨[], s, rfl, rfl, Or.inr ⟨h, c, rfl⟩⟩
    · obtain ⟨front, rest, hrest, hoff, hst⟩ := ih hq'
      refine ⟨c :: front, rest, ?_, ?_, ?_⟩
      · rw [hrest]
        rfl
      · rw [hoff]
        simp only [Lexeme.text, List.length_cons, List.length_nil]
        omega
      · have hprev : (c :: front).getLast?.or previous = front.getLast?.or (some c) := by
          rw [← List.singleton_append, List.getLast?_append, Option.or_assoc]
          rfl
        rw [hprev]
        exact hst

/-- No lexeme of a text is empty. -/
theorem text_ne_nil {o : LexOptions} {previous : Option Char} {s : List Char} {l : Lexeme}
    (h : l ∈ lexemes o previous s) : l.text ≠ [] := by
  rw [← map_snd_placed (lexemes o previous s) 0] at h
  obtain ⟨q, hq, rfl⟩ := List.mem_map.mp h
  obtain ⟨front, rest, -, -, ht | ⟨-, c, hc⟩⟩ := at_offset hq
  · exact (fits_token ht).1
  · rw [hc]
    exact List.cons_ne_nil _ _

end TaggedSql.Placeholder
