/-
  What a driver that looks for question marks finds in a compiled statement.

  1. **Regions** — literals, quoted identifiers and comments are those of the source, one for one
     (`Remarked.regions_eq`).

  2. **Marks** — `marks` lists where question marks stand outside regions.  When the source has
     none there, these are the places at which placeholders were replaced (`Remarked.marks_eq`),
     and the k-th place belongs to the k-th name (`places_append`, `length_places`).

  3. **The statement** (`question_marks_are_placeholders`) — both, for the compiled statement.
-/
import TaggedSql.Proofs.Placeholder.Relexing

namespace TaggedSql.Placeholder

open TaggedSql.Text

/-- Whether the lexeme is a literal, a quoted identifier or a comment. -/
def Lexeme.isRegion : Lexeme → Bool
  | .region .. => true
  | _ => false

/-- The literals, quoted identifiers and comments, from left to right. -/
def regions (ls : List Lexeme) : List Lexeme := ls.filter Lexeme.isRegion

/-- The offsets of the question marks of a text that starts at `offset`. -/
def marksOfText (offset : Nat) : List Char → List Nat
  | [] => []
  | c :: s => if c = '?' then offset :: marksOfText (offset + 1) s else marksOfText (offset + 1) s

/-- The offsets of the question marks outside regions, of lexemes that start at `offset`. -/
def marks (offset : Nat) : List Lexeme → List Nat
  | [] => []
  | l :: ls =>
    (if l.isRegion then [] else marksOfText offset l.text) ++ marks (offset + l.text.length) ls

/-- The offsets at which the markers of lexemes come to stand, the compiled text starting at
    `offset`. -/
def places (offset : Nat) : List Lexeme → List Nat
  | [] => []
  | l :: ls =>
    (if l.parameter?.isSome then [offset] else []) ++ places (offset + (l.withMarker "?").length) ls

/-- Question marks stand in regions only. -/
def FreeOfMarks (ls : List Lexeme) : Prop := ∀ l ∈ ls, l.isRegion = false → '?' ∉ l.text

theorem FreeOfMarks.tail {l : Lexeme} {ls : List Lexeme} (h : FreeOfMarks (l :: ls)) :
    FreeOfMarks ls :=
  fun m hm => h m (List.mem_cons_of_mem l hm)

theorem FreeOfMarks.of_append {ks ls : List Lexeme} (h : FreeOfMarks (ks ++ ls)) :
    FreeOfMarks ls :=
  fun m hm => h m (List.mem_append_right ks hm)

theorem marksOfText_of_not_mem {s : List Char} (h : '?' ∉ s) :
    ∀ offset, marksOfText offset s = [] := by
  induction s with
  | nil => intro _; rfl
  | cons c s ih =>
    intro offset
    rw [List.mem_cons, not_or] at h
    rw [marksOfText, if_neg (Ne.symm h.1), ih h.2]

/-! ## Placeholders and places -/

/-- The place of a placeholder is behind what the lexemes in front of it are compiled to. -/
theorem places_append (ks ls : List Lexeme) :
    ∀ offset, places offset (ks ++ ls) =
      places offset ks ++ places (offset + (withMarkers "?" ks).length) ls := by
  induction ks with
  | nil => intro offset; rfl
  | cons k ks ih =>
    intro offset
    rw [List.cons_append, places, places, ih, List.append_assoc]
    simp only [withMarkers, List.flatMap_cons, List.length_append, Nat.add_assoc]

/-- There are as many places as names. -/
theorem length_places (ls : List Lexeme) :
    ∀ offset, (places offset ls).length = (parameters ls).length := by
  induction ls with
  | nil => intro _; rfl
  | cons l ls ih =>
    intro offset
    rw [places, parameters_cons, List.length_append, List.length_append, ih]
    cases l.parameter? <;> rfl

/-- A word is no placeholder, so it has no place. -/
theorem places_word (w : List Char) (ls : List Lexeme) :
    ∀ offset, places offset (w.map Lexeme.plain ++ ls) = places (offset + w.length) ls := by
  intro offset
  have hnone : ∀ offset, places offset (w.map Lexeme.plain) = [] := by
    induction w with
    | nil => intro _; rfl
    | cons c w ih => intro offset; exact ih _
  rw [places_append, hnone, withMarkers_word, List.nil_append]

namespace Remarked

variable {b : Bool} {ls ms : List Lexeme}

/-- Regions stay. -/
theorem regions_eq (h : Remarked b ls ms) : regions ms = regions ls := by
  induction h with
  | nil => rfl
  | kept hp hb _ ih => simp only [regions, List.filter_cons] at ih ⊢; rw [ih]
  | marked _ ih => exact ih
  | @glued name ls ms hname hends _ ih =>
    have hplain : (name.map Lexeme.plain).filter Lexeme.isRegion = [] :=
      List.filter_eq_nil_iff.mpr fun l hl => by
        obtain ⟨c, -, rfl⟩ := List.mem_map.mp hl
        exact Bool.false_ne_true
    simpa [regions, List.filter_append, hplain, Lexeme.isRegion] using ih

/-- The question marks outside regions are those that stand for placeholders. -/
theorem marks_eq (h : Remarked b ls ms) (hfree : FreeOfMarks ls) :
    ∀ offset, marks offset ms = places offset ls := by
  induction h with
  | nil => intro _; rfl
  | @kept b l ls ms hp hb _ ih =>
    intro offset
    have hl : (if l.isRegion then [] else marksOfText offset l.text) = [] := by
      cases hr : l.isRegion with
      | true => rfl
      | false => exact marksOfText_of_not_mem (hfree l List.mem_cons_self hr) offset
    rw [marks, places, hl, hp, withMarker_of_parameter? hp, ih hfree.tail]
    rfl
  | marked _ ih =>
    intro offset
    rw [marks, places, ih hfree.tail]
    rfl
  | @glued name ls ms hname hends _ ih =>
    intro offset
    have hnone : '?' ∉ (Lexeme.placeholder none name).text := by
      intro hm
      rcases List.mem_cons.mp hm with hm | hm
      · cases hm
      · exact absurd (hname.2 _ hm) (by decide)
    have hname : marksOfText offset (Lexeme.placeholder none name).text = [] :=
      marksOfText_of_not_mem hnone offset
    have hlength : (Lexeme.placeholder none name).text.length = 1 + name.length := Nat.add_comm ..
    rw [marks, ih hfree.tail.of_append, hlength, ← Nat.add_assoc, ← places_word]
    exact congrArg (· ++ _) hname

end Remarked

/-! ## The compiled statement -/

/-- **Drivers that look for question marks see the intended markers.**  When the source has no
    question mark outside its literals, quoted identifiers and comments, the compiled statement has
    the same literals, quoted identifiers and comments, in the same order, and outside them one
    question mark for every name: that of the k-th name stands where the k-th placeholder of the
    source was replaced. -/
theorem question_marks_are_placeholders (lexing : LexOptions) (sql : String)
    (hfree : FreeOfMarks (lex lexing sql.toList)) :
    ∃ c, (compile ⟨"?", false, lexing⟩ sql).outcome = .ok c ∧
      (∀ strict c', (compile ⟨"?", strict, lexing⟩ sql).outcome = .ok c' → c' = c) ∧
      regions (lex lexing c.sql.toList) = regions (lex lexing sql.toList) ∧
      (marks 0 (lex lexing c.sql.toList)).length = c.names.length ∧
      ∀ front tag name back, lex lexing sql.toList = front ++ .placeholder tag name :: back →
        c.sql.toList = withMarkers "?" front ++ '?' :: withMarkers "?" back ∧
        c.names[(parameters front).length]? = some (String.ofList name) ∧
        (marks 0 (lex lexing c.sql.toList))[(parameters front).length]? =
          some (withMarkers "?" front).length := by
  have hrelated := remarked_compiled lexing sql
  have hmarks := hrelated.marks_eq hfree 0
  refine ⟨compiled "?" (lex lexing sql.toList),
    compile_lenient (o := ⟨"?", false, lexing⟩) rfl sql,
    fun strict c' hc => eq_compiled_of_outcome (o := ⟨"?", strict, lexing⟩) hc,
    hrelated.regions_eq, ?_, ?_⟩
  · rw [hmarks, length_places, compiled, List.length_map]
  · intro front tag name back hls
    rw [hmarks]
    simp only [compiled, String.toList_ofList, hls]
    refine ⟨?_, ?_, ?_⟩
    · rw [withMarkers, List.flatMap_append]
      rfl
    · rw [parameters_append, List.map_append, List.getElem?_append_right (by simp)]
      simp [parameters_cons, Lexeme.parameter?]
    · have hlength := length_places front 0
      rw [places_append, List.getElem?_append_right (by omega), hlength]
      simp [places, Lexeme.parameter?]

/-- In `:a='?'` the question mark of the literal is none of the marks. -/
theorem question_mark_beside_literal :
    ∃ c, (compile ⟨"?", false, ⟨false, false⟩⟩ ":a='?'").outcome = .ok c ∧
      regions (lex ⟨false, false⟩ c.sql.toList) = [.region .literal ['\'', '?', '\'']] ∧
      (marks 0 (lex ⟨false, false⟩ c.sql.toList)).length = c.names.length := by
  have ha : token? ⟨false, false⟩ none ":a='?'".toList =
      some (.placeholder none ['a'], ['=', '\'', '?', '\'']) := rfl
  have heq : token? ⟨false, false⟩ (Lexeme.placeholder none ['a']).text.getLast?
      ['=', '\'', '?', '\''] = none := rfl
  have hliteral : token? ⟨false, false⟩ (some '=') ['\'', '?', '\''] =
      some (.region .literal ['\'', '?', '\''], []) := rfl
  have hlex : lex ⟨false, false⟩ ":a='?'".toList =
      [.placeholder none ['a'], .plain '=', .region .literal ['\'', '?', '\'']] := by
    rw [lex, lexemes_of_token ha, lexemes_of_gap heq, lexemes_of_token hliteral, lexemes_nil]
  have hfree : FreeOfMarks (lex ⟨false, false⟩ ":a='?'".toList) := by
    rw [hlex]
    unfold FreeOfMarks
    decide
  obtain ⟨c, hc, -, hregions, hmarks, -⟩ := question_marks_are_placeholders ⟨false, false⟩ _ hfree
  rw [hlex] at hregions
  exact ⟨c, hc, hregions, hmarks⟩

end TaggedSql.Placeholder
