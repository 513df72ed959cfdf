/-
  Compiling a compiled statement once more.

  1. **What is found** — question marks make no lexeme ambiguous (`Remarked.no_ambiguous`), and the
     placeholders of the compiled statement are the colons with a word that the source has right
     behind a placeholder (`Remarked.parameters_eq`): `:a:b` becomes `?:b`.

  2. **What becomes of it** — a compiled statement that has such placeholders is not left unchanged,
     since their colons are gone afterwards (`withMarkers_eq_text_iff`).

  3. **The statement** (`strict_recompilation`) — strict compilation of what was compiled strictly
     succeeds, finds these placeholders and no other, and changes nothing exactly when there are
     none.
-/
import TaggedSql.Proofs.Placeholder.Relexing

namespace TaggedSql.Placeholder

open TaggedSql.Text

/-! ## Placeholders behind placeholders -/

/-- The parameter of the placeholder at the front of what lexemes were cut from. -/
def frontParameter (ls : List Lexeme) : List (String × BindType) :=
  ((placeholder? (ls.flatMap Lexeme.text)).bind fun t => t.1.parameter?).toList

/-- The parameters that a text has right behind its placeholders, where they are no tokens. -/
def attached : List Lexeme → List (String × BindType)
  | [] => []
  | l :: ls => (if l.parameter?.isSome then frontParameter ls else []) ++ attached ls

theorem attached_word (w : List Char) (ls : List Lexeme) :
    attached (w.map Lexeme.plain ++ ls) = attached ls := by
  induction w with
  | nil => rfl
  | cons c w ih => exact ih

namespace Remarked

variable {b : Bool} {ls ms : List Lexeme}

/-- Question marks make no lexeme ambiguous. -/
theorem no_ambiguous (h : Remarked b ls ms) (hls : ∀ l ∈ ls, l.isAmbiguous = false) :
    ∀ m ∈ ms, m.isAmbiguous = false := by
  induction h with
  | nil => exact hls
  | kept _ _ _ ih =>
    obtain ⟨hl, hls⟩ := List.forall_mem_cons.mp hls
    exact List.forall_mem_cons.mpr ⟨hl, ih hls⟩
  | marked _ ih => exact List.forall_mem_cons.mpr ⟨rfl, ih (List.forall_mem_cons.mp hls).2⟩
  | glued _ _ _ ih =>
    have hrest := (List.forall_mem_cons.mp hls).2
    exact List.forall_mem_cons.mpr ⟨rfl, ih fun l hl => hrest l (List.mem_append_right _ hl)⟩

/-- The placeholders of the text with question marks. -/
theorem parameters_eq (h : Remarked b ls ms) :
    parameters ms = (if b then frontParameter ls else []) ++ attached ls := by
  induction h with
  | @nil b => cases b <;> rfl
  | @kept b l ls ms hp hb _ ih =>
    have hfront : (if b then frontParameter (l :: ls) else []) = [] := by
      cases b with
      | false => rfl
      | true =>
        rw [if_pos rfl, frontParameter, hb rfl]
        rfl
    rw [parameters_cons, ih, hfront, attached, hp]
    rfl
  | marked _ ih =>
    rw [parameters_cons, ih, attached]
    rfl
  | @glued name ls ms hname hends _ ih =>
    have htext : (Lexeme.plain ':' :: (name.map Lexeme.plain ++ ls)).flatMap Lexeme.text =
        ':' :: (name ++ ls.flatMap Lexeme.text) := by
      rw [List.flatMap_cons, List.flatMap_append, text_word]
      rfl
    have hplaceholder : placeholder? (':' :: (name ++ ls.flatMap Lexeme.text)) =
        some (.placeholder none name, ls.flatMap Lexeme.text) :=
      placeholder?_eq_some_iff.mpr ⟨none, name, _, rfl, rfl, fun c hc => (by cases hc), hname.1,
        hname.2, hends⟩
    have hfront : frontParameter (.plain ':' :: (name.map Lexeme.plain ++ ls)) =
        [(String.ofList name, typeOfTag none)] := by
      rw [frontParameter, htext, hplaceholder]
      rfl
    rw [parameters_cons, ih, hfront, attached, attached_word]
    rfl

end Remarked

/-! ## Changed statements -/

/-- Compiling takes a colon away for every placeholder. -/
theorem count_withMarkers (ls : List Lexeme) :
    (withMarkers "?" ls).count ':' + (parameters ls).length ≤
      (ls.flatMap Lexeme.text).count ':' := by
  induction ls with
  | nil => exact Nat.le_refl 0
  | cons l ls ih =>
    have hl : (l.withMarker "?").count ':' + l.parameter?.toList.length ≤ l.text.count ':' := by
      rcases withMarker_cases l with ⟨tag, name, rfl⟩ | ⟨hp, hl⟩
      · have hmem : ':' ∈ (Lexeme.placeholder tag name).text := by simp [Lexeme.text]
        exact List.count_pos_iff.mpr hmem
      · rw [hp, hl]
        exact Nat.le_refl _
    rw [parameters_cons, List.length_append, List.flatMap_cons, List.count_append]
    unfold withMarkers at ih ⊢
    rw [List.flatMap_cons, List.count_append]
    omega

/-- Lexemes are compiled to what they were cut from exactly when there is no placeholder. -/
theorem withMarkers_eq_text_iff (ls : List Lexeme) :
    withMarkers "?" ls = ls.flatMap Lexeme.text ↔ parameters ls = [] := by
  constructor
  · intro h
    have hcount := count_withMarkers ls
    rw [h] at hcount
    exact List.length_eq_zero_iff.mp (by omega)
  · intro h
    exact withMarkers_eq_copied "?" ls (List.filterMap_eq_nil_iff.mp h)

/-- **What strict compilation leaves behind.**  A statement that was compiled strictly is accepted
    by strict compilation.  The placeholders that are found in it are those that the source has
    right behind other placeholders, and it is left unchanged exactly when there are none. -/
theorem strict_recompilation {lexing : LexOptions} {sql : String} {c : Compiled}
    (h : (compile ⟨"?", true, lexing⟩ sql).outcome = .ok c) :
    ∃ again, (compile ⟨"?", true, lexing⟩ c.sql).outcome = .ok again ∧
      again.names = (attached (lex lexing sql.toList)).map Prod.fst ∧
      (again.sql = c.sql ↔ again.names = []) := by
  have hclear := no_ambiguous_of_outcome (o := ⟨"?", true, lexing⟩) rfl h
  obtain rfl := eq_compiled_of_outcome h
  have hrelated := remarked_compiled lexing sql
  generalize hc : compiled "?" (lex lexing sql.toList) = c at hrelated ⊢
  have hnames : parameters (lex lexing c.sql.toList) = attached (lex lexing sql.toList) :=
    hrelated.parameters_eq
  refine ⟨compiled "?" (lex lexing c.sql.toList),
    outcome_of_no_ambiguous (o := ⟨"?", true, lexing⟩) (hrelated.no_ambiguous hclear), ?_, ?_⟩
  · exact congrArg (List.map Prod.fst) hnames
  · have htext : (lex lexing c.sql.toList).flatMap Lexeme.text = c.sql.toList :=
      text_lexemes lexing none c.sql.toList
    have hsame : (compiled "?" (lex lexing c.sql.toList)).sql = c.sql ↔
        withMarkers "?" (lex lexing c.sql.toList) =
          (lex lexing c.sql.toList).flatMap Lexeme.text := by
      rw [htext, compiled, ← String.toList_inj, String.toList_ofList]
    rw [hsame, withMarkers_eq_text_iff]
    exact List.map_eq_nil_iff.symm

/-- What `x=:a` is compiled to is left unchanged. -/
theorem strict_recompilation_unchanged :
    (compile ⟨"?", true, ⟨false, false⟩⟩ "x=:a").outcome = .ok ⟨"x=?", ["a"], [("a", .text)]⟩ ∧
      ∃ again, (compile ⟨"?", true, ⟨false, false⟩⟩ "x=?").outcome = .ok again ∧
        again.names = [] ∧ again.sql = "x=?" := by
  have htext : "x=:a".toList = ['x', '=', ':', 'a'] := rfl
  have hx : token? ⟨false, false⟩ none ['x', '=', ':', 'a'] = none := rfl
  have heq : token? ⟨false, false⟩ (some 'x') ['=', ':', 'a'] = none := rfl
  have ha : token? ⟨false, false⟩ (some '=') [':', 'a'] = some (.placeholder none ['a'], []) := rfl
  have hlex : lex ⟨false, false⟩ "x=:a".toList =
      [.plain 'x', .plain '=', .placeholder none ['a']] := by
    rw [htext, lex, lexemes_of_gap hx, lexemes_of_gap heq, lexemes_of_token ha, lexemes_nil]
  have hstrict : (compile ⟨"?", true, ⟨false, false⟩⟩ "x=:a").outcome =
      .ok ⟨"x=?", ["a"], [("a", .text)]⟩ := by
    rw [outcome_of_no_ambiguous (by rw [hlex]; decide), hlex]
    rfl
  obtain ⟨again, hagain, hnames, hsame⟩ := strict_recompilation hstrict
  have hnone : again.names = [] := by
    rw [hnames, hlex]
    rfl
  exact ⟨hstrict, again, hagain, hnone, hsame.mpr hnone⟩

/-- `:a:b` is compiled strictly to `?:b`, in which another placeholder is found. -/
theorem strict_recompilation_changes :
    (compile ⟨"?", true, ⟨false, false⟩⟩ ":a:b").outcome = .ok ⟨"?:b", ["a"], [("a", .text)]⟩ ∧
      (compile ⟨"?", true, ⟨false, false⟩⟩ "?:b").outcome = .ok ⟨"??", ["b"], [("b", .text)]⟩ := by
  have htext : ":a:b".toList = [':', 'a', ':', 'b'] := rfl
  have ha : token? ⟨false, false⟩ none [':', 'a', ':', 'b'] =
      some (.placeholder none ['a'], [':', 'b']) := rfl
  have hcolon : token? ⟨false, false⟩ (Lexeme.placeholder none ['a']).text.getLast? [':', 'b'] =
      none := rfl
  have hb : token? ⟨false, false⟩ (some ':') ['b'] = none := rfl
  have hlex : lex ⟨false, false⟩ ":a:b".toList =
      [.placeholder none ['a'], .plain ':', .plain 'b'] := by
    rw [htext, lex, lexemes_of_token ha, lexemes_of_gap hcolon, lexemes_of_gap hb, lexemes_nil]
  have htext' : "?:b".toList = ['?', ':', 'b'] := rfl
  have hmark : token? ⟨false, false⟩ none ['?', ':', 'b'] = none := rfl
  have hb' : token? ⟨false, false⟩ (some '?') [':', 'b'] = some (.placeholder none ['b'], []) := rfl
  have hlex' : lex ⟨false, false⟩ "?:b".toList = [.plain '?', .placeholder none ['b']] := by
    rw [htext', lex, lexemes_of_gap hmark, lexemes_of_token hb', lexemes_nil]
  constructor
  · rw [outcome_of_no_ambiguous (by rw [hlex]; decide), hlex]
    rfl
  · rw [outcome_of_no_ambiguous (by rw [hlex']; decide), hlex']
    rfl

end TaggedSql.Placeholder
