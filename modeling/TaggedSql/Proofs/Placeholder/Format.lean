/-
  What a driver with `%s` markers sees.

  Such a driver reads the compiled text as a format: `%%` is a percent sign, `%s` the next
  parameter, and no other character may follow a `%` (`readFormat`).

  Every lexeme is written so that it can be read by itself, whatever stands behind it: copied text
  reads back as its characters (`readFormat_copied`) and a marker as a parameter, so a percent sign
  never joins with its neighbours.  Hence the compiled text reads as the source with a parameter
  in place of every placeholder (`readFormat_withMarkers`).
-/
import TaggedSql.Placeholder.Compile

namespace TaggedSql.Placeholder

/-- What a format is made of. -/
inductive FormatPiece where
  | char (c : Char)
  | parameter
  deriving DecidableEq

/-- The pieces of a format, read from left to right; none when a `%` is followed by anything but
    `%` and `s`. -/
def readFormat : List Char → Option (List FormatPiece)
  | [] => some []
  | '%' :: '%' :: rest => (readFormat rest).map (.char '%' :: ·)
  | '%' :: 's' :: rest => (readFormat rest).map (.parameter :: ·)
  | c :: rest => if c = '%' then none else (readFormat rest).map (.char c :: ·)

/-- The pieces written out, every parameter being replaced by the next of the given texts; none
    when there are too many or too few of these. -/
def fill : List FormatPiece → List (List Char) → Option (List Char)
  | [], [] => some []
  | .char c :: ps, texts => (fill ps texts).map (c :: ·)
  | .parameter :: ps, t :: texts => (fill ps texts).map (t ++ ·)
  | _, _ => none

/-- The texts of the placeholders among lexemes. -/
def placeholderTexts (ls : List Lexeme) : List (List Char) :=
  (ls.filter fun l => l.parameter?.isSome).map Lexeme.text

/-! ## Reading the compiled text -/

/-- Copied text is read back, whatever follows it. -/
theorem readFormat_copied (s rest : List Char) :
    readFormat (copied "%s" s ++ rest) = (readFormat rest).map (s.map .char ++ ·) := by
  induction s with
  | nil => cases h : readFormat rest <;> simp [copied, h]
  | cons c s ih =>
    have hcons : copied "%s" (c :: s) = (if c = '%' then ['%', '%'] else [c]) ++ copied "%s" s := by
      simp [copied]
    rw [hcons, List.append_assoc]
    by_cases hc : c = '%'
    · subst hc
      simp [readFormat, ih, Function.comp_def]
    · rw [if_neg hc, List.singleton_append, readFormat, if_neg hc, ih]
      · simp [Function.comp_def]
      · simp [hc]
      · simp [hc]

/-- The pieces that a lexeme is compiled to. -/
def Lexeme.pieces (l : Lexeme) : List FormatPiece :=
  if l.parameter?.isSome then [.parameter] else l.text.map .char

/-- A compiled lexeme is read as its pieces, whatever follows it. -/
theorem readFormat_withMarker (l : Lexeme) (rest : List Char) :
    readFormat (l.withMarker "%s" ++ rest) = (readFormat rest).map (l.pieces ++ ·) := by
  cases l with
  | placeholder tag name => simp [Lexeme.withMarker, readFormat, Lexeme.pieces, Lexeme.parameter?]
  | _ => exact readFormat_copied _ rest

/-- The compiled text is read as the pieces of the lexemes. -/
theorem readFormat_withMarkers (ls : List Lexeme) :
    readFormat (withMarkers "%s" ls) = some (ls.flatMap Lexeme.pieces) := by
  induction ls with
  | nil => rfl
  | cons l ls ih =>
    rw [withMarkers] at ih
    rw [withMarkers, List.flatMap_cons, readFormat_withMarker, ih]
    rfl

/-! ## Filling it in -/

theorem fill_append_char (s : List Char) (ps : List FormatPiece) (texts : List (List Char)) :
    fill (s.map .char ++ ps) texts = (fill ps texts).map (s ++ ·) := by
  induction s with
  | nil => cases h : fill ps texts <;> simp [h]
  | cons c s ih => simp [fill, ih, Function.comp_def]

/-- Filled with the texts of the placeholders, the pieces of lexemes are their texts. -/
theorem fill_pieces (ls : List Lexeme) :
    fill (ls.flatMap Lexeme.pieces) (placeholderTexts ls) = some (ls.flatMap Lexeme.text) := by
  induction ls with
  | nil => rfl
  | cons l ls ih =>
    rw [List.flatMap_cons, List.flatMap_cons]
    by_cases h : l.parameter?.isSome
    · have ht : placeholderTexts (l :: ls) = l.text :: placeholderTexts ls := by
        simp [placeholderTexts, h]
      rw [ht, Lexeme.pieces, if_pos h, List.singleton_append, fill, ih]
      rfl
    · have ht : placeholderTexts (l :: ls) = placeholderTexts ls := by
        simp [placeholderTexts, h]
      rw [ht, Lexeme.pieces, if_neg h, fill_append_char, ih]
      rfl

/-- The pieces of lexemes have a parameter for every placeholder. -/
theorem count_parameter_pieces (ls : List Lexeme) :
    (ls.flatMap Lexeme.pieces).count .parameter = (parameters ls).length := by
  induction ls with
  | nil => rfl
  | cons l ls ih =>
    have hl : l.pieces.count .parameter = l.parameter?.toList.length := by
      cases h : l.parameter? with
      | none =>
        simp only [Lexeme.pieces, h]
        exact List.count_eq_zero.mpr (by simp)
      | some p => simp [Lexeme.pieces, h]
    rw [List.flatMap_cons, List.count_append, hl, ih, parameters_cons, List.length_append]

/-! ## Both markers -/

/-- **Format drivers see the intended markers.**  The text compiled for `%s` is a format with one
    parameter for every name, and with the placeholders put back it is the source.  The notes, the
    names, the types and the refused token are those for the marker `?`, and only strict
    compilation refuses anything. -/
theorem compile_format (strict : Bool) (lexing : LexOptions) (sql : String) :
    let forFormat := compile ⟨"%s", strict, lexing⟩ sql
    let forMark := compile ⟨"?", strict, lexing⟩ sql
    forFormat.notes = forMark.notes ∧
      match forFormat.outcome, forMark.outcome with
      | .ok c, .ok m =>
        c.names = m.names ∧ c.types = m.types ∧
        ∃ pieces, readFormat c.sql.toList = some pieces ∧
          pieces.count .parameter = c.names.length ∧
          fill pieces (placeholderTexts (lex lexing sql.toList)) = some sql.toList
      | .error a, .error b => a = b ∧ strict = true
      | _, _ => False := by
  intro forFormat forMark
  have hread := readFormat_withMarkers (lex lexing sql.toList)
  have hfill := fill_pieces (lex lexing sql.toList)
  have hcount := count_parameter_pieces (lex lexing sql.toList)
  rw [lex, text_lexemes] at hfill
  simp only [forFormat, forMark, compile]
  cases h : if strict then firstAmbiguity? 0 (lex lexing sql.toList) else none with
  | some a =>
    refine ⟨rfl, rfl, ?_⟩
    cases strict with
    | true => rfl
    | false => cases h
  | none =>
    refine ⟨rfl, rfl, rfl, _, ?_, ?_, hfill⟩
    · rw [compiled, String.toList_ofList]
      exact hread
    · rw [compiled, List.length_map]
      exact hcount

end TaggedSql.Placeholder
