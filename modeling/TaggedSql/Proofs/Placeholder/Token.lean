/-
  The tokens at the front of a text, by their text.

  A placeholder is read exactly where a tag letter or none, a colon and a whole word stand
  (`placeholder?_eq_some_iff`).  A token is a region or a cast, or it stands behind no glue and is
  a placeholder or an ambiguous token (`token?_cases`); the latter two consist of glue throughout
  (`isGlue_of_mem_text`), so no token can start inside them.
-/
import Mathlib.Data.List.TakeWhile
import TaggedSql.Placeholder.Lexeme

namespace TaggedSql.Placeholder

open TaggedSql.Text

/-! ## Words and placeholders -/

/-- A word at the front of a text, and what follows it. -/
theorem takeWhile_dropWhile_eq_iff {p : Char → Bool} {s w rest : List Char} :
    s.takeWhile p = w ∧ s.dropWhile p = rest ↔
      s = w ++ rest ∧ (∀ c ∈ w, p c) ∧ ∀ c ∈ rest.head?, ¬p c := by
  constructor
  · rintro ⟨rfl, rfl⟩
    refine ⟨(List.takeWhile_append_dropWhile ..).symm, fun c hc => List.mem_takeWhile_imp hc, ?_⟩
    intro c hc
    have := List.head?_dropWhile_not p s
    rw [Option.mem_def.mp hc] at this
    simpa using this
  · rintro ⟨rfl, hw, hrest⟩
    rw [List.takeWhile_append_of_pos hw, List.dropWhile_append_of_pos hw]
    cases rest with
    | nil => simp
    | cons c rest =>
      have hc := hrest c rfl
      simp [hc]

theorem named?_eq_some_iff {tag : Option Char} {s : List Char} {t : Lexeme × List Char} :
    named? tag s = some t ↔
      ∃ name rest, t = (.placeholder tag name, rest) ∧ s = name ++ rest ∧ name ≠ [] ∧
        (∀ c ∈ name, isWordChar c) ∧ ∀ c ∈ rest.head?, ¬isWordChar c := by
  constructor
  · intro h
    simp only [named?] at h
    split at h
    · cases h
    · next hne =>
      obtain ⟨hs, hw, hrest⟩ := takeWhile_dropWhile_eq_iff.mp ⟨rfl, rfl⟩
      exact ⟨_, _, (Option.some.inj h).symm, hs, by simpa using hne, hw, hrest⟩
  · rintro ⟨name, rest, rfl, rfl, hne, hw, hrest⟩
    obtain ⟨htake, hdrop⟩ := takeWhile_dropWhile_eq_iff.mpr ⟨rfl, hw, hrest⟩
    have hne' : name.isEmpty = false := by simpa using hne
    simp [named?, htake, hdrop, hne']

/-- The placeholder at the front of a text is a tag letter or none, a colon and a whole word. -/
theorem placeholder?_eq_some_iff {s : List Char} {t : Lexeme × List Char} :
    placeholder? s = some t ↔
      ∃ tag name rest, t = (.placeholder tag name, rest) ∧
        s = (tag.toList ++ ':' :: name) ++ rest ∧ (∀ c ∈ tag, c ∈ BindType.tagLetters) ∧
        name ≠ [] ∧ (∀ c ∈ name, isWordChar c) ∧ ∀ c ∈ rest.head?, ¬isWordChar c := by
  constructor
  · intro h
    unfold placeholder? at h
    split at h
    · obtain ⟨name, rest, ht, hs, hw⟩ := named?_eq_some_iff.mp h
      exact ⟨none, name, rest, ht, by simp [hs], by simp, hw⟩
    · split at h
      · next c rest' _ htag =>
        obtain ⟨name, rest, ht, hs, hw⟩ := named?_eq_some_iff.mp h
        refine ⟨some c, name, rest, ht, by simp [hs], ?_, hw⟩
        intro d hd
        rw [← Option.some.inj hd]
        exact (BindType.mem_tagLetters_iff c).mpr htag
      · cases h
    · cases h
  · rintro ⟨tag, name, rest, rfl, rfl, htag, hw⟩
    have hname : ∀ tag, named? tag (name ++ rest) = some (.placeholder tag name, rest) := by
      intro tag
      exact named?_eq_some_iff.mpr ⟨name, rest, rfl, rfl, hw⟩
    cases tag with
    | none => simpa [placeholder?] using hname none
    | some c =>
      have hc := (BindType.mem_tagLetters_iff c).mp (htag c rfl)
      have hne : c ≠ ':' := by
        rintro rfl
        cases hc
      simp [placeholder?, hc, hname]

/-- Where a placeholder stands there is no cast. -/
theorem cast?_of_placeholder? {s : List Char} {t : Lexeme × List Char}
    (h : placeholder? s = some t) : cast? s = none := by
  obtain ⟨tag, name, rest, -, rfl, htag, hne, hname, -⟩ := placeholder?_eq_some_iff.mp h
  cases tag with
  | none =>
    obtain ⟨c, name, rfl⟩ := List.exists_cons_of_ne_nil hne
    have hc : c ≠ ':' := by
      rintro rfl
      exact absurd (hname ':' List.mem_cons_self) (by decide)
    simp [cast?, hc]
  | some c =>
    have hc : c ≠ ':' := by
      rintro rfl
      exact absurd (htag ':' rfl) (by decide)
    simp [cast?, hc]

/-! ## All tokens -/

/-- Whether the lexeme is a literal, a quoted identifier, a comment or a cast. -/
def Lexeme.isVerbatim : Lexeme → Bool
  | .region .. | .cast => true
  | _ => false

theorem isVerbatim_of_region? {o : LexOptions} {s : List Char} {t : Lexeme × List Char}
    (h : region? o s = some t) : t.1.isVerbatim := by
  have hopened : ∀ {kind : Region} {opening : List Char} {r : Option Cut},
      r.map (opened kind opening) = some t → t.1.isVerbatim := by
    intro kind opening r hr
    obtain ⟨cut, -, rfl⟩ := Option.map_eq_some_iff.mp hr
    rfl
  unfold region? at h
  split at h
  · exact hopened h
  · exact hopened h
  · exact hopened h
  · split at h
    · exact hopened h
    · cases h
  · cases h
    rfl
  · exact hopened h
  · cases h

theorem ambiguous?_eq_some {s : List Char} {t : Lexeme × List Char} (h : ambiguous? s = some t) :
    ∃ word name, t.1 = .ambiguous word name ∧ (∀ c ∈ word, isWordChar c) ∧
      ∀ c ∈ name, isWordChar c := by
  simp only [ambiguous?] at h
  split at h
  · split at h
    · cases h
    · cases h
      exact ⟨_, _, rfl, fun c hc => List.mem_takeWhile_imp hc,
        fun c hc => List.mem_takeWhile_imp hc⟩
  · cases h

/-- **What a token is.**  It is verbatim, or it stands behind no glue and is a placeholder, or an
    ambiguous token where no placeholder stands. -/
theorem token?_cases {o : LexOptions} {previous : Option Char} {s : List Char}
    {t : Lexeme × List Char} (h : token? o previous s = some t) :
    t.1.isVerbatim ∨ previous.any isGlue = false ∧
      (placeholder? s = some t ∨ placeholder? s = none ∧ ambiguous? s = some t) := by
  simp only [token?, Option.or_eq_some_iff] at h
  rcases h with h | ⟨-, h | ⟨-, h⟩⟩
  · exact Or.inl (isVerbatim_of_region? h)
  · left
    unfold cast? at h
    split at h
    · cases h
      rfl
    · cases h
  · right
    split at h
    · cases h
    · next hg => exact ⟨by simpa using hg, Option.or_eq_some_iff.mp h⟩

/-- A verbatim token is a region or a cast. -/
theorem token?_verbatim {o : LexOptions} {previous : Option Char} {s : List Char}
    {t : Lexeme × List Char} (h : token? o previous s = some t) (hv : t.1.isVerbatim) :
    region? o s = some t ∨ t.1 = .cast := by
  simp only [token?, Option.or_eq_some_iff] at h
  rcases h with h | ⟨-, h | ⟨-, h⟩⟩
  · exact Or.inl h
  · right
    unfold cast? at h
    split at h
    · cases h
      rfl
    · cases h
  · split at h
    · cases h
    · rcases Option.or_eq_some_iff.mp h with h | ⟨-, h⟩
      · obtain ⟨_, _, _, rfl, -⟩ := placeholder?_eq_some_iff.mp h
        cases hv
      · obtain ⟨_, _, ht, -⟩ := ambiguous?_eq_some h
        rw [ht] at hv
        cases hv

/-- Where no token stands and no glue is in front, there is no placeholder. -/
theorem placeholder?_of_token?_none {o : LexOptions} {previous : Option Char} {s : List Char}
    (h : token? o previous s = none) (hg : previous.any isGlue = false) :
    placeholder? s = none := by
  simp only [token?, Option.or_eq_none_iff, hg, Bool.false_eq_true, ite_false] at h
  exact h.2.2.1

/-- The characters of a placeholder or an ambiguous token are word characters and colons. -/
theorem isGlue_of_mem_text {o : LexOptions} {previous : Option Char} {s : List Char}
    {t : Lexeme × List Char} (h : token? o previous s = some t) (hl : t.1.isVerbatim = false) :
    ∀ c ∈ t.1.text, isGlue c := by
  have hcolon : isGlue ':' := rfl
  rcases token?_cases h with hv | ⟨-, hp | ⟨-, ha⟩⟩
  · rw [hv] at hl
    cases hl
  · obtain ⟨tag, name, rest, rfl, -, htag, -, hname, -⟩ := placeholder?_eq_some_iff.mp hp
    intro c hc
    rcases List.mem_append.mp hc with hc | hc
    · exact isGlue_of_isWordChar (isWordChar_of_tag (htag c (Option.mem_toList.mp hc)))
    · rcases List.mem_cons.mp hc with rfl | hc
      · exact hcolon
      · exact isGlue_of_isWordChar (hname c hc)
  · obtain ⟨word, name, ht, hw, hn⟩ := ambiguous?_eq_some ha
    intro c hc
    rw [ht] at hc
    rcases List.mem_append.mp hc with hc | hc
    · exact isGlue_of_isWordChar (hw c hc)
    · rcases List.mem_cons.mp hc with rfl | hc
      · exact hcolon
      · exact isGlue_of_isWordChar (hn c hc)

end TaggedSql.Placeholder
