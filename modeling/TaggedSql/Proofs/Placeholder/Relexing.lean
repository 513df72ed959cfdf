/-
  Lexing a text once more after its placeholders have become question marks.

  1. **Colon tokens** — placeholders and ambiguous tokens are told by their text alone
     (`colonToken?_eq_some_iff`), and whether one stands at the front of a text is settled by the
     word characters and colons there (`colonToken?_of_glueRun`).

  2. **Lexeme by lexeme** — `Remarked` relates the lexemes of a text to those of the text with
     question marks.  All lexemes but placeholders stay what they are, with one exception: a colon
     with a word behind it is no token behind the name of a placeholder, but behind a question
     mark it is a placeholder of its own.

  3. **The statement** (`remarked`) — the relation holds of every text.  The induction is on the
     length of the text; it carries along whether the last token was replaced, as that is all in
     which what precedes differs.
-/
import TaggedSql.Proofs.Placeholder.Enclosure

namespace TaggedSql.Placeholder

open TaggedSql.Text

/-! ## Colon tokens -/

/-- A word has word characters only, and at least one of them. -/
def IsWord (w : List Char) : Prop := w ≠ [] ∧ ∀ c ∈ w, isWordChar c

/-- No word goes on into the text. -/
def WordEnds (s : List Char) : Prop := ∀ c ∈ s.head?, ¬isWordChar c

/-- The placeholders and the ambiguous tokens that can be written. -/
def Lexeme.IsColonToken : Lexeme → Prop
  | .placeholder tag name => (∀ c ∈ tag, c ∈ BindType.tagLetters) ∧ IsWord name
  | .ambiguous word name => IsWord word ∧ IsWord name ∧ ∀ c ∈ BindType.tagLetters, word ≠ [c]
  | _ => False

/-- The placeholder or the ambiguous token at the front of a text. -/
def colonToken? (s : List Char) : Option (Lexeme × List Char) := (placeholder? s).or (ambiguous? s)

theorem token?_eq (o : LexOptions) (previous : Option Char) (s : List Char) :
    token? o previous s = (region? o s).or ((cast? s).or
      (if previous.any isGlue then none else colonToken? s)) := rfl

theorem ambiguous?_eq_some_iff {s : List Char} {t : Lexeme × List Char} :
    ambiguous? s = some t ↔
      ∃ word name rest, t = (.ambiguous word name, rest) ∧ s = word ++ ':' :: (name ++ rest) ∧
        IsWord word ∧ IsWord name ∧ WordEnds rest := by
  constructor
  · intro h
    simp only [ambiguous?] at h
    split at h
    · next rest hd =>
      obtain ⟨hs, hword, -⟩ := takeWhile_dropWhile_eq_iff.mp ⟨rfl, hd⟩
      split at h
      · cases h
      · next hne =>
        simp only [Bool.or_eq_true, List.isEmpty_iff, not_or] at hne
        have hrun : rest.takeWhile isWordChar = rest.takeWhile isWordChar ∧
          rest.dropWhile isWordChar = rest.dropWhile isWordChar := ⟨rfl, rfl⟩
        obtain ⟨hrest, hname, hends⟩ := takeWhile_dropWhile_eq_iff.mp hrun
        exact ⟨_, _, _, (Option.some.inj h).symm, by rw [← hrest]; exact hs, ⟨hne.1, hword⟩,
          ⟨hne.2, hname⟩, hends⟩
    · cases h
  · rintro ⟨word, name, rest, rfl, rfl, ⟨hne, hword⟩, ⟨hne', hname⟩, hends⟩
    have hcolon : ∀ c ∈ (':' :: (name ++ rest)).head?, ¬isWordChar c := by
      intro c hc
      cases hc
      decide
    obtain ⟨htake, hdrop⟩ := takeWhile_dropWhile_eq_iff.mpr ⟨rfl, hword, hcolon⟩
    obtain ⟨htake', hdrop'⟩ := takeWhile_dropWhile_eq_iff.mpr ⟨rfl, hname, hends⟩
    simp [ambiguous?, htake, hdrop, htake', hdrop', hne, hne']

/-- A word behind a tag letter and a colon is no ambiguous token: the word in front of a colon is
    determined by the text. -/
theorem word_of_colon {w v x y : List Char} (hw : ∀ c ∈ w, isWordChar c)
    (hv : ∀ c ∈ v, isWordChar c) (h : w ++ ':' :: x = v ++ ':' :: y) : w = v := by
  have hcolon : ∀ z : List Char, ∀ c ∈ (':' :: z).head?, ¬isWordChar c := by
    intro z c hc
    cases hc
    decide
  have htake := (takeWhile_dropWhile_eq_iff.mpr ⟨rfl, hw, hcolon x⟩).1
  rw [h] at htake
  exact htake.symm.trans (takeWhile_dropWhile_eq_iff.mpr ⟨rfl, hv, hcolon y⟩).1

/-- **What a colon token is.**  Its text stands at the front, and no word goes on behind it. -/
theorem colonToken?_eq_some_iff {s : List Char} {t : Lexeme × List Char} :
    colonToken? s = some t ↔ t.1.IsColonToken ∧ s = t.1.text ++ t.2 ∧ WordEnds t.2 := by
  rw [colonToken?, Option.or_eq_some_iff]
  constructor
  · rintro (h | ⟨hp, h⟩)
    · obtain ⟨tag, name, rest, rfl, hs, htag, hne, hname, hends⟩ := placeholder?_eq_some_iff.mp h
      exact ⟨⟨htag, hne, hname⟩, hs, hends⟩
    · obtain ⟨word, name, rest, rfl, hs, hword, hname, hends⟩ := ambiguous?_eq_some_iff.mp h
      refine ⟨⟨hword, hname, fun c hc hw => ?_⟩, by simpa [Lexeme.text] using hs, hends⟩
      have hplaceholder := placeholder?_eq_some_iff.mpr ⟨some c, name, rest, rfl,
        by simpa [hw] using hs, fun d hd => by rwa [← Option.some.inj hd], hname.1, hname.2, hends⟩
      rw [hp] at hplaceholder
      cases hplaceholder
  · obtain ⟨l, rest⟩ := t
    rintro ⟨hl, hs, hends⟩
    cases l with
    | placeholder tag name =>
      obtain ⟨htag, hne, hname⟩ := hl
      exact Or.inl (placeholder?_eq_some_iff.mpr
        ⟨tag, name, rest, rfl, hs, htag, hne, hname, hends⟩)
    | ambiguous word name =>
      obtain ⟨hword, hname, hno⟩ := hl
      have hs' : s = word ++ ':' :: (name ++ rest) := by simpa [Lexeme.text] using hs
      refine Or.inr ⟨?_, ambiguous?_eq_some_iff.mpr
        ⟨word, name, rest, rfl, hs', hword, hname, hends⟩⟩
      rw [Option.eq_none_iff_forall_ne_some]
      intro u hu
      obtain ⟨tag, name', rest', -, hs'', htag, -⟩ := placeholder?_eq_some_iff.mp hu
      have htagWord : ∀ c ∈ tag.toList, isWordChar c := fun c hc =>
        isWordChar_of_tag (htag c (Option.mem_toList.mp hc))
      rw [hs', List.append_assoc, List.cons_append] at hs''
      have hwordTag : word = tag.toList := word_of_colon hword.2 htagWord hs''
      cases tag with
      | none => exact hword.1 hwordTag
      | some c => exact hno c (htag c rfl) hwordTag
    | _ => exact absurd hl id

theorem Lexeme.IsColonToken.isGlue {l : Lexeme} (h : l.IsColonToken) : ∀ c ∈ l.text, isGlue c := by
  have hcolon : Placeholder.isGlue ':' := rfl
  cases l with
  | placeholder tag name =>
    obtain ⟨htag, -, hname⟩ := h
    intro c hc
    rcases List.mem_append.mp hc with hc | hc
    · exact isGlue_of_isWordChar (isWordChar_of_tag (htag c (Option.mem_toList.mp hc)))
    · rcases List.mem_cons.mp hc with rfl | hc
      · exact hcolon
      · exact isGlue_of_isWordChar (hname c hc)
  | ambiguous word name =>
    obtain ⟨⟨-, hword⟩, ⟨-, hname⟩, -⟩ := h
    intro c hc
    rcases List.mem_append.mp hc with hc | hc
    · exact isGlue_of_isWordChar (hword c hc)
    · rcases List.mem_cons.mp hc with rfl | hc
      · exact hcolon
      · exact isGlue_of_isWordChar (hname c hc)
  | _ => exact absurd h id

theorem Lexeme.IsColonToken.text_ne_nil {l : Lexeme} (h : l.IsColonToken) : l.text ≠ [] := by
  cases l with
  | placeholder tag name => simp [Lexeme.text]
  | ambiguous word name => simp [Lexeme.text]
  | _ => exact absurd h id

/-- Where a colon token stands there is neither a region nor a cast. -/
theorem region?_cast?_of_colonToken? {s : List Char} {t : Lexeme × List Char}
    (h : colonToken? s = some t) (o : LexOptions) : region? o s = none ∧ cast? s = none := by
  obtain ⟨hl, hs, -⟩ := colonToken?_eq_some_iff.mp h
  obtain ⟨c, w, hw⟩ := List.exists_cons_of_ne_nil hl.text_ne_nil
  constructor
  · rw [hs, hw, List.cons_append]
    exact region?_of_isGlue (hl.isGlue c (by rw [hw]; exact List.mem_cons_self)) _
  · rcases Option.or_eq_some_iff.mp h with hp | ⟨-, ha⟩
    · exact cast?_of_placeholder? hp
    · obtain ⟨word, name, rest, -, rfl, ⟨hne, hword⟩, -⟩ := ambiguous?_eq_some_iff.mp ha
      obtain ⟨d, word, rfl⟩ := List.exists_cons_of_ne_nil hne
      have hd : d ≠ ':' := by
        rintro rfl
        exact absurd (hword ':' List.mem_cons_self) (by decide)
      simp [cast?, hd]

/-- A colon token is a token of the text unless glue precedes it. -/
theorem token?_of_colonToken? {s : List Char} {t : Lexeme × List Char}
    (h : colonToken? s = some t) (o : LexOptions) (previous : Option Char) :
    token? o previous s = if previous.any isGlue then none else some t := by
  obtain ⟨hregion, hcast⟩ := region?_cast?_of_colonToken? h o
  rw [token?_eq, hregion, hcast, h]
  rfl

/-- Whether a colon token stands at the front is settled by the glue there. -/
theorem colonToken?_of_glueRun {s s' : List Char}
    (h : s'.takeWhile isGlue = s.takeWhile isGlue) (hs : colonToken? s = none) :
    colonToken? s' = none := by
  rw [Option.eq_none_iff_forall_ne_some] at hs ⊢
  intro t ht
  obtain ⟨hl, rfl, hends⟩ := colonToken?_eq_some_iff.mp ht
  rw [List.takeWhile_append_of_pos hl.isGlue] at h
  refine hs (t.1, t.2.takeWhile isGlue ++ s.dropWhile isGlue) ?_
  refine colonToken?_eq_some_iff.mpr ⟨hl, ?_, ?_⟩
  · rw [← List.append_assoc, h, List.takeWhile_append_dropWhile]
  · intro c hc hw
    cases hrun : t.2.takeWhile isGlue with
    | nil =>
      -- the glue ends with the token, and what follows it is no glue
      rw [hrun, List.nil_append] at hc
      have hnot := List.head?_dropWhile_not isGlue s
      rw [Option.mem_def.mp hc] at hnot
      have hc' : isGlue c = false := hnot
      rw [isGlue_of_isWordChar hw] at hc'
      cases hc'
    | cons d run =>
      rw [hrun] at hc
      have hd : t.2.head? = some c := by
        rw [← List.takeWhile_append_dropWhile (p := isGlue) (l := t.2), hrun]
        exact hc
      exact hends c hd hw

theorem wordEnds_marked {o : LexOptions} {v : List Char} (h : WordEnds v)
    (previous : Option Char) : WordEnds (marked o previous v) := by
  intro c hc
  rcases head?_marked o previous v with hv | ⟨hv, -⟩
  · exact h c (hv ▸ hc)
  · rw [hv] at hc
    cases hc
    decide

/-! ## Tokens of texts with question marks -/

/-- Behind glue no placeholder starts, so the glue at the front stays. -/
theorem glueRun_marked (o : LexOptions) {previous : Option Char} (s : List Char)
    (hp : previous.any isGlue) :
    (marked o previous s).takeWhile isGlue = s.takeWhile isGlue := by
  fun_induction lexemes o previous s with
  | case1 previous => rw [marked_nil]
  | case2 previous c rest t ht ih =>
    obtain ⟨w, hw⟩ := text_of_token?_cons ht
    have hv : t.1.isVerbatim := by
      rcases token?_cases ht with hv | ⟨hg, -⟩
      · exact hv
      · rw [hp] at hg
        cases hg
    rw [marked_of_token ht, withMarker_of_parameter? (parameter?_of_isVerbatim hv)]
    cases hr : region? o (c :: rest) with
    | some u =>
      have hc : isGlue c = false := by
        cases hc : isGlue c with
        | false => rfl
        | true =>
          rw [region?_of_isGlue hc] at hr
          cases hr
      simp [hw, hc]
    | none =>
      have hglue := isGlue_of_mem_token ht hr
      have hlast : t.1.text.getLast?.any isGlue := by
        rw [List.getLast?_eq_some_getLast (fits_token ht).1]
        exact hglue _ (List.getLast_mem _)
      rw [← (fits_token ht).2, List.takeWhile_append_of_pos hglue,
        List.takeWhile_append_of_pos hglue, ih hlast]
  | case3 previous c rest ht ih =>
    rw [marked_of_gap ht]
    by_cases hc : isGlue c
    · simp [hc, ih hc]
    · simp [hc]

/-- Where no token stands in a text, none stands with question marks behind it. -/
theorem token?_cons_marked {o : LexOptions} {previous previous' : Option Char} {c : Char}
    {rest : List Char} (h : token? o previous (c :: rest) = none)
    (hcolon : previous'.any isGlue ∨ colonToken? (c :: rest) = none) :
    token? o previous' (c :: marked o (some c) rest) = none := by
  simp only [token?_eq, Option.or_eq_none_iff] at h ⊢
  obtain ⟨hregion, hcast, -⟩ := h
  refine ⟨region?_cons_marked hregion _, ?_, ?_⟩
  · by_cases hc : c = ':'
    · subst hc
      have hnext : (marked o (some ':') rest).head? ≠ some ':' := by
        intro hm
        obtain ⟨rest', rfl⟩ := List.head?_eq_some_iff.mp (head?_of_head?_marked (by decide) hm)
        cases hcast
      cases hm : marked o (some ':') rest with
      | nil => rfl
      | cons d m =>
        have hd : d ≠ ':' := by
          rintro rfl
          exact hnext (by rw [hm]; rfl)
        simp [cast?, hd]
    · simp [cast?, hc]
  · rcases hcolon with hg | hnone
    · rw [if_pos hg]
    · have hrun : (c :: marked o (some c) rest).takeWhile isGlue =
          (c :: rest).takeWhile isGlue := by
        by_cases hc : isGlue c
        · have hrest : (marked o (some c) rest).takeWhile isGlue = rest.takeWhile isGlue :=
            glueRun_marked o rest hc
          simp [hc, hrest]
        · simp [hc]
      rw [colonToken?_of_glueRun hrun hnone, ite_self]

/-- A verbatim token stays, whatever precedes. -/
theorem token?_marked_of_isVerbatim {o : LexOptions} {previous : Option Char} {s : List Char}
    {t : Lexeme × List Char} (h : token? o previous s = some t) (hv : t.1.isVerbatim)
    (previous' : Option Char) :
    token? o previous' (marked o previous s) = some (t.1, marked o t.1.text.getLast? t.2) := by
  rcases token?_verbatim h hv with hr | hcast
  · exact token?_of_region? (by rw [region?_marked, hr]; rfl)
  · rw [marked_of_token h, hcast]
    rfl

/-- A token that is no placeholder stays. -/
theorem token?_marked {o : LexOptions} {previous : Option Char} {s : List Char}
    {t : Lexeme × List Char} (h : token? o previous s = some t) (hp : t.1.parameter? = none) :
    token? o previous (marked o previous s) = some (t.1, marked o t.1.text.getLast? t.2) := by
  rcases token?_cases h with hv | ⟨hg, hcolon⟩
  · exact token?_marked_of_isVerbatim h hv previous
  · obtain ⟨hl, -, hends⟩ := colonToken?_eq_some_iff.mp (Option.or_eq_some_iff.mpr hcolon)
    have hstays : colonToken? (t.1.text ++ marked o t.1.text.getLast? t.2) =
        some (t.1, marked o t.1.text.getLast? t.2) :=
      colonToken?_eq_some_iff.mpr ⟨hl, rfl, wordEnds_marked hends _⟩
    rw [marked_of_token h, withMarker_of_parameter? hp, token?_of_colonToken? hstays, hg]
    rfl

/-! ## Lexeme by lexeme -/

/-- The lexemes of a text beside those of the text with question marks.  The flag says that a
    question mark stands in front. -/
inductive Remarked : Bool → List Lexeme → List Lexeme → Prop
  | nil {b : Bool} : Remarked b [] []
  | kept {b : Bool} {l : Lexeme} {ls ms : List Lexeme} :
      l.parameter? = none → (b → placeholder? ((l :: ls).flatMap Lexeme.text) = none) →
      Remarked false ls ms → Remarked b (l :: ls) (l :: ms)
  | marked {tag : Option Char} {name : List Char} {ls ms : List Lexeme} :
      Remarked true ls ms → Remarked false (.placeholder tag name :: ls) (.plain '?' :: ms)
  /-- A colon and a word behind a question mark. -/
  | glued {name : List Char} {ls ms : List Lexeme} :
      IsWord name → WordEnds (ls.flatMap Lexeme.text) → Remarked false ls ms →
      Remarked true (.plain ':' :: (name.map Lexeme.plain ++ ls)) (.placeholder none name :: ms)

/-- A word behind glue is plain text. -/
theorem lexemes_word {o : LexOptions} {w : List Char} (hw : ∀ c ∈ w, isWordChar c)
    (rest : List Char) :
    ∀ {previous : Option Char}, previous.any isGlue →
      lexemes o previous (w ++ rest) =
        w.map Lexeme.plain ++ lexemes o (w.getLast?.or previous) rest := by
  induction w with
  | nil => intro previous _; rfl
  | cons c w ih =>
    intro previous hg
    have hc := isGlue_of_isWordChar (hw c List.mem_cons_self)
    have hgap : token? o previous (c :: (w ++ rest)) = none := by
      have hne : c ≠ ':' := by
        rintro rfl
        exact absurd (hw ':' List.mem_cons_self) (by decide)
      simp [token?, region?_of_isGlue hc, hg, cast?, hne]
    have hlast : (c :: w).getLast?.or previous = w.getLast?.or (some c) := by
      cases w <;> simp [List.getLast?_cons]
    have hrest : lexemes o (some c) (w ++ rest) =
        w.map Lexeme.plain ++ lexemes o (w.getLast?.or (some c)) rest :=
      ih (fun d hd => hw d (List.mem_cons_of_mem c hd)) hc
    rw [List.cons_append, lexemes_of_gap hgap, hlast, hrest]
    rfl

theorem text_word (w : List Char) : (w.map Lexeme.plain).flatMap Lexeme.text = w := by
  induction w with
  | nil => rfl
  | cons c w ih => exact congrArg (c :: ·) ih

theorem withMarkers_word (w : List Char) : withMarkers "?" (w.map Lexeme.plain) = w := by
  induction w with
  | nil => rfl
  | cons c w ih => exact congrArg (c :: ·) ih

/-- A word behind glue stays. -/
theorem marked_word {o : LexOptions} {w : List Char} (hw : ∀ c ∈ w, isWordChar c)
    (rest : List Char) {previous : Option Char} (hp : previous.any isGlue) :
    marked o previous (w ++ rest) = w ++ marked o (w.getLast?.or previous) rest := by
  have hword := withMarkers_word w
  rw [marked, lexemes_word hw rest hp]
  unfold withMarkers at hword ⊢
  rw [List.flatMap_append, hword]
  rfl

/-- A text in front of which a question mark has come to stand: what starts there with a colon and
    a word is a placeholder now. -/
theorem remarked_glued {o : LexOptions} {previous : Option Char} (hp : previous.any isGlue)
    {name rest : List Char} (hname : IsWord name) (hends : WordEnds rest)
    (ih : Remarked false (lexemes o name.getLast? rest)
      (lexemes o name.getLast? (marked o name.getLast? rest))) :
    Remarked true (lexemes o previous (':' :: (name ++ rest)))
      (lexemes o (some '?') (marked o previous (':' :: (name ++ rest)))) := by
  have hlast : ∀ p : Option Char, name.getLast?.or p = name.getLast? := by
    intro p
    rw [List.getLast?_eq_some_getLast hname.1]
    rfl
  have hplaceholder : ∀ v, WordEnds v →
      colonToken? (':' :: (name ++ v)) = some (.placeholder none name, v) := by
    intro v hv
    exact colonToken?_eq_some_iff.mpr ⟨⟨fun c hc => (by cases hc), hname⟩, rfl, hv⟩
  have hgap : token? o previous (':' :: (name ++ rest)) = none := by
    rw [token?_of_colonToken? (hplaceholder rest hends), if_pos hp]
  have htoken := token?_of_colonToken?
    (hplaceholder _ (wordEnds_marked (o := o) hends name.getLast?)) o (some '?')
  rw [marked_of_gap hgap, marked_word hname.2 rest rfl, lexemes_of_gap hgap,
    lexemes_word hname.2 rest rfl, hlast, lexemes_of_token htoken]
  have htext : (Lexeme.placeholder none name).text.getLast? = name.getLast? := by
    obtain ⟨c, w, rfl⟩ := List.exists_cons_of_ne_nil hname.1
    simp [Lexeme.text, List.getLast?_cons]
  rw [htext]
  exact Remarked.glued hname (by rwa [text_lexemes]) ih

section Kept

variable {o : LexOptions} {previous previous' : Option Char} {b : Bool}

/-- A token that stays, in front of related texts. -/
theorem remarked_of_token {s : List Char} {t : Lexeme × List Char}
    (h : token? o previous s = some t) (hp : t.1.parameter? = none)
    (h' : token? o previous' (marked o previous s) = some (t.1, marked o t.1.text.getLast? t.2))
    (hb : b → placeholder? s = none)
    (ih : Remarked false (lexemes o t.1.text.getLast? t.2)
      (lexemes o t.1.text.getLast? (marked o t.1.text.getLast? t.2))) :
    Remarked b (lexemes o previous s) (lexemes o previous' (marked o previous s)) := by
  have htext := text_lexemes o previous s
  rw [lexemes_of_token h] at htext
  rw [lexemes_of_token h, lexemes_of_token h']
  exact .kept hp (by rwa [htext]) ih

/-- A plain character that stays, in front of related texts. -/
theorem remarked_of_gap {c : Char} {rest : List Char} (h : token? o previous (c :: rest) = none)
    (hcolon : previous'.any isGlue ∨ colonToken? (c :: rest) = none)
    (hb : b → placeholder? (c :: rest) = none)
    (ih : Remarked false (lexemes o (some c) rest)
      (lexemes o (some c) (marked o (some c) rest))) :
    Remarked b (lexemes o previous (c :: rest))
      (lexemes o previous' (marked o previous (c :: rest))) := by
  have htext := text_lexemes o previous (c :: rest)
  rw [lexemes_of_gap h] at htext
  rw [marked_of_gap h, lexemes_of_gap h, lexemes_of_gap (token?_cons_marked h hcolon)]
  exact .kept rfl (by rwa [htext]) ih

/-- A placeholder is replaced; behind the question mark no glue precedes. -/
theorem remarked_of_placeholder {s : List Char} {t : Lexeme × List Char} {tag : Option Char}
    {name : List Char} (h : token? o previous s = some t) (hl : t.1 = .placeholder tag name)
    (ih : t.1.text.getLast?.any isGlue → WordEnds t.2 →
      Remarked true (lexemes o t.1.text.getLast? t.2)
        (lexemes o (some '?') (marked o t.1.text.getLast? t.2))) :
    Remarked false (lexemes o previous s) (lexemes o previous (marked o previous s)) := by
  rcases token?_cases h with hv | ⟨-, hcolon⟩
  · rw [hl] at hv
    cases hv
  · obtain ⟨hcol, -, hends⟩ := colonToken?_eq_some_iff.mp (Option.or_eq_some_iff.mpr hcolon)
    have hlast : t.1.text.getLast?.any isGlue := by
      rw [List.getLast?_eq_some_getLast hcol.text_ne_nil]
      exact hcol.isGlue _ (List.getLast_mem _)
    have hrelated := ih hlast hends
    have hmark : marked o previous s = '?' :: marked o t.1.text.getLast? t.2 := by
      rw [marked_of_token h, hl]
      rfl
    have hgap : token? o previous ('?' :: marked o t.1.text.getLast? t.2) = none :=
      token?_of_head_not_glue rfl _
    rw [hmark, lexemes_of_token h, lexemes_of_gap hgap]
    rw [hl] at hrelated ⊢
    exact .marked hrelated

end Kept

/-- Where no word goes on, a placeholder has no tag. -/
theorem untagged_of_wordEnds {s : List Char} {u : Lexeme × List Char} (hends : WordEnds s)
    (hu : placeholder? s = some u) :
    ∃ name rest, s = ':' :: (name ++ rest) ∧ IsWord name ∧ WordEnds rest := by
  obtain ⟨tag, name, rest, -, rfl, htag, hne, hname, hends'⟩ := placeholder?_eq_some_iff.mp hu
  cases tag with
  | none => exact ⟨name, rest, rfl, ⟨hne, hname⟩, hends'⟩
  | some c => exact absurd (isWordChar_of_tag (htag c rfl)) (hends c rfl)

/-- **Lexing once more.**  The lexemes of a text and those of the text with question marks are
    related, whether the character in front is the same or has been replaced. -/
theorem remarked (o : LexOptions) (s : List Char) (previous : Option Char) :
    Remarked false (lexemes o previous s) (lexemes o previous (marked o previous s)) ∧
      (previous.any isGlue → WordEnds s →
        Remarked true (lexemes o previous s) (lexemes o (some '?') (marked o previous s))) := by
  induction hn : s.length using Nat.strong_induction_on generalizing s previous with
  | _ n ih =>
  subst hn
  cases s with
  | nil => simp only [marked_nil, lexemes_nil]; exact ⟨.nil, fun _ _ => .nil⟩
  | cons c rest =>
    have hrest := (ih rest.length (Nat.lt_succ_self _) rest (some c) rfl).1
    constructor
    · cases ht : token? o previous (c :: rest) with
      | none =>
        have hcolon : previous.any isGlue ∨ colonToken? (c :: rest) = none := by
          have hnone := (Option.or_eq_none_iff.mp (Option.or_eq_none_iff.mp ht).2).2
          exact Decidable.or_iff_not_imp_left.mpr (ite_eq_left_iff.mp hnone)
        exact remarked_of_gap ht hcolon (fun hb => by cases hb) hrest
      | some t =>
        have hlater := ih t.2.length (length_token?_lt ht) t.2 t.1.text.getLast? rfl
        rcases withMarker_cases t.1 with ⟨tag, name, hl⟩ | ⟨hp, -⟩
        · exact remarked_of_placeholder ht hl hlater.2
        · exact remarked_of_token ht hp (token?_marked ht hp) (fun hb => by cases hb) hlater.1
    · intro hp hends
      cases hu : placeholder? (c :: rest) with
      | some u =>
        obtain ⟨name, rest', hs, hname, hends'⟩ := untagged_of_wordEnds hends hu
        obtain ⟨rfl, rfl⟩ := List.cons.inj hs
        have hlt : rest'.length < (':' :: (name ++ rest')).length := by
          rw [List.length_cons, List.length_append]
          omega
        exact remarked_glued hp hname hends' (ih _ hlt rest' name.getLast? rfl).1
      | none =>
        cases ht : token? o previous (c :: rest) with
        | none =>
          have hcolon : colonToken? (c :: rest) = none := by
            rw [colonToken?, hu, ambiguous?_eq_none (hends c rfl)]
            rfl
          exact remarked_of_gap ht (Or.inr hcolon) (fun _ => hu) hrest
        | some t =>
          have hlater := ih t.2.length (length_token?_lt ht) t.2 t.1.text.getLast? rfl
          rcases token?_cases ht with hv | ⟨hg, -⟩
          · exact remarked_of_token ht (parameter?_of_isVerbatim hv)
              (token?_marked_of_isVerbatim ht hv _) (fun _ => hu) hlater.1
          · rw [hp] at hg
            cases hg

/-- The lexemes of a text beside those of the statement that it is compiled to. -/
theorem remarked_compiled (o : LexOptions) (sql : String) :
    Remarked false (lex o sql.toList) (lex o (compiled "?" (lex o sql.toList)).sql.toList) := by
  rw [compiled, String.toList_ofList]
  exact (remarked o sql.toList none).1

end TaggedSql.Placeholder
