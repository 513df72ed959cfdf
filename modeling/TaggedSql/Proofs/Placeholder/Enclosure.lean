/-
  Quoted regions and comments of a text whose placeholders have become question marks.

  1. **Searches** — whether a region is closed at all is settled by one pass over the text that
     never looks back (`isSome_closed?`, `isSome_commentEnd?`).  Such a pass takes a run of word
     characters and colons for a question mark, so it ends alike before and after placeholders are
     replaced (`foldl_marked`).

  2. **Ends** — where a quoted region ends depends on what follows it in one way only: the closing
     character must not stand there as the first half of a pair that the rest of the text still
     closes (`closed?_append_of_ends`).

  3. **The statement** (`region?_marked`) — in front of the text with question marks stands the
     region that stands in front of the text with placeholders, and behind it the same text with
     question marks; where the one has no region, the other has none.
-/
import Mathlib.Data.List.Basic
import TaggedSql.Placeholder.Compile
import TaggedSql.Proofs.Placeholder.Junction

namespace TaggedSql.Placeholder

open TaggedSql.Text

/-! ## Texts with question marks -/

/-- A text that `previous` precedes, with a question mark in the place of every placeholder. -/
def marked (o : LexOptions) (previous : Option Char) (s : List Char) : List Char :=
  withMarkers "?" (lexemes o previous s)

/-- Placeholders become question marks, everything else is copied. -/
theorem withMarker_cases (l : Lexeme) :
    (∃ tag name, l = .placeholder tag name) ∨ l.parameter? = none ∧ l.withMarker "?" = l.text := by
  cases l with
  | placeholder tag name => exact Or.inl ⟨tag, name, rfl⟩
  | _ => exact Or.inr ⟨rfl, rfl⟩

/-- Everything but placeholders is copied. -/
theorem withMarker_of_parameter? {l : Lexeme} (h : l.parameter? = none) :
    l.withMarker "?" = l.text := by
  rcases withMarker_cases l with ⟨tag, name, rfl⟩ | ⟨-, hl⟩
  · cases h
  · exact hl

theorem parameter?_of_isVerbatim {l : Lexeme} (h : l.isVerbatim) : l.parameter? = none := by
  rcases withMarker_cases l with ⟨tag, name, rfl⟩ | ⟨hl, -⟩
  · cases h
  · exact hl

@[simp] theorem marked_nil (o : LexOptions) (previous : Option Char) :
    marked o previous [] = [] := by
  rw [marked, lexemes_nil]
  rfl

theorem marked_of_token {o : LexOptions} {previous : Option Char} {s : List Char}
    {t : Lexeme × List Char} (h : token? o previous s = some t) :
    marked o previous s = t.1.withMarker "?" ++ marked o t.1.text.getLast? t.2 := by
  rw [marked, lexemes_of_token h]
  rfl

theorem marked_of_gap {o : LexOptions} {previous : Option Char} {c : Char} {rest : List Char}
    (h : token? o previous (c :: rest) = none) :
    marked o previous (c :: rest) = c :: marked o (some c) rest := by
  rw [marked, lexemes_of_gap h]
  rfl

theorem token?_of_region? {o : LexOptions} {previous : Option Char} {s : List Char}
    {t : Lexeme × List Char} (h : region? o s = some t) : token? o previous s = some t := by
  simp [token?, h]

/-- Tokens other than regions are made of glue. -/
theorem isGlue_of_mem_token {o : LexOptions} {previous : Option Char} {s : List Char}
    {t : Lexeme × List Char} (h : token? o previous s = some t) (hr : region? o s = none) :
    ∀ c ∈ t.1.text, isGlue c := by
  cases hv : t.1.isVerbatim with
  | false => exact isGlue_of_mem_text h hv
  | true =>
    rcases token?_verbatim h hv with hr' | hcast
    · rw [hr] at hr'
      cases hr'
    · rw [hcast]
      exact List.all_eq_true.mp rfl

/-- A token starts with the first character of the text. -/
theorem text_of_token?_cons {o : LexOptions} {previous : Option Char} {c : Char}
    {rest : List Char} {t : Lexeme × List Char} (h : token? o previous (c :: rest) = some t) :
    ∃ w, t.1.text = c :: w := by
  obtain ⟨hne, happ⟩ := fits_token h
  obtain ⟨d, w, hw⟩ := List.exists_cons_of_ne_nil hne
  rw [hw] at happ
  exact ⟨w, by rw [hw, (List.cons.inj happ).1]⟩

/-- Where a character that is no glue stands, only a region can start. -/
theorem token?_of_head_not_glue {o : LexOptions} {previous : Option Char} {c : Char}
    (h : isGlue c = false) (rest : List Char) :
    token? o previous (c :: rest) = region? o (c :: rest) := by
  cases ht : token? o previous (c :: rest) with
  | none => exact (Option.or_eq_none_iff.mp ht).1.symm
  | some t =>
    cases hr : region? o (c :: rest) with
    | some u => exact ht.symm.trans (token?_of_region? hr)
    | none =>
      obtain ⟨w, hw⟩ := text_of_token?_cons ht
      rw [isGlue_of_mem_token ht hr c (by rw [hw]; exact List.mem_cons_self)] at h
      cases h

/-- The first character stays, unless a placeholder starts there. -/
theorem head?_marked (o : LexOptions) (previous : Option Char) (s : List Char) :
    (marked o previous s).head? = s.head? ∨
      (marked o previous s).head? = some '?' ∧ ∃ c, s.head? = some c ∧ isGlue c := by
  cases s with
  | nil => exact Or.inl (by rw [marked_nil])
  | cons c rest =>
    cases ht : token? o previous (c :: rest) with
    | none => exact Or.inl (by rw [marked_of_gap ht]; rfl)
    | some t =>
      obtain ⟨w, hw⟩ := text_of_token?_cons ht
      rw [marked_of_token ht]
      rcases withMarker_cases t.1 with ⟨tag, name, hl⟩ | ⟨-, hl⟩
      · have hglue := isGlue_of_mem_text ht (by rw [hl]; rfl)
        refine Or.inr ⟨by rw [hl]; rfl, c, rfl, hglue c ?_⟩
        rw [hw]
        exact List.mem_cons_self
      · exact Or.inl (by rw [hl, hw]; rfl)

/-- A question mark apart, what the text with question marks starts with the text starts with. -/
theorem head?_of_head?_marked {o : LexOptions} {previous : Option Char} {s : List Char} {c : Char}
    (hc : c ≠ '?') (h : (marked o previous s).head? = some c) : s.head? = some c := by
  rcases head?_marked o previous s with hs | ⟨hq, -⟩
  · exact hs.symm.trans h
  · exact absurd (Option.some.inj (h.symm.trans hq)) hc

/-- A text that starts with no glue keeps its first character. -/
theorem head?_marked_of_not_glue {o : LexOptions} {previous : Option Char} {s : List Char}
    (h : ∀ c ∈ s.head?, isGlue c = false) : (marked o previous s).head? = s.head? := by
  rcases head?_marked o previous s with hs | ⟨-, c, hc, hg⟩
  · exact hs
  · rw [h c hc] at hg
    cases hg

/-! ## Searches -/

/-- What a search for the end of a region has come to. -/
inductive Search where
  | seeking
  /-- One character has been read that has to be seen together with the next one. -/
  | half
  /-- There is no end to be found any more. -/
  | stuck
  | found
  deriving DecidableEq

/-- Searches for a closing character. -/
def Search.quoted (escapes : Bool) (close : Char) : Search → Char → Search
  | .seeking, c => if escapes && c = '\\' then .half else if c = close then .found else .seeking
  | .half, c => if c = '\n' then .stuck else .seeking
  | .stuck, _ => .stuck
  | .found, _ => .found

/-- Searches for the end of a block comment. -/
def Search.comment : Search → Char → Search
  | .seeking, c => if c = '*' then .half else .seeking
  | .half, c => if c = '/' then .found else if c = '*' then .half else .seeking
  | .stuck, _ => .stuck
  | .found, _ => .found

theorem Search.foldl_quoted_found (escapes : Bool) (close : Char) (s : List Char) :
    s.foldl (Search.quoted escapes close) .found = .found :=
  List.foldl_fixed' (fun _ => rfl) s

/-- A quoted region is closed exactly when a search finds its closing character. -/
theorem isSome_closed? (escapes : Bool) (close : Char) (s : List Char) :
    (closed? escapes close s).isSome ↔
      s.foldl (Search.quoted escapes close) .seeking = .found := by
  fun_induction closed? escapes close s with
  | case1 => simp
  | case2 c hc => simp [Search.quoted, hc]
  | case3 c hc rest =>
    have hstuck := List.foldl_fixed' (f := Search.quoted escapes close) (a := .stuck)
      (fun _ => rfl) rest
    simp [Search.quoted, hc, hstuck]
  | case4 c hc d rest hd ih => simpa [Search.quoted, hc, hd] using ih
  | case5 hc => simp [Search.quoted, hc]
  | case6 rest cut hcut hc ih => simp [Search.quoted, hc, Search.foldl_quoted_found]
  | case7 rest hcut hc ih => simp [Search.quoted, hc, Search.foldl_quoted_found]
  | case8 d rest hd hc => simp [Search.quoted, hc, Search.foldl_quoted_found]
  | case9 c rest hc hne ih => simpa [Search.quoted, hc, hne] using ih

/-- A block comment is closed exactly when a search finds its end. -/
theorem isSome_commentEnd? (s : List Char) :
    (commentEnd? s).isSome ↔ s.foldl Search.comment .seeking = .found := by
  fun_induction commentEnd? s with
  | case1 => simp
  | case2 rest =>
    have hfound := List.foldl_fixed' (f := Search.comment) (a := .found) (fun _ => rfl) rest
    simp [Search.comment, hfound]
  | case3 c rest hne ih =>
    rw [Option.isSome_map, ih, List.foldl_cons]
    by_cases hc : c = '*'
    · -- the star is not followed by a slash, so the search may forget it
      cases rest with
      | nil => simp [Search.comment, hc]
      | cons d rest =>
        have hd : d ≠ '/' := by
          rintro rfl
          exact hne rest hc rfl
        simp [Search.comment, hc, hd]
    · simp [Search.comment, hc]

/-- `Blurs step`: a pass over a text takes a run of word characters and colons for a question
    mark. -/
structure Blurs {σ : Type} (step : σ → Char → σ) : Prop where
  glue : ∀ e c, isGlue c → step e c = step e '?'
  again : ∀ e, step (step e '?') '?' = step e '?'

theorem Search.blurs_quoted (escapes : Bool) {close : Char} (hg : isGlue close = false)
    (hq : close ≠ '?') : Blurs (Search.quoted escapes close) where
  glue e c hc := by
    have hne : ∀ d, isGlue d = false → c ≠ d := by
      rintro d hd rfl
      rw [hc] at hd
      cases hd
    cases e <;> simp [Search.quoted, hne '\\' rfl, hne '\n' rfl, hne close hg, hq.symm]
  again e := by cases e <;> simp [Search.quoted, hq.symm]

theorem Search.blurs_comment : Blurs Search.comment where
  glue e c hc := by
    have hne : ∀ d, isGlue d = false → c ≠ d := by
      rintro d hd rfl
      rw [hc] at hd
      cases hd
    cases e <;> simp [Search.comment, hne '*' rfl, hne '/' rfl]
  again e := by cases e <;> rfl

namespace Blurs

variable {σ : Type} {step : σ → Char → σ}

theorem foldl_glue (h : Blurs step) {w : List Char} (hw : ∀ c ∈ w, isGlue c) :
    ∀ e, w.foldl step (step e '?') = step e '?' := by
  induction w with
  | nil => intro e; rfl
  | cons c w ih =>
    intro e
    rw [List.foldl_cons, h.glue _ c (hw c List.mem_cons_self), h.again]
    exact ih (fun d hd => hw d (List.mem_cons_of_mem c hd)) e

/-- **What such a pass sees.**  It ends alike on the text and on the text with question marks. -/
theorem foldl_marked (h : Blurs step) (o : LexOptions) (previous : Option Char) (s : List Char) :
    ∀ e, (marked o previous s).foldl step e = s.foldl step e := by
  fun_induction lexemes o previous s with
  | case1 previous => intro e; rw [marked_nil]
  | case2 previous c rest t ht ih =>
    intro e
    obtain ⟨hne, happ⟩ := fits_token ht
    have htext : (t.1.withMarker "?").foldl step e = t.1.text.foldl step e := by
      rcases withMarker_cases t.1 with ⟨tag, name, hl⟩ | ⟨-, hl⟩
      · have hglue := isGlue_of_mem_text ht (by rw [hl]; rfl)
        obtain ⟨d, w, hw⟩ := List.exists_cons_of_ne_nil hne
        rw [hw] at hglue
        rw [hw, hl, List.foldl_cons, h.glue e d (hglue d List.mem_cons_self)]
        exact (h.foldl_glue (fun c hc => hglue c (List.mem_cons_of_mem d hc)) e).symm
      · rw [hl]
    rw [marked_of_token ht, List.foldl_append, ih, htext, ← List.foldl_append, happ]
  | case3 previous c rest ht ih =>
    intro e
    rw [marked_of_gap ht, List.foldl_cons, List.foldl_cons, ih]

end Blurs

/-- A region that is never closed stays so. -/
theorem closed?_marked_eq_none {escapes : Bool} {close : Char} (hg : isGlue close = false)
    (hq : close ≠ '?') {o : LexOptions} {previous : Option Char} {s : List Char}
    (h : closed? escapes close s = none) : closed? escapes close (marked o previous s) = none := by
  rw [← Option.not_isSome_iff_eq_none, isSome_closed?] at h ⊢
  rwa [(Search.blurs_quoted escapes hg hq).foldl_marked]

/-- A comment that is never closed stays so. -/
theorem commentEnd?_marked_eq_none {o : LexOptions} {previous : Option Char} {s : List Char}
    (h : commentEnd? s = none) : commentEnd? (marked o previous s) = none := by
  rw [← Option.not_isSome_iff_eq_none, isSome_commentEnd?] at h ⊢
  rwa [Search.blurs_comment.foldl_marked]

/-! ## Ends -/

/-- `Ends escapes close v`: a region may end in front of `v`, since the closing character does not
    stand there as the first half of a pair that goes on to a later end. -/
def Ends (escapes : Bool) (close : Char) (v : List Char) : Prop :=
  ∀ rest, v = close :: rest → closed? escapes close rest = none

theorem closed?_of_ends {escapes : Bool} {close : Char} (hc : ¬(escapes && close = '\\') = true)
    {v : List Char} (h : Ends escapes close v) :
    closed? escapes close (close :: v) = some ([close], v) := by
  cases v with
  | nil => simp [closed?, hc]
  | cons d v =>
    by_cases hd : d = close
    · subst hd
      simp [closed?, hc, h v rfl]
    · simp [closed?, hc, hd]

/-- **The end of a quoted region.**  What follows a region is fit to follow it, and so is
    everything else in front of which a region may end. -/
theorem closed?_append_of_ends {escapes : Bool} {close : Char} {s : List Char} {cut : Cut}
    (h : closed? escapes close s = some cut) :
    Ends escapes close cut.2 ∧ ∀ v, Ends escapes close v →
      closed? escapes close (cut.1 ++ v) = some (cut.1, v) := by
  fun_induction closed? escapes close s generalizing cut with
  | case1 => cases h
  | case2 => cases h
  | case3 => cases h
  | case4 c hc d rest hd ih =>
    obtain ⟨cut', hcut, rfl⟩ := Option.map_eq_some_iff.mp h
    obtain ⟨hend, happ⟩ := ih hcut
    exact ⟨hend, fun v hv => by simp [Cut.extend, closed?, hc, hd, happ v hv]⟩
  | case5 hc =>
    cases h
    exact ⟨fun rest hr => (by cases hr), fun v hv => closed?_of_ends hc hv⟩
  | case6 rest cut' hcut hc ih =>
    cases h
    obtain ⟨hend, happ⟩ := ih hcut
    exact ⟨hend, fun v hv => by simp [Cut.extend, closed?, hc, happ v hv]⟩
  | case7 rest hcut hc ih =>
    cases h
    refine ⟨fun rest' hr => ?_, fun v hv => closed?_of_ends hc hv⟩
    cases hr
    exact hcut
  | case8 d rest hd hc =>
    cases h
    exact ⟨fun rest' hr => absurd (List.cons.inj hr).1 hd, fun v hv => closed?_of_ends hc hv⟩
  | case9 c rest hc hne ih =>
    obtain ⟨cut', hcut, rfl⟩ := Option.map_eq_some_iff.mp h
    obtain ⟨hend, happ⟩ := ih hcut
    refine ⟨hend, fun v hv => ?_⟩
    simp only [Cut.extend, List.cons_append, List.nil_append]
    rw [closed?.eq_def]
    simp [hc, hne, happ v hv, Cut.extend]

/-- A comment ends at its end, whatever follows. -/
theorem commentEnd?_append_of_some {s : List Char} {cut : Cut} (h : commentEnd? s = some cut) :
    ∀ v, commentEnd? (cut.1 ++ v) = some (cut.1, v) := by
  fun_induction commentEnd? s generalizing cut with
  | case1 => cases h
  | case2 rest =>
    cases h
    intro v
    rfl
  | case3 c rest hne ih =>
    obtain ⟨cut', hcut, rfl⟩ := Option.map_eq_some_iff.mp h
    intro v
    have hslash : ∀ rest', c = '*' → cut'.1 ++ v = '/' :: rest' → False := by
      intro rest' hc hr
      obtain ⟨d, w, hw⟩ : ∃ d w, cut'.1 = d :: w := by
        refine List.exists_cons_of_ne_nil fun hnil => ?_
        have := ih hcut []
        rw [hnil] at this
        cases this
      rw [hw] at hr
      obtain ⟨rfl, -⟩ := List.cons.inj hr
      have happ := commentEnd?_append hcut
      rw [hw] at happ
      exact hne (w ++ cut'.2) hc happ.symm
    simp only [Cut.extend, List.cons_append, List.nil_append]
    rw [commentEnd?, ih hcut v]
    · rfl
    · exact hslash

/-! ## Regions of texts with question marks -/

/-- The characters that close a quoted region. -/
theorem closer_cases {o : LexOptions} {c close : Char} {escapes : Bool}
    (h : openedBy o c = some (.quoted escapes close)) :
    isGlue close = false ∧ close ≠ '?' ∧ (escapes && close = '\\') = false ∧
      ∀ rest, closed? escapes close rest = none → region? o (close :: rest) = none := by
  unfold openedBy at h
  split at h
  · cases h
    exact ⟨rfl, by decide, by simp, fun rest hr => by simp [region?, hr]⟩
  · split at h
    · cases h
      exact ⟨rfl, by decide, rfl, fun rest hr => by simp [region?, hr]⟩
    · split at h
      · cases h
        exact ⟨rfl, by decide, rfl, fun rest hr => by simp [region?, hr]⟩
      · split at h
        · cases h
          exact ⟨rfl, by decide, rfl, fun rest _ => rfl⟩
        · cases h

/-- What may follow a quoted region may follow it with question marks, too. -/
theorem ends_marked {o : LexOptions} {c close : Char} {escapes : Bool} {v : List Char}
    (ho : openedBy o c = some (.quoted escapes close)) (h : Ends escapes close v)
    (previous : Option Char) : Ends escapes close (marked o previous v) := by
  obtain ⟨hg, hq, -, hr⟩ := closer_cases ho
  intro rest hv
  have hhead : v.head? = some close :=
    head?_of_head?_marked hq ((congrArg List.head? hv).trans rfl)
  obtain ⟨rest', rfl⟩ := List.head?_eq_some_iff.mp hhead
  -- the closing character is not the first half of a pair, so it opens no region either
  have htail := h rest' rfl
  have hgap : token? o previous (close :: rest') = none :=
    (token?_of_head_not_glue hg rest').trans (hr rest' htail)
  rw [marked_of_gap hgap] at hv
  rw [← (List.cons.inj hv).2]
  exact closed?_marked_eq_none hg hq htail

/-- Where a line comment ends, it ends with question marks, too. -/
theorem inLine_marked {o : LexOptions} {v : List Char} (h : ∀ c ∈ v.head?, ¬inLine c)
    (previous : Option Char) : ∀ c ∈ (marked o previous v).head?, ¬inLine c := by
  have hhead : (marked o previous v).head? = v.head? := by
    refine head?_marked_of_not_glue fun c hc => ?_
    rcases eq_of_not_inLine (h c hc) with rfl | rfl <;> rfl
  rwa [hhead]

/-- A region in front of a text stands in front of the text with question marks. -/
theorem region?_marked_of_some {o : LexOptions} {s : List Char} {t : Lexeme × List Char}
    (h : region? o s = some t) (previous : Option Char) :
    region? o (t.1.text ++ marked o previous t.2) = some (t.1, marked o previous t.2) := by
  cases s with
  | nil => cases h
  | cons c rest =>
    cases ho : openedBy o c with
    | some m =>
      obtain ⟨kind, escapes, close, rfl, -, hregion⟩ := openedBy_cases ho
      rw [hregion] at h
      obtain ⟨cut, hcut, rfl⟩ := Option.map_eq_some_iff.mp h
      obtain ⟨hend, happ⟩ := closed?_append_of_ends hcut
      have hmarked := happ _ (ends_marked ho hend previous)
      simp only [opened, Lexeme.text, List.cons_append, List.nil_append]
      rw [hregion, hmarked]
      rfl
    | none =>
      rw [region?_of_not_opened ho] at h
      split at h
      · next hline =>
        obtain ⟨rfl, hd⟩ := hline
        obtain ⟨rest, rfl⟩ := List.head?_eq_some_iff.mp hd
        cases h
        have hrun : rest.takeWhile inLine = rest.takeWhile inLine ∧
          rest.dropWhile inLine = rest.dropWhile inLine := ⟨rfl, rfl⟩
        obtain ⟨-, hr, hv⟩ := takeWhile_dropWhile_eq_iff.mp hrun
        obtain ⟨htake, hdrop⟩ := takeWhile_dropWhile_eq_iff.mpr
          ⟨rfl, hr, inLine_marked (o := o) hv previous⟩
        simp only [List.tail_cons, Lexeme.text, List.cons_append, region?, htake, hdrop]
      · split at h
        · next hblock =>
          obtain ⟨rfl, hd⟩ := hblock
          obtain ⟨rest, rfl⟩ := List.head?_eq_some_iff.mp hd
          obtain ⟨cut, hcut, rfl⟩ := Option.map_eq_some_iff.mp h
          have hmarked := commentEnd?_append_of_some hcut (marked o previous cut.2)
          simp [opened, Lexeme.text, region?, hmarked]
        · cases h

/-- A character that starts no region starts none in front of question marks. -/
theorem region?_cons_marked {o : LexOptions} {c : Char} {rest : List Char}
    (h : region? o (c :: rest) = none) (previous : Option Char) :
    region? o (c :: marked o previous rest) = none := by
  cases ho : openedBy o c with
  | some m =>
    obtain ⟨kind, escapes, close, rfl, -, hregion⟩ := openedBy_cases ho
    obtain ⟨hg, hq, -, -⟩ := closer_cases ho
    rw [hregion, Option.map_eq_none_iff] at h ⊢
    exact closed?_marked_eq_none hg hq h
  | none =>
    rw [region?_of_not_opened ho] at h ⊢
    split at h
    · cases h
    · next hline =>
      have hline' : ¬(c = '-' ∧ (marked o previous rest).head? = some '-') := fun hm =>
        hline ⟨hm.1, head?_of_head?_marked (by decide) hm.2⟩
      rw [if_neg hline']
      split
      · next hblock =>
        have hstar := head?_of_head?_marked (by decide) hblock.2
        obtain ⟨rest, rfl⟩ := List.head?_eq_some_iff.mp hstar
        rw [if_pos ⟨hblock.1, rfl⟩, Option.map_eq_none_iff, List.tail_cons] at h
        have hgap : token? o previous ('*' :: rest) = none := token?_of_head_not_glue rfl rest
        rw [marked_of_gap hgap, List.tail_cons, commentEnd?_marked_eq_none h, Option.map_none]
      · rfl

/-- **Regions and question marks.**  The region in front of a text with question marks is the one
    in front of the text, with what follows it marked. -/
theorem region?_marked (o : LexOptions) (previous : Option Char) (s : List Char) :
    region? o (marked o previous s) =
      (region? o s).map fun t => (t.1, marked o t.1.text.getLast? t.2) := by
  cases hr : region? o s with
  | some t =>
    have ht : token? o previous s = some t := token?_of_region? hr
    have hp := parameter?_of_isVerbatim (isVerbatim_of_region? hr)
    rw [marked_of_token ht, withMarker_of_parameter? hp]
    exact region?_marked_of_some hr _
  | none =>
    cases s with
    | nil => rw [marked_nil]; rfl
    | cons c rest =>
      cases ht : token? o previous (c :: rest) with
      | none =>
        rw [marked_of_gap ht]
        exact region?_cons_marked hr (some c)
      | some t =>
        -- a token that is no region starts with glue or gets a question mark in its place
        obtain ⟨w, hw⟩ := text_of_token?_cons ht
        rw [marked_of_token ht]
        rcases withMarker_cases t.1 with ⟨tag, name, hl⟩ | ⟨-, hl⟩
        · rw [hl]
          rfl
        · have hglue := isGlue_of_mem_token ht hr
          rw [hw] at hglue
          rw [hl, hw, List.cons_append, region?_of_isGlue (hglue c List.mem_cons_self)]
          rfl

end TaggedSql.Placeholder
