/-
  Compiling is lossless, sound and complete.

  1. **Sites** — `Site.Eligible` says, of the text alone, where a placeholder is written: a tag
     letter or none, a colon and a whole word, with neither a word character nor a colon in front.

  2. **Soundness and completeness** (`stands_iff`) — the placeholders among the lexemes of a text
     are the eligible sites that no region and no cast covers.  The crux is that such a site
     cannot lie inside another token: every character of a placeholder or an ambiguous token is a
     word character or a colon, and a site has neither in front (`isGlue_of_mem_text`).

  3. **The statement** (`compile_lenient_faithful`) — the compiled text is the source with the
     sites replaced, and the names and types are those of the sites, from left to right.
-/
import TaggedSql.Placeholder.Compile
import TaggedSql.Proofs.Placeholder.Pattern
import TaggedSql.Proofs.Placeholder.Placement
import TaggedSql.Proofs.Placeholder.Token

namespace TaggedSql.Placeholder

open TaggedSql.Text

/-! ## Sites -/

/-- A placeholder at an offset of a text. -/
structure Site where
  offset : Nat
  tag : Option Char
  name : List Char

namespace Site

/-- The placeholder of a site. -/
def lexeme (p : Site) : Lexeme := .placeholder p.tag p.name

/-- The name of a site and the type that its tag asks for. -/
def parameter (p : Site) : String × BindType := (String.ofList p.name, typeOfTag p.tag)

/-- `p.Eligible s`: at the site stand a tag letter or none, a colon and a word that goes on to its
    end, and in front of them there is neither a word character nor a colon. -/
def Eligible (s : List Char) (p : Site) : Prop :=
  ∃ front rest, s = front ++ (p.tag.toList ++ ':' :: p.name) ++ rest ∧ p.offset = front.length ∧
    (∀ c ∈ p.tag, c ∈ BindType.tagLetters) ∧
    p.name ≠ [] ∧ (∀ c ∈ p.name, isWordChar c) ∧ (∀ c ∈ rest.head?, ¬isWordChar c) ∧
    ∀ c ∈ front.getLast?, ¬isWordChar c ∧ c ≠ ':'

end Site

/-- `Verbatim ls p`: the offset `p` lies in a literal, a quoted identifier, a comment or a cast. -/
def Verbatim (ls : List Lexeme) (p : Nat) : Prop :=
  ∃ q ∈ placed 0 ls, q.2.isVerbatim ∧ Covers q p

/-! ## Soundness and completeness -/

/-- A placeholder among the lexemes of a text is an eligible site. -/
theorem eligible_of_mem_placed {o : LexOptions} {s : List Char} {p : Site}
    (h : (p.offset, p.lexeme) ∈ placed 0 (lex o s)) : p.Eligible s := by
  obtain ⟨front, rest, hs, hoff, ht | ⟨-, c, hc⟩⟩ := at_offset h
  · rcases token?_cases ht with hv | ⟨hg, hp | ⟨-, ha⟩⟩
    · cases hv
    · obtain ⟨tag, name, rest', ht', -, htag, hne, hw, hrest⟩ := placeholder?_eq_some_iff.mp hp
      obtain ⟨hl, rfl⟩ := Prod.mk.inj ht'
      obtain ⟨rfl, rfl⟩ : p.tag = tag ∧ p.name = name := by
        simpa [Site.lexeme] using hl
      refine ⟨front, rest, by simpa [Site.lexeme, Lexeme.text] using hs, by simpa using hoff, htag,
        hne, hw, hrest, ?_⟩
      intro c hc
      rw [Option.mem_def.mp hc] at hg
      simpa [isGlue] using hg
    · obtain ⟨word, name, hl, -⟩ := ambiguous?_eq_some ha
      cases hl
  · cases hc

/-- Where one front of a text ends inside a piece behind another front, the piece begins with what
    the longer front has more. -/
theorem front_eq_append {α : Type} {s front front' piece rest rest' : List α}
    (h : s = front ++ rest) (h' : s = front' ++ piece ++ rest') (hle : front'.length ≤ front.length)
    (hlt : front.length < front'.length + piece.length) :
    ∃ more tail, front = front' ++ more ∧ piece = more ++ tail := by
  rw [h, List.append_assoc, List.append_eq_append_iff] at h'
  rcases h' with ⟨d, rfl, hd⟩ | ⟨more, rfl, hm⟩
  · -- the other front is the longer one, so they are equal
    rw [List.length_append] at hle
    have hnil : d = [] := List.length_eq_zero_iff.mp (by omega)
    exact ⟨[], piece, by simp [hnil], rfl⟩
  · rcases List.append_eq_append_iff.mp hm with ⟨d, hd, -⟩ | ⟨d, hd, -⟩
    · rw [hd, List.length_append, List.length_append] at hlt
      have hnil : d = [] := List.length_eq_zero_iff.mp (by omega)
      exact ⟨more, [], rfl, by simp [hd, hnil]⟩
    · exact ⟨more, d, rfl, hd⟩

/-- **Completeness.**  An eligible site that no region and no cast covers is a placeholder among
    the lexemes of the text. -/
theorem mem_placed_of_eligible {o : LexOptions} {s : List Char} {p : Site} (h : p.Eligible s)
    (hv : ¬Verbatim (lex o s) p.offset) : (p.offset, p.lexeme) ∈ placed 0 (lex o s) := by
  obtain ⟨front, rest, hs, hoff, htag, hne, hw, hrest, hfront⟩ := h
  -- some lexeme covers the site
  have hlt : p.offset < ((lex o s).flatMap Lexeme.text).length := by
    rw [lex, text_lexemes, hs, hoff]
    simp only [List.length_append, List.length_cons]
    omega
  obtain ⟨⟨n, l⟩, hq, hcov⟩ := exists_covering (Nat.zero_le p.offset) (by simpa using hlt)
  have hver : l.isVerbatim = false := by
    by_contra hl
    exact hv ⟨(n, l), hq, by simpa using hl, hcov⟩
  obtain ⟨front', rest', hs', hn, hst⟩ := at_offset hq
  simp only [Nat.zero_add] at hn
  simp only [Covers] at hcov
  obtain ⟨more, tail, hfr, hl⟩ := front_eq_append (hs.trans (List.append_assoc ..)) hs'
    (by omega) (by simp only at *; omega)
  have hnotGlue : front.getLast?.any isGlue = false := by
    cases hc : front.getLast? with
    | none => rfl
    | some c => simpa [isGlue] using hfront c hc
  -- it starts where the site does: else a character of it would be glue in front of the site
  have hmore : more = [] := by
    by_contra hm
    rcases hst with ht | ⟨-, c, rfl⟩
    · have hlast : front.getLast? = some (more.getLast hm) := by
        rw [hfr, List.getLast?_append, List.getLast?_eq_some_getLast hm]
        rfl
      have hglue := isGlue_of_mem_text ht hver (more.getLast hm)
        (by simp only [hl, List.mem_append, List.getLast_mem, true_or])
      rw [hlast] at hnotGlue
      simp [hglue] at hnotGlue
    · have h1 := List.length_pos_iff.mpr hm
      have h2 := congrArg List.length hl
      simp only [hfr, List.length_append] at hoff
      simp [Lexeme.text] at h2 hcov
      omega
  subst hmore
  obtain rfl : front = front' := by simpa using hfr
  -- so both are the placeholder that stands there
  have hp : placeholder? (l.text ++ rest') = some (p.lexeme, rest) := by
    refine placeholder?_eq_some_iff.mpr ⟨p.tag, p.name, rest, rfl, ?_, htag, hne, hw, hrest⟩
    have := hs.symm.trans hs'
    simpa using this.symm
  have hl' : l = p.lexeme := by
    rcases hst with ht | ⟨ht, c, rfl⟩
    · rcases token?_cases ht with hv' | ⟨-, hp' | ⟨hp', -⟩⟩
      · rw [hver] at hv'
        cases hv'
      · rw [hp] at hp'
        exact (Prod.mk.inj (Option.some.inj hp')).1.symm
      · rw [hp] at hp'
        cases hp'
    · rw [placeholder?_of_token?_none ht (by simpa using hnotGlue)] at hp
      cases hp
  rw [← hl', hoff, ← hn]
  exact hq

/-- The placeholders of a text are its eligible sites outside regions and casts. -/
theorem mem_placed_iff {o : LexOptions} {s : List Char} {p : Site} :
    (p.offset, p.lexeme) ∈ placed 0 (lex o s) ↔
      p.Eligible s ∧ ¬Verbatim (lex o s) p.offset := by
  constructor
  · intro h
    refine ⟨eligible_of_mem_placed h, ?_⟩
    rintro ⟨q, hq, hver, hcov⟩
    have hpos : p.offset < p.offset + p.lexeme.text.length := by
      simp only [Site.lexeme, Lexeme.text, List.length_append, List.length_cons]
      omega
    have hself : Covers (p.offset, p.lexeme) p.offset := ⟨Nat.le_refl _, hpos⟩
    rw [eq_of_covers hq h hcov hself] at hver
    cases hver
  · rintro ⟨h, hv⟩
    exact mem_placed_of_eligible h hv

/-- The sites of placed lexemes, from left to right. -/
def sitesOf (qs : List (Nat × Lexeme)) : List Site :=
  qs.filterMap fun
    | (n, .placeholder tag name) => some ⟨n, tag, name⟩
    | _ => none

theorem mem_sitesOf {qs : List (Nat × Lexeme)} {p : Site} :
    p ∈ sitesOf qs ↔ (p.offset, p.lexeme) ∈ qs := by
  rw [sitesOf, List.mem_filterMap]
  constructor
  · rintro ⟨⟨n, l⟩, hq, hl⟩
    cases l <;> cases hl
    exact hq
  · intro h
    exact ⟨(p.offset, p.lexeme), h, rfl⟩

/-- The parameters of lexemes are those of their sites. -/
theorem parameters_eq_map_sitesOf (ls : List Lexeme) :
    ∀ offset, parameters ls = (sitesOf (placed offset ls)).map Site.parameter := by
  induction ls with
  | nil => intro _; rfl
  | cons l ls ih =>
    intro offset
    cases l with
    | placeholder tag name => exact congrArg (_ :: ·) (ih _)
    | _ => exact ih _

theorem pairwise_sitesOf {qs : List (Nat × Lexeme)} (h : qs.Pairwise fun q r => q.1 < r.1) :
    (sitesOf qs).Pairwise fun p q => p.offset < q.offset := by
  refine h.filterMap _ ?_
  rintro ⟨n, l⟩ ⟨m, k⟩ hlt p hp q hq
  cases l <;> cases hp
  cases k <;> cases hq
  exact hlt

/-! ## The compiled statement -/

/-- **Lossless, sound and complete.**  Lenient compilation scans the text into lexemes whose texts
    make it up, and rewrites them one by one: a placeholder becomes the marker, and all else is
    copied, `%` being doubled for the marker `%s`.  The placeholders are the eligible sites that
    lie in no literal, quoted identifier, comment or cast; the names are theirs, from left to
    right, and every distinct name has the type of its first site. -/
theorem compile_lenient_faithful (marker : String) (lexing : LexOptions) (sql : String) :
    ∃ (ls : List Lexeme) (sites : List Site) (c : Compiled),
      (compile ⟨marker, false, lexing⟩ sql).outcome = .ok c ∧
      Scan lexing none sql.toList ls ∧
      ls.flatMap Lexeme.text = sql.toList ∧
      c.sql.toList = (ls.flatMap fun
        | .placeholder .. => marker.toList
        | l => if marker = "%s" then l.text.flatMap fun ch => if ch = '%' then ['%', '%'] else [ch]
          else l.text) ∧
      (sites.Pairwise fun p q => p.offset < q.offset) ∧
      (∀ p, p ∈ sites ↔ (p.offset, .placeholder p.tag p.name) ∈ placed 0 ls) ∧
      (∀ p, p ∈ sites ↔ p.Eligible sql.toList ∧ ¬Verbatim ls p.offset) ∧
      c.names = (sites.map fun p => String.ofList p.name) ∧
      c.types.map Prod.fst = c.names.eraseDups ∧
      ∀ name, c.types.lookup name =
        (sites.map fun p => (String.ofList p.name, typeOfTag p.tag)).lookup name := by
  have hsites := parameters_eq_map_sitesOf (lex lexing sql.toList) 0
  refine ⟨lex lexing sql.toList, sitesOf (placed 0 (lex lexing sql.toList)),
    compiled marker (lex lexing sql.toList), compile_lenient rfl sql, scan_lexemes _ _ _,
    text_lexemes _ _ _, ?_, pairwise_sitesOf (pairwise_placed (fun l hl => text_ne_nil hl) 0),
    fun p => mem_sitesOf, fun p => mem_sitesOf.trans mem_placed_iff, ?_, ?_, ?_⟩
  · rw [compiled, String.toList_ofList, withMarkers]
    refine congrArg (List.flatMap · _) (funext fun l => ?_)
    cases l <;> rfl
  · rw [compiled, hsites, List.map_map]
    rfl
  · exact map_fst_keepFirst _
  · intro name
    rw [compiled, lookup_keepFirst, hsites]
    rfl

end TaggedSql.Placeholder
