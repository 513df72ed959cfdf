/-
  Lexing options that make no difference.

  1. **Quoted regions** — a region is closed somewhere exactly when its closing character occurs
     behind the opening one (`closed?_eq_none_iff_not_mem`).  So a literal without a backslash ends
     where it ends with escapes, too, and a quote that opens no literal opens none with escapes.

  2. **One text under two options** (`lexemes_eq_of_regions`) — tokens other than regions do not
     depend on the options.  Two options cut a text alike when they read the same region at the
     front of every lexeme of the one; this is the only induction over the text.

  3. **The statement** (`compile_eq_of_options`) — escapes matter only where a literal holds a
     backslash, and brackets only where an opening one stands outside all tokens.
-/
import TaggedSql.Proofs.Placeholder.Enclosure

namespace TaggedSql.Placeholder

/-! ## Quoted regions with and without escapes -/

/-- A quoted region is closed somewhere exactly when its closing character occurs. -/
theorem closed?_eq_none_iff_not_mem {close : Char} {s : List Char} :
    closed? false close s = none ↔ close ∉ s := by
  fun_induction closed? false close s with
  | case1 => simp
  | case2 c hc => simp at hc
  | case3 c hc => simp at hc
  | case4 c hc => simp at hc
  | case5 => simp
  | case6 => simp
  | case7 => simp
  | case8 => simp
  | case9 c rest hc hne ih =>
    rw [Option.map_eq_none_iff, ih, List.mem_cons, not_or]
    constructor
    · intro h
      exact ⟨Ne.symm hne, h⟩
    · intro h
      exact h.2

/-- Without its closing character, no region is closed. -/
theorem closed?_eq_none_of_not_mem (escapes : Bool) {close : Char} {s : List Char}
    (h : close ∉ s) : closed? escapes close s = none := by
  cases hs : closed? escapes close s with
  | none => rfl
  | some cut =>
    have hlast := List.mem_of_getLast? (getLast?_closed? hs)
    rw [← closed?_append hs] at h
    exact absurd (List.mem_append_left cut.2 hlast) h

/-- A quoted region that holds no backslash ends with escapes where it ends without. -/
theorem closed?_escaping {close : Char} {s : List Char} {cut : Cut}
    (hclose : close ≠ '\\') (h : closed? false close s = some cut) (hcut : '\\' ∉ cut.1) :
    closed? true close s = some cut := by
  fun_induction closed? false close s generalizing cut with
  | case1 => cases h
  | case2 c hc => simp at hc
  | case3 c hc => simp at hc
  | case4 c hc => simp at hc
  | case5 =>
    cases h
    simp [closed?, hclose]
  | case6 rest cut' hcut' hc ih =>
    cases h
    have hin := ih hcut' (fun hm => hcut (List.mem_append_right _ hm))
    simp [closed?, hclose, hin]
  | case7 rest hnone hc ih =>
    -- the first half of a pair closes the region, since no closing character comes behind it
    cases h
    have hin := closed?_eq_none_of_not_mem true (closed?_eq_none_iff_not_mem.mp hnone)
    simp [closed?, hclose, hin]
  | case8 d rest hd hc =>
    cases h
    simp [closed?, hclose, hd]
  | case9 c rest hc hne ih =>
    obtain ⟨cut', hcut', rfl⟩ := Option.map_eq_some_iff.mp h
    have hne' : c ≠ '\\' := by
      rintro rfl
      exact hcut List.mem_cons_self
    have hin := ih hcut' (fun hm => hcut (List.mem_cons_of_mem c hm))
    rw [closed?.eq_def]
    simp [hne', hne, hin]

/-! ## One text under two options -/

/-- Escapes matter only behind a single quote. -/
theorem region?_escaping {c : Char} (h : c ≠ '\'') {escapes escapes' brackets : Bool}
    {rest : List Char} :
    region? ⟨escapes, brackets⟩ (c :: rest) = region? ⟨escapes', brackets⟩ (c :: rest) := by
  unfold region?
  split
  · next heq => exact absurd (List.cons.inj heq).1 h
  all_goals rfl

/-- Brackets matter only behind an opening bracket. -/
theorem region?_bracketing {c : Char} (h : c ≠ '[') {escapes brackets brackets' : Bool}
    {rest : List Char} :
    region? ⟨escapes, brackets⟩ (c :: rest) = region? ⟨escapes, brackets'⟩ (c :: rest) := by
  unfold region?
  split
  · rfl
  · rfl
  · rfl
  · next heq => exact absurd (List.cons.inj heq).1 h
  all_goals rfl

/-- Only regions depend on the options. -/
theorem token?_eq_of_region?_eq {o o' : LexOptions} {s : List Char}
    (h : region? o s = region? o' s) (previous : Option Char) :
    token? o previous s = token? o' previous s := by
  rw [token?, token?, h]

/-- **Cutting alike.**  Two options cut a text into the same lexemes when the second reads every
    region that the first has cut, and none where the first has cut a single character. -/
theorem lexemes_eq_of_regions {o o' : LexOptions} {P : Lexeme → Prop}
    (hsome : ∀ s t, region? o s = some t → P t.1 → region? o' s = some t)
    (hnone : ∀ c rest, region? o (c :: rest) = none → P (.plain c) →
      region? o' (c :: rest) = none)
    {previous : Option Char} {s : List Char} (h : ∀ l ∈ lexemes o previous s, P l) :
    lexemes o previous s = lexemes o' previous s := by
  fun_induction lexemes o previous s with
  | case1 previous => rw [lexemes_nil]
  | case2 previous c rest t ht ih =>
    have hregion : region? o (c :: rest) = region? o' (c :: rest) := by
      cases hr : region? o (c :: rest) with
      | some u =>
        obtain rfl : u = t := Option.some.inj ((token?_of_region? hr).symm.trans ht)
        exact (hsome _ u hr (h u.1 List.mem_cons_self)).symm
      | none =>
        -- a token that is no region starts with glue, where no option reads a region
        obtain ⟨w, hw⟩ := text_of_token?_cons ht
        have hglue := isGlue_of_mem_token ht hr c (by rw [hw]; exact List.mem_cons_self)
        exact (region?_of_isGlue hglue rest).symm
    have ht' := (token?_eq_of_region?_eq hregion previous).symm.trans ht
    rw [lexemes_of_token ht', ih (fun l hl => h l (List.mem_cons_of_mem t.1 hl))]
  | case3 previous c rest ht ih =>
    have hr : region? o (c :: rest) = none := (Option.or_eq_none_iff.mp ht).1
    have hregion := hr.trans (hnone c rest hr (h _ List.mem_cons_self)).symm
    have ht' := (token?_eq_of_region?_eq hregion previous).symm.trans ht
    rw [lexemes_of_gap ht', ih (fun l hl => h l (List.mem_cons_of_mem _ hl))]

/-- A region read without escapes is read with escapes, if it is no literal with a backslash. -/
theorem region?_escaping_of_some {brackets : Bool} {s : List Char} {t : Lexeme × List Char}
    (h : region? ⟨false, brackets⟩ s = some t)
    (ht : ∀ text, t.1 = .region .literal text → '\\' ∉ text) :
    region? ⟨true, brackets⟩ s = some t := by
  cases s with
  | nil => exact h
  | cons c rest =>
    by_cases hc : c = '\''
    · subst hc
      obtain ⟨cut, hcut, rfl⟩ := Option.map_eq_some_iff.mp h
      have hplain : '\\' ∉ cut.1 := fun hm => ht _ rfl (List.mem_cons_of_mem _ hm)
      show (closed? true '\'' rest).map _ = _
      rw [closed?_escaping (by decide) hcut hplain, Option.map_some]
    · rwa [← region?_escaping hc]

/-- Escapes change nothing in a text whose literals hold no backslash. -/
theorem lexemes_escaping {brackets : Bool} {previous : Option Char} {s : List Char}
    (h : ∀ text, .region .literal text ∈ lexemes ⟨false, brackets⟩ previous s → '\\' ∉ text) :
    lexemes ⟨false, brackets⟩ previous s = lexemes ⟨true, brackets⟩ previous s := by
  refine lexemes_eq_of_regions (P := fun l => ∀ text, l = .region .literal text → '\\' ∉ text)
    (fun s t => region?_escaping_of_some) ?_ ?_
  · intro c rest hr _
    by_cases hc : c = '\''
    · -- a quote that opens no literal is followed by no other quote
      subst hc
      have hnone := closed?_eq_none_iff_not_mem.mp (Option.map_eq_none_iff.mp hr)
      show (closed? true '\'' rest).map _ = _
      rw [closed?_eq_none_of_not_mem true hnone, Option.map_none]
    · rwa [← region?_escaping hc]
  · rintro l hl text rfl
    exact h text hl

/-- Brackets change nothing in a text with no opening bracket outside all tokens. -/
theorem lexemes_bracketing {escapes : Bool} {previous : Option Char} {s : List Char}
    (h : .plain '[' ∉ lexemes ⟨escapes, false⟩ previous s) :
    lexemes ⟨escapes, false⟩ previous s = lexemes ⟨escapes, true⟩ previous s := by
  refine lexemes_eq_of_regions (P := fun l => l ≠ .plain '[') ?_ ?_ ?_
  · intro s t hs _
    cases s with
    | nil => exact hs
    | cons c rest =>
      by_cases hc : c = '['
      · subst hc
        cases hs
      · rwa [← region?_bracketing hc]
  · intro c rest hr hc
    rwa [← region?_bracketing (fun heq => hc (congrArg _ heq))]
  · rintro l hl rfl
    exact h hl

/-! ## The statement -/

/-- Compilation depends on the options only through the lexemes. -/
theorem compile_eq_of_lex_eq {marker : String} {strict : Bool} {o o' : LexOptions} {sql : String}
    (h : lex o sql.toList = lex o' sql.toList) :
    compile ⟨marker, strict, o⟩ sql = compile ⟨marker, strict, o'⟩ sql := by
  simp only [compile, h]

/-- **Dialects are conservative.**  Whether a backslash escapes matters only to a text with a
    backslash in a literal, and whether brackets quote only to one with an opening bracket outside
    all tokens. -/
theorem compile_eq_of_options (marker : String) (strict : Bool) (sql : String) :
    (∀ brackets,
      (∀ text, .region .literal text ∈ lex ⟨false, brackets⟩ sql.toList → '\\' ∉ text) →
        compile ⟨marker, strict, ⟨true, brackets⟩⟩ sql =
          compile ⟨marker, strict, ⟨false, brackets⟩⟩ sql) ∧
    ∀ escapes, .plain '[' ∉ lex ⟨escapes, false⟩ sql.toList →
      compile ⟨marker, strict, ⟨escapes, true⟩⟩ sql =
        compile ⟨marker, strict, ⟨escapes, false⟩⟩ sql := by
  constructor
  · intro brackets h
    exact compile_eq_of_lex_eq (lexemes_escaping h).symm
  · intro escapes h
    exact compile_eq_of_lex_eq (lexemes_bracketing h).symm

/-- The quote of a literal and the bracket of a quoted name make no difference. -/
theorem compile_quoted_bracket :
    (∀ text, .region .literal text ∈ lex ⟨false, false⟩ "'a''b'\"[\":p".toList → '\\' ∉ text) ∧
      .plain '[' ∉ lex ⟨false, false⟩ "'a''b'\"[\":p".toList ∧
      compile ⟨"?", true, ⟨true, false⟩⟩ "'a''b'\"[\":p" =
        compile ⟨"?", true, ⟨false, false⟩⟩ "'a''b'\"[\":p" ∧
      compile ⟨"?", true, ⟨false, true⟩⟩ "'a''b'\"[\":p" =
        compile ⟨"?", true, ⟨false, false⟩⟩ "'a''b'\"[\":p" := by
  have htext : "'a''b'\"[\":p".toList =
      ['\'', 'a', '\'', '\'', 'b', '\'', '"', '[', '"', ':', 'p'] := rfl
  have hliteral : token? ⟨false, false⟩ none
      ['\'', 'a', '\'', '\'', 'b', '\'', '"', '[', '"', ':', 'p'] =
      some (.region .literal ['\'', 'a', '\'', '\'', 'b', '\''], ['"', '[', '"', ':', 'p']) := rfl
  have hquoted : token? ⟨false, false⟩
      (Lexeme.region .literal ['\'', 'a', '\'', '\'', 'b', '\'']).text.getLast?
      ['"', '[', '"', ':', 'p'] = some (.region .doubleQuoted ['"', '[', '"'], [':', 'p']) := rfl
  have hname : token? ⟨false, false⟩ (Lexeme.region .doubleQuoted ['"', '[', '"']).text.getLast?
      [':', 'p'] = some (.placeholder none ['p'], []) := rfl
  have hlex : lex ⟨false, false⟩ "'a''b'\"[\":p".toList =
      [.region .literal ['\'', 'a', '\'', '\'', 'b', '\''],
        .region .doubleQuoted ['"', '[', '"'], .placeholder none ['p']] := by
    rw [htext, lex, lexemes_of_token hliteral, lexemes_of_token hquoted, lexemes_of_token hname,
      lexemes_nil]
  have hescapes : ∀ text, .region .literal text ∈ lex ⟨false, false⟩ "'a''b'\"[\":p".toList →
      '\\' ∉ text := by
    intro text h
    rw [hlex] at h
    rcases List.mem_cons.mp h with hfirst | hrest
    · cases hfirst
      decide
    · simp at hrest
  have hbrackets : .plain '[' ∉ lex ⟨false, false⟩ "'a''b'\"[\":p".toList := by
    rw [hlex]
    decide
  exact ⟨hescapes, hbrackets, (compile_eq_of_options "?" true _).1 false hescapes,
    (compile_eq_of_options "?" true _).2 false hbrackets⟩

end TaggedSql.Placeholder
