/-
  Compiling a script piece by piece.

  1. **Settled texts** — a text is settled when what it has outside its tokens opens nothing: no
     quote, no block comment, and no bracket that the text could go on to close.  The last is not
     seen at an opening character: in `[x]]` the bracket may end at its first `]` or go on behind
     the pair, and it ends at the first only because the text does not close it later.

  2. **Settled texts are closed** (`closed_of_settled`) — so the walk of `closedFrom` ends outside
     of everything, and nothing that follows can join the tokens of a settled text.

  3. **The statement** (`compile_append`) — behind a settled text that ends a line, another text is
     compiled as it is by itself.  Without the condition on brackets it is not
     (`compile_append_behind_bracket`).
-/
import TaggedSql.Proofs.Placeholder.Enclosure

namespace TaggedSql.Placeholder

open TaggedSql.Text

/-! ## Settled texts -/

/-- `Settled o ls`: lexemes that are cut from a text with the options `o` show no opening quote, no
    opening of a comment and no second closing bracket outside the tokens. -/
structure Settled (o : LexOptions) (ls : List Lexeme) : Prop where
  quotes : ∀ c, .plain c ∈ ls → openedBy o c = none
  comments : ¬[.plain '/', .plain '*'] <:+: ls
  brackets : ∀ text, ¬[.region .bracketed text, .plain ']'] <:+: ls

theorem Settled.tail {o : LexOptions} {l : Lexeme} {ls : List Lexeme} (h : Settled o (l :: ls)) :
    Settled o ls where
  quotes c hc := h.quotes c (List.mem_cons_of_mem l hc)
  comments hi := h.comments (hi.trans (List.suffix_cons l ls).isInfix)
  brackets text hi := h.brackets text (hi.trans (List.suffix_cons l ls).isInfix)

/-! ## The walk over tokens -/

section Walk

variable {o : LexOptions}

/-- The walk sees a quoted region closed when its end is no first half of a pair. -/
theorem closedFrom_of_closed? {escapes : Bool} {close : Char} {s : List Char} {cut : Cut}
    (h : closed? escapes close s = some cut) (hhead : cut.2.head? ≠ some close)
    (hc : Closed o cut.2) : closedFrom o (.quoted escapes close) s = true := by
  fun_induction closed? escapes close s generalizing cut with
  | case1 => cases h
  | case2 => cases h
  | case3 => cases h
  | case4 c hesc d rest hd ih =>
    obtain ⟨cut', hcut, rfl⟩ := Option.map_eq_some_iff.mp h
    rw [closedFrom, if_pos hesc, ih hcut hhead hc]
    simpa using hd
  | case5 hesc => simp [closedFrom, hesc]
  | case6 rest cut' hcut hesc ih =>
    cases h
    rw [closedFrom, if_neg hesc, if_pos rfl, if_pos rfl]
    exact ih hcut hhead hc
  | case7 rest hcut hesc ih =>
    -- the region was ended between the halves of a pair
    cases h
    exact absurd rfl hhead
  | case8 d rest hd hesc =>
    cases h
    rw [closedFrom, if_neg hesc, if_pos rfl, if_neg hd]
    exact hc
  | case9 c rest hesc hne ih =>
    obtain ⟨cut', hcut, rfl⟩ := Option.map_eq_some_iff.mp h
    have hrest := ih hcut hhead hc
    cases rest with
    | nil => cases hcut
    | cons d rest =>
      rw [closedFrom, if_neg hesc, if_neg hne]
      exact hrest

/-- The walk sees a block comment closed at its end. -/
theorem closedFrom_of_commentEnd? {s : List Char} {cut : Cut} (h : commentEnd? s = some cut)
    (hc : Closed o cut.2) : closedFrom o .block s = true := by
  fun_induction commentEnd? s generalizing cut with
  | case1 => cases h
  | case2 rest =>
    cases h
    exact hc
  | case3 c rest hne ih =>
    obtain ⟨cut', hcut, rfl⟩ := Option.map_eq_some_iff.mp h
    rw [closedFrom]
    · exact ih hcut hc
    · exact hne

/-- The walk sees a line comment closed at the end of the line. -/
theorem closedFrom_of_lineEnd {s : List Char} (hne : s.dropWhile inLine ≠ [])
    (hc : Closed o (s.dropWhile inLine)) : closedFrom o .line s = true := by
  induction s with
  | nil => exact absurd rfl hne
  | cons c s ih =>
    rw [closedFrom]
    by_cases hin : inLine c
    · rw [if_pos hin]
      rw [List.dropWhile_cons_of_pos hin] at hne hc
      exact ih hne hc
    · rw [if_neg hin]
      rw [List.dropWhile_cons_of_neg hin] at hc
      rcases eq_of_not_inLine hin with rfl | rfl <;> simpa [Closed, closedFrom, openedBy] using hc

/-- A region in front of a closed text, whose end is no first half of a pair, and which ends in
    front of the end of the text when it is a line comment. -/
theorem closed_of_region {s : List Char} {t : Lexeme × List Char} (h : region? o s = some t)
    (hpair : ∀ c ∈ s.head?, ∀ escapes close, openedBy o c = some (.quoted escapes close) →
      t.2.head? ≠ some close)
    (hline : t.2 ≠ [] ∨ s.getLast? = some '\n') (hc : Closed o t.2) : Closed o s := by
  have hs : s ≠ [] := by
    rintro rfl
    cases h
  obtain ⟨c, rest, rfl⟩ := List.exists_cons_of_ne_nil hs
  cases ho : openedBy o c with
  | some m =>
    obtain ⟨kind, escapes, close, rfl, -, hregion⟩ := openedBy_cases ho
    rw [hregion] at h
    obtain ⟨cut, hcut, rfl⟩ := Option.map_eq_some_iff.mp h
    rw [closed_cons_of_opened ho]
    exact closedFrom_of_closed? hcut (hpair c rfl escapes close ho) hc
  | none =>
    rw [region?_of_not_opened ho] at h
    split_ifs at h with hdash hslash
    · obtain ⟨rfl, hd⟩ := hdash
      obtain ⟨rest, rfl⟩ := List.head?_eq_some_iff.mp hd
      cases h
      rw [Closed, closedFrom]
      refine closedFrom_of_lineEnd (fun hnil => ?_) hc
      -- the line break at the end of the text is in no line comment
      have hend := hline.resolve_left (not_not_intro hnil)
      have hmem : '\n' ∈ rest := by
        have := List.mem_of_getLast? hend
        simpa using this
      have := List.dropWhile_eq_nil_iff.mp hnil _ hmem
      cases this
    · obtain ⟨rfl, hd⟩ := hslash
      obtain ⟨rest, rfl⟩ := List.head?_eq_some_iff.mp hd
      obtain ⟨cut, hcut, rfl⟩ := Option.map_eq_some_iff.mp h
      rw [Closed, closedFrom]
      exact closedFrom_of_commentEnd? hcut hc

/-- Behind a region that ends with the first half of a pair, the second half is an ordinary
    character. -/
theorem lexemes_of_second_half {c close : Char} {escapes : Bool} {s : List Char} {cut : Cut}
    {rest : List Char} (ho : openedBy o c = some (.quoted escapes close))
    (h : closed? escapes close s = some cut) (hrest : cut.2 = close :: rest)
    (previous : Option Char) :
    lexemes o previous cut.2 = .plain close :: lexemes o (some close) rest := by
  obtain ⟨hg, -, -, hnone⟩ := closer_cases ho
  have hgap : token? o previous (close :: rest) = none :=
    (token?_of_head_not_glue hg rest).trans
      (hnone rest ((closed?_append_of_ends h).1 rest hrest))
  rw [hrest, lexemes_of_gap hgap]

/-- The characters that close a quoted region open one themselves, but for the bracket. -/
theorem openedBy_closer {c close : Char} {escapes : Bool}
    (h : openedBy o c = some (.quoted escapes close)) :
    openedBy o close ≠ none ∨ c = '[' ∧ close = ']' ∧ escapes = false ∧ o.bracketQuotes := by
  unfold openedBy at h
  split at h
  · cases h
    exact .inl (by simp [openedBy])
  · split at h
    · cases h
      exact .inl (by simp [openedBy])
    · split at h
      · cases h
        exact .inl (by simp [openedBy])
      · split at h
        · next hc =>
          cases h
          exact .inr ⟨hc.1, rfl, rfl, hc.2⟩
        · cases h

/-- What the front lexeme of a settled text is when it is a quoted region: its end is no first half
    of a pair. -/
theorem Settled.head?_ne {previous : Option Char} {c : Char} {rest : List Char}
    {t : Lexeme × List Char} (h : Settled o (t.1 :: lexemes o previous t.2))
    (ht : region? o (c :: rest) = some t) {escapes : Bool} {close : Char}
    (ho : openedBy o c = some (.quoted escapes close)) : t.2.head? ≠ some close := by
  intro hhead
  obtain ⟨rest', hrest⟩ := List.head?_eq_some_iff.mp hhead
  obtain ⟨kind, escapes', close', hm, -, hregion⟩ := openedBy_cases ho
  obtain ⟨rfl, rfl⟩ := Mode.quoted.inj hm
  rw [hregion] at ht
  obtain ⟨cut, hcut, rfl⟩ := Option.map_eq_some_iff.mp ht
  have hnext := lexemes_of_second_half ho hcut hrest previous
  rw [show (opened kind [c] cut).2 = cut.2 from rfl, hnext] at h
  rcases openedBy_closer ho with hopens | ⟨rfl, rfl, rfl, hbrackets⟩
  · exact hopens (h.quotes _ (List.mem_cons_of_mem _ List.mem_cons_self))
  · have hkind : some (opened kind ['['] cut) = some (opened .bracketed ['['] cut) := by
      rw [← Option.map_some, ← hcut, ← hregion, region?, if_pos hbrackets, hcut]
      rfl
    obtain ⟨rfl, -⟩ := Lexeme.region.inj (Prod.mk.inj (Option.some.inj hkind)).1
    exact h.brackets _ ⟨[], _, rfl⟩

end Walk

/-! ## Settled texts are closed -/

/-- A text that is empty or ends a line. -/
def EndsLine (s : List Char) : Prop := s = [] ∨ s.getLast? = some '\n'

theorem EndsLine.of_append {s t : List Char} (h : EndsLine (s ++ t)) : EndsLine t := by
  cases t with
  | nil => exact .inl rfl
  | cons c t =>
    refine .inr ?_
    have hlast := h.resolve_left (by simp)
    rw [List.getLast?_append, List.getLast?_cons, Option.some_or] at hlast
    rw [List.getLast?_cons, hlast]

/-- **Settled texts are closed.** -/
theorem closed_of_settled {o : LexOptions} {previous : Option Char} {s : List Char}
    (hend : EndsLine s) (h : Settled o (lexemes o previous s)) : Closed o s := by
  fun_induction lexemes o previous s with
  | case1 => rfl
  | case2 previous c rest t ht ih =>
    obtain ⟨hne, happ⟩ := fits_token ht
    have hc := ih (happ.symm ▸ hend : EndsLine (t.1.text ++ t.2)).of_append h.tail
    cases hr : region? o (c :: rest) with
    | some u =>
      obtain rfl : u = t := Option.some.inj ((token?_of_region? hr).symm.trans ht)
      refine closed_of_region hr (fun c' hc' escapes close ho => ?_) ?_ hc
      · cases hc'
        exact h.head?_ne hr ho
      · exact .inr (hend.resolve_left (List.cons_ne_nil _ _))
    | none =>
      rw [← happ]
      exact (closed_inert_append fun d hd =>
        isInert_of_isGlue (isGlue_of_mem_token ht hr d hd)).mpr hc
  | case3 previous c rest ht ih =>
    have hc := ih (EndsLine.of_append (s := [c]) hend) h.tail
    have hr : region? o (c :: rest) = none := (Option.or_eq_none_iff.mp ht).1
    rw [Closed, closedFrom, h.quotes c List.mem_cons_self]
    · exact hc
    · rintro r rfl rfl
      simp [region?] at hr
    · -- the second character of an unclosed comment is a plain one, too
      rintro r rfl rfl
      have hstar : token? o (some '/') ('*' :: r) = none := token?_of_head_not_glue rfl r
      rw [lexemes_of_gap hstar] at h
      exact h.comments ⟨[], _, rfl⟩

/-- **Settled texts are lexed on their own**, whatever follows them. -/
theorem lex_append_of_settled {o : LexOptions} {s : List Char} (hend : EndsLine s)
    (h : Settled o (lex o s)) (t : List Char) : lex o (s ++ t) = lex o s ++ lex o t := by
  have hlast : ∀ x ∈ s.getLast?, x = '\n' := by
    rcases hend with rfl | hnewline
    · intro x hx
      cases hx
    · intro x hx
      exact Option.some.inj (hx.symm.trans hnewline)
  have hapart : Apart s t := fun x hx y _ => .inl (hlast x hx ▸ rfl)
  have hglue : (s.getLast?.or none).any isGlue = false := by
    cases hs : s.getLast? with
    | none => rfl
    | some x =>
      obtain rfl := hlast x hs
      rfl
  rw [lex, lexemes_append (closed_of_settled hend h) hapart, lexemes_of_not_glue hglue]
  rfl

/-! ## Compiling piece by piece -/

/-- The names that the front pairs have are kept with these, and the others as they are. -/
theorem keepFirst_append (ps qs : List (String × BindType)) :
    keepFirst (ps ++ qs) =
      keepFirst ps ++ (keepFirst qs).filter fun q => q.1 ∉ ps.map Prod.fst := by
  induction ps with
  | nil => simp [keepFirst]
  | cons p ps ih =>
    have hfilter : ∀ q : String × BindType, (q.1 != p.1 && decide (q.1 ∉ ps.map Prod.fst)) =
        decide (q.1 ∉ (p :: ps).map Prod.fst) := by
      intro q
      rw [Bool.eq_iff_iff]
      simp
    rw [List.cons_append, keepFirst, ih, List.filter_append, List.filter_filter, keepFirst,
      List.cons_append]
    simp only [hfilter]

/-- An ambiguous token in a text with so many characters in front. -/
def Ambiguity.shifted (n : Nat) (a : Ambiguity) : Ambiguity :=
  { a with position := n + a.position }

theorem firstAmbiguity?_add (n offset : Nat) (ls : List Lexeme) :
    firstAmbiguity? (n + offset) ls = (firstAmbiguity? offset ls).map (Ambiguity.shifted n) := by
  induction ls generalizing offset with
  | nil => rfl
  | cons l ls ih =>
    cases l with
    | ambiguous word name => rfl
    | _ => simp only [firstAmbiguity?, Nat.add_assoc, ih]

theorem firstAmbiguity?_append (offset : Nat) (ls ms : List Lexeme) :
    firstAmbiguity? offset (ls ++ ms) = (firstAmbiguity? offset ls).or
      ((firstAmbiguity? offset ms).map (Ambiguity.shifted (ls.flatMap Lexeme.text).length)) := by
  rw [← firstAmbiguity?_add]
  induction ls generalizing offset with
  | nil => simp [firstAmbiguity?]
  | cons l ls ih =>
    rw [List.flatMap_cons, List.length_append]
    cases l with
    | ambiguous word name => rfl
    | _ => simp only [List.cons_append, firstAmbiguity?, ih, Nat.add_comm, Nat.add_left_comm]

theorem outcome_eq_error_iff {marker : String} {lexing : LexOptions} {sql : String}
    {a : Ambiguity} :
    (compile ⟨marker, true, lexing⟩ sql).outcome = .error a ↔
      firstAmbiguity? 0 (lex lexing sql.toList) = some a := by
  cases h : firstAmbiguity? 0 (lex lexing sql.toList) <;> simp [compile, h]

theorem exists_outcome_eq_ok_iff {marker : String} {lexing : LexOptions} {sql : String} :
    (∃ c, (compile ⟨marker, true, lexing⟩ sql).outcome = .ok c) ↔
      firstAmbiguity? 0 (lex lexing sql.toList) = none := by
  cases h : firstAmbiguity? 0 (lex lexing sql.toList) <;> simp [compile, h]

/-- **Scripts are compiled piece by piece.**  Let a text be empty or end a line, and let it be
    settled: outside its tokens it has no opening quote, no `/*`, and no `]` right behind a
    bracketed name.  Then lenient compilation of the text with another one behind it yields the SQL
    and the names of both, one after the other, and the types of the first with those that the
    second has for other names.  Strict compilation fails exactly when it fails for the first, or
    when it accepts the first and fails for the second, with the same token at the same place. -/
theorem compile_append {lexing : LexOptions} {a : String} (hend : EndsLine a.toList)
    (h : Settled lexing (lex lexing a.toList)) (marker b : String) :
    (∃ ca cb c, (compile ⟨marker, false, lexing⟩ a).outcome = .ok ca ∧
      (compile ⟨marker, false, lexing⟩ b).outcome = .ok cb ∧
      (compile ⟨marker, false, lexing⟩ (a ++ b)).outcome = .ok c ∧
      c.sql = ca.sql ++ cb.sql ∧ c.names = ca.names ++ cb.names ∧
      c.types = ca.types ++ cb.types.filter fun p => p.1 ∉ ca.names) ∧
    ∀ e, (compile ⟨marker, true, lexing⟩ (a ++ b)).outcome = .error e ↔
      (compile ⟨marker, true, lexing⟩ a).outcome = .error e ∨
        (∃ ca, (compile ⟨marker, true, lexing⟩ a).outcome = .ok ca) ∧
          ∃ e', (compile ⟨marker, true, lexing⟩ b).outcome = .error e' ∧
            e = { e' with position := a.length + e'.position } := by
  have hlex : lex lexing (a ++ b).toList = lex lexing a.toList ++ lex lexing b.toList := by
    rw [String.toList_append, lex_append_of_settled hend h]
  have hlength : ((lex lexing a.toList).flatMap Lexeme.text).length = a.length := by
    rw [lex, text_lexemes, String.length_toList]
  constructor
  · have hlenient : ∀ sql, (compile ⟨marker, false, lexing⟩ sql).outcome =
        .ok (compiled marker (lex lexing sql.toList)) := fun sql => compile_lenient rfl sql
    refine ⟨_, _, _, hlenient a, hlenient b, hlenient (a ++ b), ?_, ?_, ?_⟩
    · simp only [hlex, compiled, withMarkers, List.flatMap_append, String.ofList_append]
    · simp only [hlex, compiled, parameters_append, List.map_append]
    · simp only [hlex, compiled, parameters_append]
      exact keepFirst_append _ _
  · intro e
    rw [outcome_eq_error_iff, outcome_eq_error_iff, exists_outcome_eq_ok_iff, hlex,
      firstAmbiguity?_append, hlength, Option.or_eq_some_iff, Option.map_eq_some_iff]
    exact or_congr Iff.rfl (and_congr Iff.rfl
      (exists_congr fun e' => and_congr outcome_eq_error_iff.symm eq_comm))

/-- A bracketed name and a placeholder in the first line, the same name with a tag in the second. -/
theorem compile_append_second_line :
    EndsLine "[x]=:p\n".toList ∧
      Settled ⟨false, true⟩ (lex ⟨false, true⟩ "[x]=:p\n".toList) ∧
      ∃ c, (compile ⟨"?", false, ⟨false, true⟩⟩ ("[x]=:p\n" ++ "d:p")).outcome = .ok c ∧
        c.sql = "[x]=?\n?" ∧ c.names = ["p", "p"] ∧ c.types = [("p", .text)] := by
  have htext : "[x]=:p\n".toList = ['[', 'x', ']', '=', ':', 'p', '\n'] := rfl
  have hname : token? ⟨false, true⟩ none ['[', 'x', ']', '=', ':', 'p', '\n'] =
      some (.region .bracketed ['[', 'x', ']'], ['=', ':', 'p', '\n']) := rfl
  have hequals : token? ⟨false, true⟩ (some ']') ['=', ':', 'p', '\n'] = none := rfl
  have hp : token? ⟨false, true⟩ (some '=') [':', 'p', '\n'] =
      some (.placeholder none ['p'], ['\n']) := rfl
  have hbreak : token? ⟨false, true⟩ (some 'p') ['\n'] = none := rfl
  have hlex : lex ⟨false, true⟩ "[x]=:p\n".toList =
      [.region .bracketed ['[', 'x', ']'], .plain '=', .placeholder none ['p'], .plain '\n'] := by
    rw [htext, lex, lexemes_of_token hname]
    change _ :: lexemes _ (some ']') _ = _
    rw [lexemes_of_gap hequals, lexemes_of_token hp]
    change _ :: _ :: _ :: lexemes _ (some 'p') _ = _
    rw [lexemes_of_gap hbreak, lexemes_nil]
  have htagged : token? ⟨false, true⟩ none "d:p".toList =
      some (.placeholder (some 'd') ['p'], []) := rfl
  have hlex' : lex ⟨false, true⟩ "d:p".toList = [.placeholder (some 'd') ['p']] := by
    rw [lex, lexemes_of_token htagged, lexemes_nil]
  have hend : EndsLine "[x]=:p\n".toList := .inr rfl
  have hsettled : Settled ⟨false, true⟩ (lex ⟨false, true⟩ "[x]=:p\n".toList) := by
    rw [hlex]
    refine ⟨fun c hc => ?_, by simp [List.infix_cons_iff], fun text => ?_⟩
    · have hcases : c = '=' ∨ c = '\n' := by simpa using hc
      rcases hcases with rfl | rfl <;> rfl
    · simp [List.infix_cons_iff]
  obtain ⟨⟨ca, cb, c, ha, hb, hc, hsql, hnames, htypes⟩, -⟩ :=
    compile_append hend hsettled "?" "d:p"
  obtain rfl := eq_compiled_of_outcome ha
  obtain rfl := eq_compiled_of_outcome hb
  rw [hlex, hlex'] at hsql hnames htypes
  exact ⟨hend, hsettled, c, hc, hsql, hnames, htypes⟩

/-- Behind `[x]]` a bracket that closes later takes a placeholder of the second line into the name
    that the first line has begun, although the first line opens nothing outside its tokens. -/
theorem compile_append_behind_bracket :
    EndsLine "[x]]\n".toList ∧
      (∀ c, .plain c ∈ lex ⟨false, true⟩ "[x]]\n".toList → openedBy ⟨false, true⟩ c = none) ∧
      ¬[.plain '/', .plain '*'] <:+: lex ⟨false, true⟩ "[x]]\n".toList ∧
      ∃ ca cb c, (compile ⟨"?", false, ⟨false, true⟩⟩ "[x]]\n").outcome = .ok ca ∧
        (compile ⟨"?", false, ⟨false, true⟩⟩ ":p]").outcome = .ok cb ∧
        (compile ⟨"?", false, ⟨false, true⟩⟩ ("[x]]\n" ++ ":p]")).outcome = .ok c ∧
        ca.sql ++ cb.sql = "[x]]\n?]" ∧ c.sql = "[x]]\n:p]" ∧
        ca.names ++ cb.names = ["p"] ∧ c.names = [] := by
  have hname : token? ⟨false, true⟩ none "[x]]\n".toList =
      some (.region .bracketed ['[', 'x', ']'], [']', '\n']) := rfl
  have hsecond : token? ⟨false, true⟩ (some ']') [']', '\n'] = none := rfl
  have hbreak : token? ⟨false, true⟩ (some ']') ['\n'] = none := rfl
  have hlex : lex ⟨false, true⟩ "[x]]\n".toList =
      [.region .bracketed ['[', 'x', ']'], .plain ']', .plain '\n'] := by
    rw [lex, lexemes_of_token hname]
    change _ :: lexemes _ (some ']') _ = _
    rw [lexemes_of_gap hsecond, lexemes_of_gap hbreak, lexemes_nil]
  have hp : token? ⟨false, true⟩ none ":p]".toList = some (.placeholder none ['p'], [']']) := rfl
  have hclose : token? ⟨false, true⟩ (some 'p') [']'] = none := rfl
  have hlex' : lex ⟨false, true⟩ ":p]".toList = [.placeholder none ['p'], .plain ']'] := by
    rw [lex, lexemes_of_token hp]
    change _ :: lexemes _ (some 'p') _ = _
    rw [lexemes_of_gap hclose, lexemes_nil]
  have htext : ("[x]]\n" ++ ":p]").toList = ['[', 'x', ']', ']', '\n', ':', 'p', ']'] := rfl
  have hwhole : token? ⟨false, true⟩ none ['[', 'x', ']', ']', '\n', ':', 'p', ']'] =
      some (.region .bracketed ['[', 'x', ']', ']', '\n', ':', 'p', ']'], []) := rfl
  have hlex'' : lex ⟨false, true⟩ ("[x]]\n" ++ ":p]").toList =
      [.region .bracketed ['[', 'x', ']', ']', '\n', ':', 'p', ']']] := by
    rw [htext, lex, lexemes_of_token hwhole, lexemes_nil]
  have hlenient : ∀ sql, (compile ⟨"?", false, ⟨false, true⟩⟩ sql).outcome =
      .ok (compiled "?" (lex ⟨false, true⟩ sql.toList)) := fun sql => compile_lenient rfl sql
  refine ⟨.inr rfl, ?_, ?_, _, _, _, hlenient _, hlenient _, hlenient _, ?_, ?_, ?_, ?_⟩
  · rw [hlex]
    intro c hc
    have hcases : c = ']' ∨ c = '\n' := by simpa using hc
    rcases hcases with rfl | rfl <;> rfl
  · rw [hlex]
    simp [List.infix_cons_iff]
  · rw [hlex, hlex']
    rfl
  · rw [hlex'']
    rfl
  · rw [hlex, hlex']
    rfl
  · rw [hlex'']
    rfl

end TaggedSql.Placeholder
