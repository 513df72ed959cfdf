/-
  Patterns with backtracking, and the table of patterns that the tokens of SQL text are found by.

  1. **Patterns** — a pattern is tried at the front of a text.  `Pattern.runs` lists every way to
     match it, in order of preference; the match is the first of them (`Pattern.first`).  A
     repetition prefers more rounds (`many`) or fewer (`few`), and a choice its first pattern.

  2. **The table** — `tokenRules` lists the patterns of the tokens.  A text is scanned from left
     to right: at every position the first rule with a match gives a token, and where there is
     none one character is passed over (`Scan`).

  3. **The bridge** — reading a token by hand and looking it up in the table come to the same
     (`token?_eq_firstMatch`), so the lexemes of a text are its scan (`scan_iff`).  The crux is
     `first_quoted`: preferring a pair of closing quotes and backing off to its first half is all
     that backtracking amounts to inside a quoted region.
-/
import Mathlib.Data.List.TakeWhile
import Mathlib.Data.Nat.SuccPred
import TaggedSql.Placeholder.Lexeme

namespace TaggedSql.Placeholder

open TaggedSql.Text

/-! ## Patterns -/

/-- A pattern for the front of a text. -/
inductive Pattern where
  | empty
  /-- One character of a class. -/
  | char (p : Char → Bool)
  | seq (a b : Pattern)
  /-- A choice that prefers its first pattern. -/
  | alt (a b : Pattern)
  /-- A repetition; `eager` tells whether it prefers another round to none. -/
  | rep (eager : Bool) (a : Pattern)

/-- What is preferred, and then the rest. -/
def inOrder {α : Type} (eager : Bool) (more none : List α) : List α :=
  if eager then more ++ none else none ++ more

/-- Every way to go through rounds of a step.  A round that takes nothing is not made. -/
def rounds (eager : Bool) (step : List Char → List Cut) (s : List Char) : List Cut :=
  inOrder eager ((step s).flatMap fun cut =>
    if _h : cut.2.length < s.length then (rounds eager step cut.2).map (Cut.extend cut.1) else [])
    [([], s)]
termination_by s.length

namespace Pattern

/-- Every way to match a pattern at the front of a text, the preferred ones first. -/
@[simp] def runs : Pattern → List Char → List Cut
  | empty, s => [([], s)]
  | char _, [] => []
  | char p, c :: rest => if p c then [([c], rest)] else []
  | seq a b, s => (a.runs s).flatMap fun cut => (b.runs cut.2).map (Cut.extend cut.1)
  | alt a b, s => a.runs s ++ b.runs s
  | rep eager a, s => rounds eager a.runs s

/-- The match of a pattern at the front of a text. -/
def first (a : Pattern) (s : List Char) : Option Cut := (a.runs s).head?

/-- The pattern of one character. -/
def lit (c : Char) : Pattern := char (· == c)

/-! ### Matching by cases -/

@[simp] theorem fst_extend (u : List Char) (cut : Cut) : (cut.extend u).1 = u ++ cut.1 := rfl

@[simp] theorem snd_extend (u : List Char) (cut : Cut) : (cut.extend u).2 = cut.2 := rfl

theorem extend_nil : Cut.extend [] = id := rfl

theorem extend_comp_extend (u v : List Char) :
    Cut.extend u ∘ Cut.extend v = Cut.extend (u ++ v) := by
  funext cut
  simp [Cut.extend]

@[simp] theorem first_char_nil (p : Char → Bool) : first (char p) [] = none := rfl

@[simp] theorem first_char_cons (p : Char → Bool) (c : Char) (rest : List Char) :
    first (char p) (c :: rest) = if p c then some ([c], rest) else none := by
  by_cases h : p c <;> simp [first, runs, h]

/-- A sequence is matched by the first run of its first pattern that the second one can follow. -/
theorem first_seq (a b : Pattern) (s : List Char) :
    first (seq a b) s =
      (a.runs s).findSome? fun cut => (first b cut.2).map (Cut.extend cut.1) := by
  simp [first, runs, List.head?_flatMap, List.head?_map]

theorem first_seq_empty (b : Pattern) (s : List Char) : first (seq empty b) s = first b s := by
  rw [first_seq]
  cases h : first b s <;> simp [runs, h, Cut.extend]

@[simp] theorem first_seq_char_nil (p : Char → Bool) (b : Pattern) :
    first (seq (char p) b) [] = none := by
  simp [first_seq, runs]

@[simp] theorem first_seq_char_cons (p : Char → Bool) (b : Pattern) (c : Char)
    (rest : List Char) :
    first (seq (char p) b) (c :: rest) =
      if p c then (first b rest).map (Cut.extend [c]) else none := by
  rw [first_seq]
  by_cases h : p c
  · cases hb : first b rest <;> simp [runs, h, hb]
  · simp [runs, h]

/-- A choice in front of a pattern is made by trying both with the pattern behind. -/
theorem first_seq_alt (a b d : Pattern) (s : List Char) :
    first (seq (alt a b) d) s = (first (seq a d) s).or (first (seq b d) s) := by
  simp [first_seq, runs, List.findSome?_append]

/-- The runs of a repetition in front of a pattern: those with another round, and those of the
    pattern itself. -/
theorem runs_seq_rep (eager : Bool) (a b : Pattern) (s : List Char) :
    (seq (rep eager a) b).runs s =
      inOrder eager ((a.runs s).flatMap fun cut =>
        if cut.2.length < s.length then
          ((seq (rep eager a) b).runs cut.2).map (Cut.extend cut.1) else []) (b.runs s) := by
  have hround : ∀ cut : Cut,
      (if _h : cut.2.length < s.length then
          (rounds eager a.runs cut.2).map (Cut.extend cut.1) else []).flatMap
        (fun cut' => (b.runs cut'.2).map (Cut.extend cut'.1)) =
      if cut.2.length < s.length then
        ((seq (rep eager a) b).runs cut.2).map (Cut.extend cut.1) else [] := by
    intro cut
    by_cases h : cut.2.length < s.length
    · rw [dif_pos h, if_pos h, runs, runs, List.flatMap_map, List.map_flatMap]
      simp [extend_comp_extend]
    · rw [dif_neg h, if_neg h, List.flatMap_nil]
  rw [runs, runs, rounds]
  cases eager <;>
    simp only [inOrder, List.flatMap_append, List.flatMap_assoc, hround, List.flatMap_singleton,
      extend_nil, List.map_id, ite_true, Bool.false_eq_true, ite_false]

/-- A repetition in front of a pattern: another round if the rest can be matched after it, or the
    pattern itself, whichever is preferred. -/
theorem first_seq_rep (eager : Bool) (a b : Pattern) (s : List Char) :
    first (seq (rep eager a) b) s =
      let more := (a.runs s).findSome? fun cut =>
        if cut.2.length < s.length then
          (first (seq (rep eager a) b) cut.2).map (Cut.extend cut.1) else none
      if eager then more.or (first b s) else (first b s).or more := by
  have hround : ∀ cut : Cut,
      (if cut.2.length < s.length then
        ((seq (rep eager a) b).runs cut.2).map (Cut.extend cut.1) else []).head? =
      if cut.2.length < s.length then
        (first (seq (rep eager a) b) cut.2).map (Cut.extend cut.1) else none := by
    intro cut
    by_cases h : cut.2.length < s.length <;> simp [h, first]
  rw [first, runs_seq_rep]
  cases eager <;>
    simp only [inOrder, List.head?_append, List.head?_flatMap, hround, ite_true, first,
      Bool.false_eq_true, ite_false]

/-! ## Quoted regions -/

/-- One unit of what a quoted region holds: a character other than the closing one, or the closing
    one twice; with escapes a backslash takes the next character of the line along. -/
def unit (escapes : Bool) (close : Char) : Pattern :=
  let pair := seq (lit close) (lit close)
  if escapes then
    alt (char fun c => c != close && c != '\\') (alt (seq (lit '\\') (char (· != '\n'))) pair)
  else alt (char (· != close)) pair

/-- The rest of a quoted region. -/
def upTo (escapes : Bool) (close : Char) : Pattern :=
  seq (rep true (unit escapes close)) (lit close)

theorem runs_unit_nil (escapes : Bool) (close : Char) : (unit escapes close).runs [] = [] := by
  cases escapes <;> simp [unit, runs, lit]

theorem runs_unit_escape {close : Char} (hc : close ≠ '\\') (rest : List Char) :
    (unit true close).runs ('\\' :: rest) =
      match rest with
      | [] => []
      | d :: rest' => if d = '\n' then [] else [(['\\', d], rest')] := by
  cases rest with
  | nil => simp [unit, runs, lit, Ne.symm hc]
  | cons d rest' => by_cases hd : d = '\n' <;> simp [unit, runs, lit, Ne.symm hc, hd, Cut.extend]

theorem runs_unit_close {escapes : Bool} {close : Char} (he : ¬(escapes && close = '\\'))
    (rest : List Char) :
    (unit escapes close).runs (close :: rest) =
      match rest with
      | [] => []
      | d :: rest' => if d = close then [([close, d], rest')] else [] := by
  cases escapes <;> cases rest with
  | nil => simp_all [unit, runs, lit]
  | cons d rest' => by_cases hd : d = close <;> simp_all [unit, runs, lit, Cut.extend]

theorem runs_unit_other {escapes : Bool} {close c : Char} (he : ¬(escapes && c = '\\'))
    (hc : c ≠ close) (rest : List Char) :
    (unit escapes close).runs (c :: rest) = [([c], rest)] := by
  cases escapes <;> simp_all [unit, runs, lit]

/-- A region goes on with a unit if it can end after it, and else ends here. -/
theorem first_upTo_step (escapes : Bool) (close : Char) (s : List Char) :
    first (upTo escapes close) s =
      (((unit escapes close).runs s).findSome? fun cut =>
        if cut.2.length < s.length then
          (first (upTo escapes close) cut.2).map (Cut.extend cut.1) else none).or
        (first (lit close) s) :=
  first_seq_rep true _ _ s

/-- **Backtracking in a quoted region.**  The rest of a region ends where `closed?` ends it: after
    a pair the reading goes on if it can end at all, and stops at the first half of it if not. -/
theorem first_upTo {close : Char} (hc : close ≠ '\\') (escapes : Bool) (s : List Char) :
    first (upTo escapes close) s = closed? escapes close s := by
  fun_induction closed? escapes close s with
  | case1 => rw [first_upTo_step, runs_unit_nil]; rfl
  | case2 c h =>
    obtain ⟨rfl, rfl⟩ : escapes = true ∧ c = '\\' := by simpa using h
    rw [first_upTo_step, runs_unit_escape hc]
    simp [lit, Ne.symm hc]
  | case3 c h rest =>
    obtain ⟨rfl, rfl⟩ : escapes = true ∧ c = '\\' := by simpa using h
    rw [first_upTo_step, runs_unit_escape hc]
    simp [lit, Ne.symm hc]
  | case4 c h d rest hd ih =>
    obtain ⟨rfl, rfl⟩ : escapes = true ∧ c = '\\' := by simpa using h
    rw [first_upTo_step, runs_unit_escape hc]
    simp [lit, Ne.symm hc, hd, ih]
  | case5 h =>
    rw [first_upTo_step, runs_unit_close h]
    simp [lit]
  | case6 rest cut hcut h ih =>
    rw [first_upTo_step, runs_unit_close h]
    simp [ih, hcut]
  | case7 rest hcut h ih =>
    rw [first_upTo_step, runs_unit_close h]
    simp [lit, ih, hcut]
  | case8 d rest hd h =>
    rw [first_upTo_step, runs_unit_close h]
    simp [lit, hd]
  | case9 c rest h hne ih =>
    rw [first_upTo_step, runs_unit_other h hne]
    simp [lit, hne, ih]

/-! ## Comments and words -/

/-- Eager rounds over a class take the whole run of it, if what follows cannot start in it. -/
theorem first_seq_run {p : Char → Bool} {b : Pattern}
    (hb : ∀ c rest, p c → first b (c :: rest) = none) (s : List Char) :
    first (seq (rep true (char p)) b) s =
      (first b (s.dropWhile p)).map (Cut.extend (s.takeWhile p)) := by
  induction s with
  | nil => rw [first_seq_rep]; simp [runs, extend_nil]
  | cons c rest ih =>
    rw [first_seq_rep]
    by_cases h : p c
    · simp [runs, h, ih, hb c rest h, extend_comp_extend]
    · simp [runs, h, extend_nil]

/-- Eager rounds over a class at the end of a pattern take the whole run of it. -/
theorem first_run (p : Char → Bool) (s : List Char) :
    first (rep true (char p)) s = some (s.takeWhile p, s.dropWhile p) := by
  induction s with
  | nil => simp [first, runs, rounds, inOrder]
  | cons c rest ih =>
    rw [first, runs, rounds]
    by_cases h : p c
    · simp_all [first, runs, inOrder, Cut.extend]
    · simp [runs, inOrder, h]

/-- The rest of a block comment. -/
def upToCommentEnd : Pattern :=
  seq (rep false (char fun _ => true)) (seq (lit '*') (lit '/'))

/-- The rest of a block comment ends where `commentEnd?` ends it. -/
theorem first_upToCommentEnd (s : List Char) : first upToCommentEnd s = commentEnd? s := by
  have hstep : ∀ s, first upToCommentEnd s = _ := first_seq_rep false (char fun _ => true) _
  fun_induction commentEnd? s with
  | case1 => rw [hstep]; simp [runs, lit]
  | case2 rest => rw [hstep]; simp [lit, Cut.extend]
  | case3 c rest h ih =>
    have hhere : first (seq (lit '*') (lit '/')) (c :: rest) = none := by
      by_cases hc : c = '*'
      · cases rest with
        | nil => simp [lit]
        | cons d rest' =>
          have hd : d ≠ '/' := fun hd => h rest' (by rw [hc]) (by rw [hd])
          simp [lit, hd]
      · simp [lit, hc]
    rw [hstep, hhere, ← upToCommentEnd]
    simp [runs, ih]

end Pattern

/-! ## The table of tokens -/

open Pattern

/-- A rule: a pattern, whether a token of it may stand behind anything, and what a match is. -/
structure Rule where
  pattern : Pattern
  anywhere : Bool
  lexeme : List Char → Lexeme

/-- The token that a rule finds at the front of a text that `previous` precedes. -/
def Rule.find? (r : Rule) (previous : Option Char) (s : List Char) : Option (Lexeme × List Char) :=
  if r.anywhere || !previous.any isGlue then
    (r.pattern.first s).map fun cut => (r.lexeme cut.1, cut.2)
  else none

/-- A quoted region of a kind. -/
def quotedRule (kind : Region) (opening : Char) (escapes : Bool) (close : Char) : Rule :=
  ⟨seq (lit opening) (upTo escapes close), true, .region kind⟩

/-- The quoted regions and the comments. -/
def regionRules (o : LexOptions) : List Rule :=
  quotedRule .literal '\'' o.backslashEscapes '\'' ::
  quotedRule .doubleQuoted '"' false '"' ::
  quotedRule .backticked '\x60' false '\x60' ::
  (if o.bracketQuotes then [quotedRule .bracketed '[' false ']'] else []) ++
  [⟨seq (lit '-') (seq (lit '-') (rep true (char inLine))), true, .region .lineComment⟩,
    ⟨seq (lit '/') (seq (lit '*') upToCommentEnd), true, .region .blockComment⟩]

/-- The cast. -/
def castRule : Rule := ⟨seq (lit ':') (lit ':'), true, fun _ => .cast⟩

/-- A run of word characters. -/
def word : Pattern := seq (char isWordChar) (rep true (char isWordChar))

/-- The parts of a matched placeholder. -/
def placeholderOf : List Char → Lexeme
  | ':' :: name => .placeholder none name
  | c :: rest => .placeholder (some c) (rest.drop 1)
  | [] => .placeholder none []

/-- A placeholder: a tag letter, if there is one, a colon and a word. -/
def placeholderRule : Rule :=
  ⟨seq (alt (char fun c => (BindType.ofTag? c).isSome) empty) (seq (lit ':') word), false,
    placeholderOf⟩

/-- The parts of a matched ambiguous token. -/
def ambiguousOf (s : List Char) : Lexeme :=
  .ambiguous (s.takeWhile isWordChar) ((s.dropWhile isWordChar).drop 1)

/-- An ambiguous token: a word, a colon and a word. -/
def ambiguousRule : Rule :=
  ⟨seq (char isWordChar) (seq (rep true (char isWordChar)) (seq (lit ':') word)), false,
    ambiguousOf⟩

/-- The rules of the tokens, the preferred ones first. -/
def tokenRules (o : LexOptions) : List Rule :=
  regionRules o ++ [castRule, placeholderRule, ambiguousRule]

/-- The token at the front of a text: that of the first rule that finds one. -/
def firstMatch (o : LexOptions) (previous : Option Char) (s : List Char) :
    Option (Lexeme × List Char) :=
  (tokenRules o).findSome? fun r => r.find? previous s

/-! ### Rule by rule -/

theorem find?_quotedRule {close : Char} (hc : close ≠ '\\') (kind : Region) (opening : Char)
    (escapes : Bool) (previous : Option Char) (c : Char) (rest : List Char) :
    (quotedRule kind opening escapes close).find? previous (c :: rest) =
      if c = opening then (closed? escapes close rest).map (opened kind [opening]) else none := by
  by_cases h : c = opening
  · simp only [Rule.find?, quotedRule, lit, h, first_upTo hc, first_seq_char_cons, beq_self_eq_true,
      ite_true, Bool.true_or, Option.map_map]
    rfl
  · simp [Rule.find?, quotedRule, lit, h]

/-- A line comment, as the rule reads it. -/
theorem find?_lineComment (previous : Option Char) (c : Char) (rest : List Char) :
    Rule.find? ⟨seq (lit '-') (seq (lit '-') (rep true (char inLine))), true,
        .region .lineComment⟩ previous (c :: rest) =
      match c, rest with
      | '-', '-' :: rest =>
        some (.region .lineComment ('-' :: '-' :: rest.takeWhile inLine), rest.dropWhile inLine)
      | _, _ => none := by
  by_cases hc : c = '-'
  · cases rest with
    | nil => simp [Rule.find?, lit, hc]
    | cons d rest => by_cases hd : d = '-' <;> simp [Rule.find?, lit, hc, hd, first_run, Cut.extend]
  · simp [Rule.find?, lit, hc]

/-- A block comment, as the rule reads it. -/
theorem find?_blockComment (previous : Option Char) (c : Char) (rest : List Char) :
    Rule.find? ⟨seq (lit '/') (seq (lit '*') upToCommentEnd), true, .region .blockComment⟩
        previous (c :: rest) =
      match c, rest with
      | '/', '*' :: rest => (commentEnd? rest).map (opened .blockComment ['/', '*'])
      | _, _ => none := by
  by_cases hc : c = '/'
  · cases rest with
    | nil => simp [Rule.find?, lit, hc]
    | cons d rest =>
      by_cases hd : d = '*'
      · cases h : commentEnd? rest <;>
          simp [Rule.find?, lit, hc, hd, first_upToCommentEnd, h, Cut.extend, opened]
      · simp [Rule.find?, lit, hc, hd]
  · simp [Rule.find?, lit, hc]

theorem findSome?_regionRules (o : LexOptions) (previous : Option Char) (s : List Char) :
    ((regionRules o).findSome? fun r => r.find? previous s) = region? o s := by
  cases s with
  | nil =>
    cases hb : o.bracketQuotes <;> simp [regionRules, Rule.find?, quotedRule, region?, lit, hb]
  | cons c rest =>
    have hbracket : ((if o.bracketQuotes then [quotedRule .bracketed '[' false ']']
        else []).findSome? fun r => r.find? previous (c :: rest)) =
          if c = '[' ∧ o.bracketQuotes then
            (closed? false ']' rest).map (opened .bracketed ['[']) else none := by
      cases hb : o.bracketQuotes <;> by_cases hc : c = '[' <;> simp [find?_quotedRule, hc]
    simp only [regionRules, List.findSome?_append, List.cons_append, List.findSome?_cons,
      List.findSome?_nil,
      hbracket, find?_lineComment, find?_blockComment, find?_quotedRule (by decide : '\'' ≠ '\\'),
      find?_quotedRule (by decide : '"' ≠ '\\'), find?_quotedRule (by decide : '\x60' ≠ '\\')]
    -- the opening characters differ, so at most one rule has a say
    by_cases h1 : c = '\''
    · subst h1
      cases h : closed? o.backslashEscapes '\'' rest <;> simp [region?, h]
    by_cases h2 : c = '"'
    · subst h2
      cases h : closed? false '"' rest <;> simp [region?, h]
    by_cases h3 : c = '\x60'
    · subst h3
      cases h : closed? false '\x60' rest <;> simp [region?, h]
    by_cases h4 : c = '['
    · subst h4
      cases hb : o.bracketQuotes <;> cases h : closed? false ']' rest <;> simp [region?, h, hb]
    by_cases h5 : c = '-'
    · subst h5
      cases rest with
      | nil => simp [region?]
      | cons d rest => by_cases hd : d = '-' <;> simp [region?, hd]
    by_cases h6 : c = '/'
    · subst h6
      cases rest with
      | nil => simp [region?]
      | cons d rest =>
        by_cases hd : d = '*'
        · subst hd
          cases h : commentEnd? rest <;> simp [region?, h]
        · simp [region?, hd]
    simp [region?, h1, h2, h3, h4, h5, h6]

theorem find?_castRule (previous : Option Char) (s : List Char) :
    castRule.find? previous s = cast? s := by
  match s with
  | [] => rfl
  | [c] => by_cases hc : c = ':' <;> simp [castRule, Rule.find?, cast?, lit, hc]
  | c :: d :: rest =>
    by_cases hc : c = ':' <;> by_cases hd : d = ':' <;>
      simp [castRule, Rule.find?, cast?, lit, hc, hd]

/-- The word at the front of a text. -/
theorem first_word (s : List Char) :
    first word s =
      if (s.takeWhile isWordChar).isEmpty then none
      else some (s.takeWhile isWordChar, s.dropWhile isWordChar) := by
  cases s with
  | nil => simp [word]
  | cons c rest => by_cases h : isWordChar c <;> simp [word, h, first_run, Cut.extend]

theorem find?_placeholderRule (previous : Option Char) (s : List Char) :
    placeholderRule.find? previous s =
      if previous.any isGlue then none else placeholder? s := by
  have hnamed : ∀ rest, first (seq (lit ':') word) (':' :: rest) =
      if (rest.takeWhile isWordChar).isEmpty then none
      else some (':' :: rest.takeWhile isWordChar, rest.dropWhile isWordChar) := by
    intro rest
    by_cases h : (rest.takeWhile isWordChar).isEmpty <;> simp [lit, first_word, h, Cut.extend]
  have hcolon : ∀ c rest, c ≠ ':' → first (seq (lit ':') word) (c :: rest) = none := by
    intro c rest hc
    simp [lit, hc]
  by_cases hg : previous.any isGlue
  · simp [placeholderRule, Rule.find?, hg]
  simp only [placeholderRule, Rule.find?, hg, first_seq_alt, first_seq_empty, Bool.false_or,
    Bool.not_false, ite_true, Bool.false_eq_true, ite_false]
  rcases s with _ | ⟨c, _ | ⟨d, rest⟩⟩
  · simp [placeholder?, lit]
  · by_cases hc : c = ':' <;> by_cases ht : (BindType.ofTag? c).isSome <;>
      simp [placeholder?, lit, hc, ht, first_word, named?]
  · by_cases hc : c = ':'
    · -- a colon is no tag letter, so the name starts behind it
      subst hc
      have ht : (BindType.ofTag? ':').isSome = false := rfl
      rw [first_seq_char_cons, ht, hnamed]
      by_cases hw : ((d :: rest).takeWhile isWordChar).isEmpty <;>
        simp [placeholder?, named?, hw, placeholderOf]
    · by_cases ht : (BindType.ofTag? c).isSome
      · by_cases hd : d = ':'
        · subst hd
          rw [first_seq_char_cons, hnamed, hcolon c _ hc]
          by_cases hw : (rest.takeWhile isWordChar).isEmpty <;>
            simp [placeholder?, named?, hw, ht, placeholderOf, Cut.extend]
        · simp [placeholder?, hd, hc, hcolon]
      · by_cases hd : d = ':' <;> simp [placeholder?, hd, hc, ht, hcolon]

theorem ambiguousOf_append {w : List Char} (hw : ∀ c ∈ w, isWordChar c) (name : List Char) :
    ambiguousOf (w ++ ':' :: name) = .ambiguous w name := by
  have hcolon : isWordChar ':' = false := rfl
  simp [ambiguousOf, List.takeWhile_append_of_pos hw, List.dropWhile_append_of_pos hw, hcolon]

theorem find?_ambiguousRule (previous : Option Char) (s : List Char) :
    ambiguousRule.find? previous s =
      if previous.any isGlue then none else ambiguous? s := by
  have hcolon : ∀ c rest, isWordChar c → first (seq (lit ':') word) (c :: rest) = none := by
    intro c rest hc
    have hne : c ≠ ':' := by
      rintro rfl
      exact absurd hc (by decide)
    simp [lit, hne]
  by_cases hg : previous.any isGlue
  · simp [ambiguousRule, Rule.find?, hg]
  simp only [ambiguousRule, Rule.find?, hg, Bool.false_or, Bool.not_false, ite_true,
    Bool.false_eq_true, ite_false]
  cases s with
  | nil => simp [ambiguous?]
  | cons c rest =>
    by_cases hc : isWordChar c
    · rw [first_seq_char_cons, if_pos hc, first_seq_run hcolon]
      cases hd : rest.dropWhile isWordChar with
      | nil => simp [ambiguous?, lit, hc, hd]
      | cons d rest' =>
        by_cases hcd : d = ':'
        · subst hcd
          by_cases hw : (rest'.takeWhile isWordChar).isEmpty
          · simp [ambiguous?, lit, hc, hd, first_word, hw]
          · have hrun : ∀ x ∈ c :: rest.takeWhile isWordChar, isWordChar x := by
              intro x hx
              rcases List.mem_cons.mp hx with rfl | hx
              · exact hc
              · exact List.mem_takeWhile_imp hx
            simpa [ambiguous?, lit, hc, hd, first_word, hw, Cut.extend] using
              ambiguousOf_append hrun (rest'.takeWhile isWordChar)
        · simp [ambiguous?, lit, hc, hd, hcd]
    · rw [first_seq_char_cons, if_neg hc, ambiguous?_eq_none hc, Option.map_none]

/-- **Reading by hand is looking up.**  The token that is read at the front of a text is the one
    that the first rule with a match finds there. -/
theorem token?_eq_firstMatch (o : LexOptions) (previous : Option Char) (s : List Char) :
    token? o previous s = firstMatch o previous s := by
  have hrest : ([castRule, placeholderRule, ambiguousRule].findSome? fun r =>
      r.find? previous s) = (cast? s).or
        (if previous.any isGlue then none else (placeholder? s).or (ambiguous? s)) := by
    simp only [List.findSome?_cons, List.findSome?_nil, find?_castRule, find?_placeholderRule,
      find?_ambiguousRule]
    cases cast? s <;> by_cases hg : previous.any isGlue <;> cases placeholder? s <;>
      cases ambiguous? s <;> simp [hg]
  rw [token?, firstMatch, tokenRules, List.findSome?_append, findSome?_regionRules, hrest]

/-! ## Scanning -/

/-- `Scan o previous s ls`: scanning the text `s`, which `previous` precedes, for tokens yields the
    lexemes `ls`.  Where a rule matches there is a token, and the scan goes on behind it; where
    none does, a character is passed over. -/
inductive Scan (o : LexOptions) : Option Char → List Char → List Lexeme → Prop where
  | done {previous : Option Char} : Scan o previous [] []
  | token {previous : Option Char} {s rest : List Char} {l : Lexeme} {ls : List Lexeme}
      (found : firstMatch o previous s = some (l, rest)) (next : Scan o l.text.getLast? rest ls) :
      Scan o previous s (l :: ls)
  | gap {previous : Option Char} {c : Char} {rest : List Char} {ls : List Lexeme}
      (missed : firstMatch o previous (c :: rest) = none) (next : Scan o (some c) rest ls) :
      Scan o previous (c :: rest) (.plain c :: ls)

/-- The lexemes of a text are its scan. -/
theorem scan_lexemes (o : LexOptions) (previous : Option Char) (s : List Char) :
    Scan o previous s (lexemes o previous s) := by
  fun_induction lexemes o previous s with
  | case1 previous => exact .done
  | case2 previous c rest t h ih => exact .token (token?_eq_firstMatch .. ▸ h) ih
  | case3 previous c rest h ih => exact .gap (token?_eq_firstMatch .. ▸ h) ih

/-- A text has one scan. -/
theorem eq_lexemes_of_scan {o : LexOptions} {previous : Option Char} {s : List Char}
    {ls : List Lexeme} (h : Scan o previous s ls) : ls = lexemes o previous s := by
  induction h with
  | done => rw [lexemes_nil]
  | token found next ih =>
    rw [← token?_eq_firstMatch] at found
    rw [lexemes_of_token found, ih]
  | gap missed next ih =>
    rw [← token?_eq_firstMatch] at missed
    rw [lexemes_of_gap missed, ih]

theorem scan_iff {o : LexOptions} {previous : Option Char} {s : List Char} {ls : List Lexeme} :
    Scan o previous s ls ↔ ls = lexemes o previous s :=
  ⟨eq_lexemes_of_scan, fun h => h ▸ scan_lexemes o previous s⟩

end TaggedSql.Placeholder
