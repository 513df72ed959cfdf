/-
  Lexing texts that are put together.

  1. **Closed texts** — `closedFrom` walks over a text once and keeps in mind whether it is inside a
     quoted region or a comment.  A text is `Closed` when the walk ends outside: every quote and
     every comment that is opened in it is closed in it.  Where a closing character is doubled the
     walk goes on, so `[a]]` leaves a bracket open; with escapes, so does a literal with a backslash
     at the end of a line.

  2. **Breaks** — blanks, commas, points and parentheses belong to no token but regions.  Two texts
     are `Apart` when one of the two characters that meet is a break.

  3. **The statement** (`lexemes_append`) — a closed text and a text apart from it are lexed
     independently of each other.  The crux is `closed?_append_of_closed`: a quoted region that the
     walk sees closed ends with an odd run of closing characters, and backtracking never gives up
     such an end, whatever follows.
-/
import TaggedSql.Proofs.Placeholder.Token

namespace TaggedSql.Placeholder

open TaggedSql.Text

/-! ## Closed texts -/

/-- What a walk over a text is inside of. -/
inductive Mode where
  | code
  | quoted (escapes : Bool) (close : Char)
  | line
  | block
  deriving DecidableEq

/-- The quoted region that a character opens. -/
def openedBy (o : LexOptions) (c : Char) : Option Mode :=
  if c = '\'' then some (.quoted o.backslashEscapes '\'')
  else if c = '"' then some (.quoted false '"')
  else if c = '\x60' then some (.quoted false '\x60')
  else if c = '[' ∧ o.bracketQuotes then some (.quoted false ']')
  else none

/-- Whether a walk over a text that starts in a mode ends outside quotes and comments. -/
def closedFrom (o : LexOptions) : Mode → List Char → Bool
  | .code, [] => true
  | .code, '-' :: '-' :: rest => closedFrom o .line rest
  | .code, '/' :: '*' :: rest => closedFrom o .block rest
  | .code, c :: rest => closedFrom o ((openedBy o c).getD .code) rest
  | .quoted .., [] => false
  | .quoted escapes close, [c] => !(escapes && c = '\\') && c = close
  | .quoted escapes close, c :: d :: rest =>
    if escapes && c = '\\' then d != '\n' && closedFrom o (.quoted escapes close) rest
    else if c = close then
      if d = close then closedFrom o (.quoted escapes close) rest
      else closedFrom o .code (d :: rest)
    else closedFrom o (.quoted escapes close) (d :: rest)
  | .line, [] => false
  | .line, c :: rest => closedFrom o (if inLine c then .line else .code) rest
  | .block, [] => false
  | .block, '*' :: '/' :: rest => closedFrom o .code rest
  | .block, _ :: rest => closedFrom o .block rest

/-- A text that closes every quote and comment it opens. -/
def Closed (o : LexOptions) (s : List Char) : Prop := closedFrom o .code s = true

instance (o : LexOptions) (s : List Char) : Decidable (Closed o s) :=
  inferInstanceAs (Decidable (_ = true))

/-! ## Regions of closed texts end for good -/

/-- **The end of a quoted region.**  Where the walk sees the region closed, the region ends, what
    follows it is closed, and more text behind does not move its end unless the text begins with
    the closing character right behind it. -/
theorem closed?_append_of_closed {o : LexOptions} {escapes : Bool} {close : Char} {s : List Char} :
    closedFrom o (.quoted escapes close) s = true →
      ∃ cut, closed? escapes close s = some cut ∧ Closed o cut.2 ∧
        ∀ t, (cut.2 = [] → t.head? ≠ some close) →
          closed? escapes close (s ++ t) = some (cut.1, cut.2 ++ t) := by
  fun_induction closed? escapes close s with
  | case1 => intro h; simp [closedFrom] at h
  | case2 c hc => intro h; simp [closedFrom, hc] at h
  | case3 c hc rest => intro h; simp [closedFrom, hc] at h
  | case4 c hc d rest hd ih =>
    intro h
    rw [closedFrom, if_pos hc, Bool.and_eq_true] at h
    obtain ⟨cut, hcut, hclosed, happ⟩ := ih h.2
    refine ⟨cut.extend [c, d], by rw [hcut]; rfl, hclosed, fun t ht => ?_⟩
    have := happ t ht
    simp [closed?, hc, hd, this, Cut.extend]
  | case5 hc =>
    -- the region ends with the text, so all depends on what is written behind it
    intro _
    refine ⟨([close], []), rfl, rfl, fun t ht => ?_⟩
    cases t with
    | nil => simp [closed?, hc]
    | cons d t =>
      have hd : d ≠ close := by simpa using ht rfl
      simp [closed?, hc, hd]
  | case6 rest cut hcut hc ih =>
    intro h
    rw [closedFrom, if_neg hc, if_pos rfl, if_pos rfl] at h
    obtain ⟨cut', hcut', hclosed, happ⟩ := ih h
    obtain rfl : cut = cut' := Option.some.inj (hcut.symm.trans hcut')
    refine ⟨cut.extend [close, close], rfl, hclosed, fun t ht => ?_⟩
    have := happ t ht
    simp [closed?, hc, this, Cut.extend]
  | case7 rest hcut hc ih =>
    -- backing off to the first half of a pair: the walk has not seen the region closed
    intro h
    rw [closedFrom, if_neg hc, if_pos rfl, if_pos rfl] at h
    obtain ⟨cut, hcut', -⟩ := ih h
    rw [hcut] at hcut'
    cases hcut'
  | case8 d rest hd hc =>
    intro h
    rw [closedFrom, if_neg hc, if_pos rfl, if_neg hd] at h
    exact ⟨([close], d :: rest), rfl, h, fun t _ => by simp [closed?, hc, hd]⟩
  | case9 c rest hc hne ih =>
    intro h
    have hrest : closedFrom o (.quoted escapes close) rest = true := by
      cases rest with
      | nil => simp [closedFrom, hne] at h
      | cons d rest => rwa [closedFrom, if_neg hc, if_neg hne] at h
    obtain ⟨cut, hcut, hclosed, happ⟩ := ih hrest
    refine ⟨cut.extend [c], by rw [hcut]; rfl, hclosed, fun t ht => ?_⟩
    have := happ t ht
    rw [List.cons_append, closed?.eq_def]
    simp [hc, hne, this, Cut.extend]

/-- A quoted region ends with its closing character. -/
theorem getLast?_closed? {escapes : Bool} {close : Char} {s : List Char} {cut : Cut}
    (h : closed? escapes close s = some cut) : cut.1.getLast? = some close := by
  fun_induction closed? escapes close s generalizing cut with
  | case1 => cases h
  | case2 => cases h
  | case3 => cases h
  | case4 c hc d rest hd ih =>
    obtain ⟨cut', hcut, rfl⟩ := Option.map_eq_some_iff.mp h
    simp [Cut.extend, List.getLast?_cons, ih hcut]
  | case5 => cases h; rfl
  | case6 rest cut' hcut hc ih =>
    cases h
    simp [Cut.extend, List.getLast?_cons, ih hcut]
  | case7 => cases h; rfl
  | case8 => cases h; rfl
  | case9 c rest hc hne ih =>
    obtain ⟨cut', hcut, rfl⟩ := Option.map_eq_some_iff.mp h
    simp [Cut.extend, List.getLast?_cons, ih hcut]

/-- A block comment that the walk sees closed ends there, whatever follows. -/
theorem commentEnd?_append_of_closed {o : LexOptions} {s : List Char} :
    closedFrom o .block s = true →
      ∃ cut, commentEnd? s = some cut ∧ Closed o cut.2 ∧
        ∀ t, commentEnd? (s ++ t) = some (cut.1, cut.2 ++ t) := by
  fun_induction commentEnd? s with
  | case1 => intro h; cases h
  | case2 rest =>
    intro h
    exact ⟨(['*', '/'], rest), rfl, h, fun t => by simp [commentEnd?]⟩
  | case3 c rest hne ih =>
    intro h
    rw [closedFrom] at h
    · obtain ⟨cut, hcut, hclosed, happ⟩ := ih h
      refine ⟨cut.extend [c], by rw [hcut]; rfl, hclosed, fun t => ?_⟩
      have hne' : ∀ rest', c = '*' → rest ++ t = '/' :: rest' → False := by
        intro rest' hc hr
        cases rest with
        | nil => cases h
        | cons d rest =>
          obtain ⟨rfl, -⟩ := List.cons.inj hr
          exact hne rest hc rfl
      rw [List.cons_append, commentEnd?, happ t]
      · rfl
      · exact hne'
    · exact hne

/-- A line comment ends in front of a line break. -/
theorem eq_of_not_inLine {c : Char} (h : ¬inLine c) : c = '\r' ∨ c = '\n' := by
  simp only [inLine, Bool.and_eq_true, bne_iff_ne, ne_eq, not_and, Decidable.not_not] at h
  exact (Decidable.em (c = '\r')).imp_right h

/-- A line comment that the walk sees closed ends in front of a line break, whatever follows. -/
theorem lineEnd_append_of_closed {o : LexOptions} {s : List Char} :
    closedFrom o .line s = true →
      Closed o (s.dropWhile inLine) ∧
        ∀ t, (s ++ t).takeWhile inLine = s.takeWhile inLine ∧
          (s ++ t).dropWhile inLine = s.dropWhile inLine ++ t := by
  induction s with
  | nil => intro h; cases h
  | cons c s ih =>
    intro h
    rw [closedFrom] at h
    by_cases hc : inLine c
    · rw [if_pos hc] at h
      obtain ⟨hclosed, happ⟩ := ih h
      refine ⟨by simpa [hc] using hclosed, fun t => ?_⟩
      simp [hc, happ t]
    · rw [if_neg hc] at h
      have hcode : Closed o (c :: s) := by
        rcases eq_of_not_inLine hc with rfl | rfl <;> simpa [Closed, closedFrom, openedBy] using h
      refine ⟨by simpa [hc] using hcode, fun t => ?_⟩
      simp [hc]

/-! ## Breaks -/

/-- Whether a character stands in no token but a region. -/
def isBreak (c : Char) : Bool := [' ', ',', '.', '(', ')', '\n'].contains c

/-- Two texts of which one has a break where they meet. -/
def Apart (s t : List Char) : Prop := ∀ x ∈ s.getLast?, ∀ y ∈ t.head?, isBreak x ∨ isBreak y

theorem not_isBreak_of_isGlue {c : Char} (h : isGlue c) : isBreak c = false := by
  cases hb : isBreak c with
  | false => rfl
  | true =>
    simp only [isBreak, List.contains_eq_mem, List.mem_cons, List.not_mem_nil, or_false,
      decide_eq_true_eq] at hb
    rcases hb with rfl | rfl | rfl | rfl | rfl | rfl <;> cases h

theorem not_isGlue_of_isBreak {c : Char} (h : isBreak c) : isGlue c = false := by
  cases hg : isGlue c with
  | false => rfl
  | true =>
    rw [not_isBreak_of_isGlue hg] at h
    cases h

/-- What is apart from a text is apart from its end. -/
theorem Apart.of_append {a b t : List Char} (h : Apart (a ++ b) t) : Apart b t := by
  intro x hx y hy
  refine h x ?_ y hy
  rw [List.getLast?_append, Option.mem_def.mp hx]
  rfl

/-- Behind a character that is no break there is a break. -/
theorem Apart.isBreak_head {s t : List Char} (h : Apart s t) {x : Char} (hx : s.getLast? = some x)
    (hb : isBreak x = false) : ∀ y ∈ t.head?, isBreak y := by
  intro y hy
  rcases h x hx y hy with h | h
  · rw [hb] at h
    cases h
  · exact h

/-- What starts with a break starts with no other character. -/
theorem head?_ne_of_isBreak {t : List Char} (h : ∀ y ∈ t.head?, isBreak y) {c : Char}
    (hc : isBreak c = false) : t.head? ≠ some c := by
  intro ht
  rw [h c ht] at hc
  cases hc

/-! ## Tokens of closed texts -/

/-- A run of word characters does not reach beyond a break. -/
theorem wordRun_append {s t : List Char}
    (h : s.dropWhile isWordChar = [] → ∀ y ∈ t.head?, isBreak y) :
    (s ++ t).takeWhile isWordChar = s.takeWhile isWordChar ∧
      (s ++ t).dropWhile isWordChar = s.dropWhile isWordChar ++ t := by
  induction s with
  | nil =>
    cases t with
    | nil => exact ⟨rfl, rfl⟩
    | cons y t =>
      have hy : isWordChar y = false := by
        cases hw : isWordChar y with
        | false => rfl
        | true =>
          have := not_isBreak_of_isGlue (isGlue_of_isWordChar hw)
          rw [h rfl y rfl] at this
          cases this
      simp [hy]
  | cons c s ih =>
    by_cases hc : isWordChar c
    · have := ih (by simpa [hc] using h)
      simp [hc, this]
    · simp [hc]

/-- `Kept read s t`: what is read at the front of `s` is read there, too, when `t` follows. -/
def Kept (read : List Char → Option (Lexeme × List Char)) (s t : List Char) : Prop :=
  read (s ++ t) = (read s).map fun u => (u.1, u.2 ++ t)

/-- A character that opens a quoted region. -/
theorem openedBy_cases {o : LexOptions} {c : Char} {m : Mode} (h : openedBy o c = some m) :
    ∃ kind escapes close, m = .quoted escapes close ∧ isBreak close = false ∧
      ∀ rest, region? o (c :: rest) = (closed? escapes close rest).map (opened kind [c]) := by
  unfold openedBy at h
  split at h
  · next hc => subst hc; cases h; exact ⟨.literal, _, _, rfl, rfl, fun rest => rfl⟩
  · split at h
    · next hc => subst hc; cases h; exact ⟨.doubleQuoted, _, _, rfl, rfl, fun rest => rfl⟩
    · split at h
      · next hc => subst hc; cases h; exact ⟨.backticked, _, _, rfl, rfl, fun rest => rfl⟩
      · split at h
        · next hc =>
          obtain ⟨rfl, hb⟩ := hc
          cases h
          exact ⟨.bracketed, _, _, rfl, rfl, fun rest => by simp [region?, hb]⟩
        · cases h

/-- A text that starts with an opening quote is closed when the walk sees the region closed. -/
theorem closed_cons_of_opened {o : LexOptions} {c : Char} {m : Mode} (h : openedBy o c = some m)
    (rest : List Char) : Closed o (c :: rest) = (closedFrom o m rest = true) := by
  rw [Closed, closedFrom, h]
  · rfl
  · rintro r rfl
    cases h
  · rintro r rfl
    cases h

/-- A character that opens nothing starts a region only as the first of two. -/
theorem region?_of_not_opened {o : LexOptions} {c : Char} (h : openedBy o c = none)
    (rest : List Char) :
    region? o (c :: rest) =
      if c = '-' ∧ rest.head? = some '-' then
        some (.region .lineComment ('-' :: '-' :: rest.tail.takeWhile inLine),
          rest.tail.dropWhile inLine)
      else if c = '/' ∧ rest.head? = some '*' then
        (commentEnd? rest.tail).map (opened .blockComment ['/', '*'])
      else none := by
  unfold openedBy at h
  split at h
  · cases h
  · next h1 =>
    split at h
    · cases h
    · next h2 =>
      split at h
      · cases h
      · next h3 =>
        split at h
        · cases h
        · next h4 =>
          by_cases h5 : c = '-'
          · subst h5
            cases rest with
            | nil => simp [region?]
            | cons d rest => by_cases hd : d = '-' <;> simp [region?, hd]
          by_cases h6 : c = '/'
          · subst h6
            cases rest with
            | nil => simp [region?]
            | cons d rest => by_cases hd : d = '*' <;> simp [region?, hd]
          by_cases h7 : c = '['
          · have hb : o.bracketQuotes = false := by simpa [h7] using h4
            simp [region?, h7, hb]
          · simp [region?, h1, h2, h3, h5, h6, h7]

/-- The characters of two texts that meet do not make up a pair that neither holds a break. -/
theorem Apart.head?_append_ne {c d : Char} {rest t : List Char} (ha : Apart (c :: rest) t)
    (hc : isBreak c = false) (hd : isBreak d = false) (h : rest.head? ≠ some d) :
    (rest ++ t).head? ≠ some d := by
  cases rest with
  | nil => exact head?_ne_of_isBreak (ha.isBreak_head rfl hc) hd
  | cons e rest => exact h

/-- A region of a closed text is read whatever follows, and what is behind it is closed. -/
theorem region?_append {o : LexOptions} {s t : List Char} (hs : s ≠ []) (hc : Closed o s)
    (ha : Apart s t) :
    Kept (region? o) s t ∧ ∀ u, region? o s = some u → Closed o u.2 := by
  obtain ⟨c, rest, rfl⟩ := List.exists_cons_of_ne_nil hs
  cases ho : openedBy o c with
  | some m =>
    obtain ⟨kind, escapes, close, rfl, hbreak, hregion⟩ := openedBy_cases ho
    rw [closed_cons_of_opened ho] at hc
    obtain ⟨cut, hcut, hclosed, happ⟩ := closed?_append_of_closed hc
    have hend : cut.2 = [] → t.head? ≠ some close := by
      intro hnil
      have hlast : (c :: rest).getLast? = some close := by
        rw [← closed?_append hcut, hnil, List.append_nil, List.getLast?_cons, getLast?_closed? hcut]
        rfl
      exact head?_ne_of_isBreak (ha.isBreak_head hlast hbreak) hbreak
    refine ⟨?_, fun u hu => ?_⟩
    · rw [Kept, List.cons_append, hregion, hregion, happ t hend, hcut]
      rfl
    · rw [hregion, hcut] at hu
      cases hu
      exact hclosed
  | none =>
    rw [Kept, List.cons_append, region?_of_not_opened ho, region?_of_not_opened ho]
    by_cases h5 : c = '-'
    · subst h5
      by_cases hd : rest.head? = some '-'
      · obtain ⟨rest, rfl⟩ := List.head?_eq_some_iff.mp hd
        rw [Closed, closedFrom] at hc
        obtain ⟨hclosed, happ⟩ := lineEnd_append_of_closed hc
        refine ⟨by simp [(happ t).1, (happ t).2], fun u hu => ?_⟩
        simp at hu
        subst hu
        exact hclosed
      · have hd' := ha.head?_append_ne rfl rfl hd
        have hslash : ¬('-' = '/') := by decide
        simp only [hd, hd', hslash, false_and, and_false, ite_false]
        exact ⟨rfl, fun u hu => by cases hu⟩
    by_cases h6 : c = '/'
    · subst h6
      by_cases hd : rest.head? = some '*'
      · obtain ⟨rest, rfl⟩ := List.head?_eq_some_iff.mp hd
        rw [Closed, closedFrom] at hc
        obtain ⟨cut, hcut, hclosed, happ⟩ := commentEnd?_append_of_closed hc
        refine ⟨by simp [hcut, happ t, opened], fun u hu => ?_⟩
        simp [hcut] at hu
        subst hu
        exact hclosed
      · have hd' := ha.head?_append_ne rfl rfl hd
        simp only [h5, hd, hd', false_and, and_false, ite_false]
        exact ⟨rfl, fun u hu => by cases hu⟩
    simp [h5, h6]

theorem cast?_append {s t : List Char} (hs : s ≠ []) (ha : Apart s t) : Kept cast? s t := by
  match s with
  | [] => exact absurd rfl hs
  | [c] =>
    by_cases hc : c = ':'
    · subst hc
      have ht := head?_ne_of_isBreak (ha.isBreak_head rfl rfl) (c := ':') rfl
      cases t with
      | nil => rfl
      | cons d t =>
        have hd : d ≠ ':' := by simpa using ht
        simp [Kept, cast?, hd]
    · simp [Kept, cast?, hc]
  | c :: d :: rest =>
    by_cases hc : c = ':' <;> by_cases hd : d = ':' <;> simp [Kept, cast?, hc, hd]

/-- Behind a word that reaches the end of a text there is a break. -/
theorem Apart.isBreak_of_run {c : Char} {rest t : List Char} (ha : Apart (c :: rest) t)
    (hc : isGlue c) (h : rest.dropWhile isWordChar = []) : ∀ y ∈ t.head?, isBreak y := by
  have hlast : isGlue ((c :: rest).getLast (List.cons_ne_nil _ _)) := by
    rcases List.mem_cons.mp (List.getLast_mem (List.cons_ne_nil c rest)) with hl | hl
    · rw [hl]
      exact hc
    · exact isGlue_of_isWordChar (List.dropWhile_eq_nil_iff.mp h _ hl)
  exact ha.isBreak_head (List.getLast?_eq_some_getLast _) (not_isBreak_of_isGlue hlast)

/-- The name of a placeholder, behind its colon, is read whatever follows. -/
theorem named?_append {tag : Option Char} {rest t : List Char} (ha : Apart (':' :: rest) t) :
    Kept (named? tag) rest t := by
  obtain ⟨htake, hdrop⟩ := wordRun_append (ha.isBreak_of_run rfl)
  by_cases hw : (rest.takeWhile isWordChar).isEmpty <;> simp [Kept, named?, htake, hdrop, hw]

theorem placeholder?_append {s t : List Char} (hs : s ≠ []) (ha : Apart s t) :
    Kept placeholder? s t := by
  match s with
  | [] => exact absurd rfl hs
  | ':' :: rest => exact named?_append ha
  | [c] =>
    by_cases hc : c = ':'
    · subst hc
      exact named?_append ha
    · by_cases ht : (BindType.ofTag? c).isSome
      · have hg : isGlue c := isGlue_of_isWordChar
          (isWordChar_of_tag ((BindType.mem_tagLetters_iff c).mpr ht))
        have hne := head?_ne_of_isBreak (ha.isBreak_head rfl (not_isBreak_of_isGlue hg))
          (c := ':') rfl
        cases t with
        | nil => simp [Kept, placeholder?, hc]
        | cons d t =>
          have hd : d ≠ ':' := by simpa using hne
          simp [Kept, placeholder?, hc, hd]
      · cases t with
        | nil => simp [Kept, placeholder?, hc]
        | cons d t => by_cases hd : d = ':' <;> simp [Kept, placeholder?, hc, hd, ht]
  | c :: d :: rest =>
    by_cases hc : c = ':'
    · subst hc
      exact named?_append ha
    · by_cases hd : d = ':'
      · subst hd
        have hn : Kept (named? (some c)) rest t := named?_append (Apart.of_append (a := [c]) ha)
        by_cases ht : (BindType.ofTag? c).isSome
        · simpa [Kept, placeholder?, hc, ht] using hn
        · simp [Kept, placeholder?, ht]
      · simp [Kept, placeholder?, hc, hd]

theorem ambiguous?_append {s t : List Char} (hs : s ≠ []) (ha : Apart s t) :
    Kept ambiguous? s t := by
  obtain ⟨c, rest, rfl⟩ := List.exists_cons_of_ne_nil hs
  by_cases hc : isWordChar c
  · have hrun : (c :: rest).dropWhile isWordChar = [] → ∀ y ∈ t.head?, isBreak y := by
      intro hnil
      exact ha.isBreak_of_run (isGlue_of_isWordChar hc) (by simpa [hc] using hnil)
    obtain ⟨htake, hdrop⟩ := wordRun_append hrun
    rw [Kept, ambiguous?, htake, hdrop, ambiguous?]
    cases hd : (c :: rest).dropWhile isWordChar with
    | nil =>
      have hne := head?_ne_of_isBreak (hrun hd) (c := ':') rfl
      cases t with
      | nil => rfl
      | cons d t =>
        have hd : d ≠ ':' := by simpa using hne
        simp [hd]
    | cons d rest' =>
      by_cases hd' : d = ':'
      · subst hd'
        have ha' : Apart (':' :: rest') t := by
          rw [← hd]
          refine Apart.of_append (a := (c :: rest).takeWhile isWordChar) ?_
          rw [List.takeWhile_append_dropWhile]
          exact ha
        obtain ⟨htake', hdrop'⟩ := wordRun_append (ha'.isBreak_of_run rfl)
        simp only [List.cons_append, htake', hdrop']
        split <;> rfl
      · simp [hd']
  · rw [Kept, List.cons_append, ambiguous?_eq_none hc, ambiguous?_eq_none hc]
    rfl

/-- **What is kept.**  A token at the front of a closed text is read there whatever follows, and
    what is behind it is closed. -/
theorem token?_append {o : LexOptions} (previous : Option Char) {s t : List Char} (hs : s ≠ [])
    (hc : Closed o s) (ha : Apart s t) : Kept (token? o previous) s t := by
  have hr := (region?_append hs hc ha).1
  have hcast := cast?_append hs ha
  have hp := placeholder?_append hs ha
  have hamb := ambiguous?_append hs ha
  simp only [Kept] at hr hcast hp hamb ⊢
  simp only [token?, hr, hcast, hp, hamb]
  cases region? o s <;> cases cast? s <;> cases placeholder? s <;> cases ambiguous? s <;>
    by_cases hg : previous.any isGlue <;> simp [hg]

/-! ## Lexing closed texts -/

/-- Whether a character opens neither a quote nor a comment, alone or with the next one. -/
def isInert (c : Char) : Bool := !(['\'', '"', '\x60', '[', '-', '/'].contains c)

theorem openedBy_of_isInert {c : Char} (h : isInert c) (o : LexOptions) : openedBy o c = none := by
  simp only [isInert, List.contains_eq_mem, Bool.not_eq_true', decide_eq_false_iff_not,
    List.mem_cons, List.not_mem_nil, or_false, not_or] at h
  simp [openedBy, h]

theorem isInert_of_isGlue {c : Char} (h : isGlue c) : isInert c := by
  cases hi : isInert c with
  | true => rfl
  | false =>
    simp only [isInert, List.contains_eq_mem, List.mem_cons, List.not_mem_nil, or_false,
      Bool.not_eq_false', decide_eq_true_eq] at hi
    rcases hi with rfl | rfl | rfl | rfl | rfl | rfl <;> cases h

/-- No region starts at an inert character. -/
theorem region?_of_isInert {o : LexOptions} {c : Char} (h : isInert c) (rest : List Char) :
    region? o (c :: rest) = none := by
  rw [region?_of_not_opened (openedBy_of_isInert h o), if_neg, if_neg]
  · rintro ⟨rfl, -⟩
    cases h
  · rintro ⟨rfl, -⟩
    cases h

theorem region?_of_isGlue {o : LexOptions} {c : Char} (h : isGlue c) (rest : List Char) :
    region? o (c :: rest) = none :=
  region?_of_isInert (isInert_of_isGlue h) rest

/-- The walk passes over an inert character. -/
theorem closedFrom_inert {c : Char} (h : isInert c) (o : LexOptions) (rest : List Char) :
    closedFrom o .code (c :: rest) = closedFrom o .code rest := by
  rw [closedFrom, openedBy_of_isInert h]
  · rfl
  · rintro r rfl
    cases h
  · rintro r rfl
    cases h

/-- Inert characters in front of a text make no difference to its being closed. -/
theorem closed_inert_append {o : LexOptions} {w rest : List Char} (h : ∀ c ∈ w, isInert c) :
    Closed o (w ++ rest) ↔ Closed o rest := by
  induction w with
  | nil => rfl
  | cons c w ih =>
    have hw := ih fun d hd => h d (List.mem_cons_of_mem c hd)
    rw [List.cons_append, Closed, closedFrom_inert (h c List.mem_cons_self)]
    exact hw

theorem closed_of_inert {o : LexOptions} {w : List Char} (h : ∀ c ∈ w, isInert c) :
    Closed o w := by
  rw [← List.append_nil w]
  exact (closed_inert_append h).mpr rfl

/-- What is behind a token of a closed text is closed. -/
theorem closed_of_token {o : LexOptions} {previous : Option Char} {s : List Char}
    {u : Lexeme × List Char} (h : token? o previous s = some u) (hc : Closed o s) :
    Closed o u.2 := by
  have hs : s ≠ [] := by
    rintro rfl
    exact absurd (length_token?_lt h) (Nat.not_lt_zero _)
  have happ := (fits_token h).2
  by_cases hr : region? o s = some u
  · exact (region?_append hs hc (t := []) fun _ _ y hy => by cases hy).2 u hr
  · -- all other tokens are made of glue
    have hglue : ∀ c ∈ u.1.text, isGlue c := by
      cases hv : u.1.isVerbatim with
      | false => exact isGlue_of_mem_text h hv
      | true =>
        rcases token?_verbatim h hv with h' | h'
        · exact absurd h' hr
        · rw [h']
          exact List.all_eq_true.mp rfl
    rw [← happ] at hc
    exact (closed_inert_append fun c hc => isInert_of_isGlue (hglue c hc)).mp hc

/-- What is behind a plain character of a closed text is closed. -/
theorem closed_of_gap {o : LexOptions} {previous : Option Char} {c : Char} {rest : List Char}
    (h : token? o previous (c :: rest) = none) (hc : Closed o (c :: rest)) : Closed o rest := by
  have hr : region? o (c :: rest) = none := (Option.or_eq_none_iff.mp h).1
  cases ho : openedBy o c with
  | some m =>
    -- an opening quote that the walk sees closed is no plain character
    obtain ⟨kind, escapes, close, rfl, -, hregion⟩ := openedBy_cases ho
    rw [closed_cons_of_opened ho] at hc
    obtain ⟨cut, hcut, -⟩ := closed?_append_of_closed hc
    rw [hregion, hcut] at hr
    cases hr
  | none =>
    rw [region?_of_not_opened ho] at hr
    unfold Closed at hc ⊢
    rw [closedFrom, ho] at hc
    · exact hc
    · rintro r rfl rfl
      simp at hr
    · rintro r rfl rfl
      rw [closedFrom] at hc
      obtain ⟨cut, hcut, -⟩ := commentEnd?_append_of_closed hc
      simp [hcut] at hr

/-- **Closed texts are lexed on their own.**  The lexemes of a closed text and one apart from it
    are those of the closed text, then those of the other one. -/
theorem lexemes_append {o : LexOptions} {previous : Option Char} {s t : List Char}
    (hc : Closed o s) (ha : Apart s t) :
    lexemes o previous (s ++ t) =
      lexemes o previous s ++ lexemes o (s.getLast?.or previous) t := by
  fun_induction lexemes o previous s with
  | case1 previous => rfl
  | case2 previous c rest u h ih =>
    have hkept := token?_append previous (List.cons_ne_nil c rest) hc ha
    have happ := (fits_token h).2
    have hrest := ih (closed_of_token h hc) (Apart.of_append (happ ▸ ha))
    have hlast : (c :: rest).getLast?.or previous = u.2.getLast?.or u.1.text.getLast? := by
      rw [← happ, List.getLast?_append, Option.or_assoc]
      cases hl : u.1.text.getLast? with
      | none => exact absurd (List.getLast?_eq_none_iff.mp hl) (fits_token h).1
      | some x => rfl
    rw [Kept, h] at hkept
    rw [lexemes_of_token hkept, hlast]
    simp only [hrest, List.cons_append]
  | case3 previous c rest h ih =>
    have hkept := token?_append previous (List.cons_ne_nil c rest) hc ha
    have hrest := ih (closed_of_gap h hc) (Apart.of_append (a := [c]) ha)
    have hlast : (c :: rest).getLast?.or previous = rest.getLast?.or (some c) := by
      cases rest <;> simp [List.getLast?_cons]
    rw [Kept, h] at hkept
    rw [hlast, List.cons_append]
    exact (lexemes_of_gap hkept).trans (congrArg _ hrest)

/-- What precedes a text matters for its first token only. -/
theorem lexemes_congr {o : LexOptions} {previous : Option Char} {s : List Char}
    (h : token? o previous s = token? o none s) : lexemes o previous s = lex o s := by
  cases ht : token? o none s with
  | some u => rw [lex, lexemes_of_token (h.trans ht), lexemes_of_token ht]
  | none =>
    cases s with
    | nil => simp [lex, lexemes_nil]
    | cons c rest => rw [lex, lexemes_of_gap (h.trans ht), lexemes_of_gap ht]

/-- What precedes a text does not matter when it is no glue. -/
theorem lexemes_of_not_glue {o : LexOptions} {previous : Option Char} {s : List Char}
    (h : previous.any isGlue = false) : lexemes o previous s = lex o s :=
  lexemes_congr (by simp [token?, h])

/-- In front of a break it does not matter what precedes. -/
theorem lexemes_of_isBreak {o : LexOptions} {previous : Option Char} {c : Char} {rest : List Char}
    (h : isBreak c) : lexemes o previous (c :: rest) = lex o (c :: rest) := by
  have hg := not_isGlue_of_isBreak h
  have hp : placeholder? (c :: rest) = none := by
    rw [Option.eq_none_iff_forall_ne_some]
    intro u hu
    obtain ⟨tag, name, rest', -, hs, htag, -⟩ := placeholder?_eq_some_iff.mp hu
    cases tag with
    | none =>
      rw [(List.cons.inj hs).1] at hg
      cases hg
    | some d =>
      rw [(List.cons.inj hs).1, isGlue_of_isWordChar (isWordChar_of_tag (htag d rfl))] at hg
      cases hg
  have ha : ambiguous? (c :: rest) = none := by
    refine ambiguous?_eq_none (fun hw => ?_) rest
    rw [isGlue_of_isWordChar hw] at hg
    cases hg
  have htoken : token? o previous (c :: rest) = token? o none (c :: rest) := by
    simp [token?, hp, ha]
  exact lexemes_congr htoken

end TaggedSql.Placeholder
