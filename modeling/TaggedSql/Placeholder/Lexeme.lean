/-
  The lexemes of SQL text with named placeholders.

  A text is cut from left to right.  At every position the first of these that fits is taken:

    1. a quoted region: `'...'`, `"..."`, a pair of backticks, and `[...]` where brackets quote;
    2. a comment: from `--` to the end of the line, or from `/*` to the next `*/`;
    3. the cast `::`;
    4. a placeholder: an optional tag letter, a colon and a name;
    5. an ambiguous token: a word, a colon and a word;

  and otherwise a single plain character.  Placeholders and ambiguous tokens may not follow a word
  character or a colon directly.  A region that is never closed is no region: its opening quote
  counts as a plain character.

  In a quoted region the closing character is escaped by doubling it.  Since a pair can always be
  read as "close, and open again", the reading is settled by preferring the pair and falling back
  on its first half only when the rest of the text does not close the region any more
  (`closed?`).  With backslash escapes, a backslash and the character after it stand together
  inside `'...'`.

  `lexemes` loses nothing: the texts of the lexemes, one after the other, are the text itself
  (`text_lexemes`).
-/
import TaggedSql.BindType
import TaggedSql.Text.WordChar

namespace TaggedSql.Placeholder

open TaggedSql.Text

/-- What a dialect decides about lexing. -/
structure LexOptions where
  /-- A backslash escapes the next character of a string literal. -/
  backslashEscapes : Bool
  /-- `[...]` quotes an identifier. -/
  bracketQuotes : Bool
  deriving DecidableEq, Repr

/-- The kinds of text that is copied without being looked into. -/
inductive Region where
  | literal
  | doubleQuoted
  | backticked
  | bracketed
  | lineComment
  | blockComment
  deriving DecidableEq, Repr

/-- A lexeme of SQL text. -/
inductive Lexeme where
  | plain (c : Char)
  | region (kind : Region) (text : List Char)
  | cast
  | placeholder (tag : Option Char) (name : List Char)
  | ambiguous (word name : List Char)
  deriving DecidableEq, Repr

/-- The characters that a lexeme was cut from. -/
def Lexeme.text : Lexeme → List Char
  | .plain c => [c]
  | .region _ text => text
  | .cast => [':', ':']
  | .placeholder tag name => tag.toList ++ ':' :: name
  | .ambiguous word name => word ++ ':' :: name

/-- A piece that was read, and what follows it. -/
abbrev Cut := List Char × List Char

/-- The cut with more characters in front of its piece. -/
def Cut.extend (front : List Char) (cut : Cut) : Cut := (front ++ cut.1, cut.2)

/-! ## Quoted regions and comments -/

/-- What follows an opening quote up to and including the closing one, `close`. -/
def closed? (escapes : Bool) (close : Char) : List Char → Option Cut
  | [] => none
  | c :: rest =>
    if escapes && c = '\\' then
      match rest with
      | [] => none
      | d :: rest =>
        if d = '\n' then none else (closed? escapes close rest).map (Cut.extend [c, d])
    else if c = close then
      match rest with
      | [] => some ([c], [])
      | d :: rest' =>
        if d = close then
          match closed? escapes close rest' with
          | some cut => some (cut.extend [c, d])
          | none => some ([c], d :: rest')
        else some ([c], d :: rest')
    else (closed? escapes close rest).map (Cut.extend [c])

/-- What follows the opening of a block comment up to and including its end. -/
def commentEnd? : List Char → Option Cut
  | [] => none
  | '*' :: '/' :: rest => some (['*', '/'], rest)
  | c :: rest => (commentEnd? rest).map (Cut.extend [c])

/-- Whether a line comment goes on past the character. -/
def inLine (c : Char) : Bool := c != '\r' && c != '\n'

/-- A region with its opening characters put in front. -/
def opened (kind : Region) (opening : List Char) (cut : Cut) : Lexeme × List Char :=
  (.region kind (opening ++ cut.1), cut.2)

/-- The quoted region or comment at the front of a text. -/
def region? (o : LexOptions) : List Char → Option (Lexeme × List Char)
  | '\'' :: rest => (closed? o.backslashEscapes '\'' rest).map (opened .literal ['\''])
  | '"' :: rest => (closed? false '"' rest).map (opened .doubleQuoted ['"'])
  | '\x60' :: rest => (closed? false '\x60' rest).map (opened .backticked ['\x60'])
  | '[' :: rest =>
    if o.bracketQuotes then (closed? false ']' rest).map (opened .bracketed ['[']) else none
  | '-' :: '-' :: rest =>
    some (.region .lineComment ('-' :: '-' :: rest.takeWhile inLine), rest.dropWhile inLine)
  | '/' :: '*' :: rest => (commentEnd? rest).map (opened .blockComment ['/', '*'])
  | _ => none

/-! ## Casts, placeholders and ambiguous tokens -/

/-- The cast at the front of a text. -/
def cast? : List Char → Option (Lexeme × List Char)
  | ':' :: ':' :: rest => some (.cast, rest)
  | _ => none

/-- A placeholder whose tag and colon have been read. -/
def named? (tag : Option Char) (rest : List Char) : Option (Lexeme × List Char) :=
  let name := rest.takeWhile isWordChar
  if name.isEmpty then none else some (.placeholder tag name, rest.dropWhile isWordChar)

/-- The placeholder at the front of a text. -/
def placeholder? : List Char → Option (Lexeme × List Char)
  | ':' :: rest => named? none rest
  | c :: ':' :: rest => if (BindType.ofTag? c).isSome then named? (some c) rest else none
  | _ => none

/-- The word, colon and word at the front of a text. -/
def ambiguous? (s : List Char) : Option (Lexeme × List Char) :=
  let word := s.takeWhile isWordChar
  match s.dropWhile isWordChar with
  | ':' :: rest =>
    let name := rest.takeWhile isWordChar
    if word.isEmpty || name.isEmpty then none
    else some (.ambiguous word name, rest.dropWhile isWordChar)
  | _ => none

theorem ambiguous?_eq_none {c : Char} (h : ¬isWordChar c) (rest : List Char) :
    ambiguous? (c :: rest) = none := by
  have hword : (c :: rest).takeWhile isWordChar = [] := by simp [h]
  rw [ambiguous?, hword]
  split <;> simp

/-- Whether a token cannot start behind the character. -/
def isGlue (c : Char) : Bool := isWordChar c || c == ':'

theorem isWordChar_of_tag {c : Char} (h : c ∈ BindType.tagLetters) : isWordChar c := by
  simp only [BindType.tagLetters, List.mem_cons, List.not_mem_nil, or_false] at h
  rcases h with h | h | h | h | h | h | h <;> subst h <;> rfl

theorem isGlue_of_isWordChar {c : Char} (h : isWordChar c) : isGlue c := by
  simp [isGlue, h]

/-! ## Cutting a text -/

/-- The lexeme other than a plain character at the front of a text that `previous` precedes. -/
def token? (o : LexOptions) (previous : Option Char) (s : List Char) :
    Option (Lexeme × List Char) :=
  (region? o s).or <| (cast? s).or <|
    if previous.any isGlue then none else (placeholder? s).or (ambiguous? s)

/-! ## Nothing is lost -/

theorem closed?_append {escapes : Bool} {close : Char} {s : List Char} {cut : Cut}
    (h : closed? escapes close s = some cut) : cut.1 ++ cut.2 = s := by
  fun_induction closed? escapes close s generalizing cut <;>
    simp_all [Cut.extend] <;> grind

theorem commentEnd?_append {s : List Char} {cut : Cut} (h : commentEnd? s = some cut) :
    cut.1 ++ cut.2 = s := by
  fun_induction commentEnd? s generalizing cut <;> simp_all [Cut.extend] <;> grind

/-- `Fits s t`: the token `t.1` has a text, and with the rest `t.2` behind it the text is `s`. -/
def Fits (s : List Char) (t : Lexeme × List Char) : Prop :=
  t.1.text ≠ [] ∧ t.1.text ++ t.2 = s

theorem fits_opened {kind : Region} {opening rest : List Char} {cut : Cut}
    (ho : opening ≠ []) (h : cut.1 ++ cut.2 = rest) :
    Fits (opening ++ rest) (opened kind opening cut) := by
  constructor <;> simp [opened, Lexeme.text, ho, h]

theorem fits_closed {kind : Region} {opening rest : List Char} {escapes : Bool} {close : Char}
    {t : Lexeme × List Char} (ho : opening ≠ [])
    (h : (closed? escapes close rest).map (opened kind opening) = some t) :
    Fits (opening ++ rest) t := by
  obtain ⟨cut, hc, rfl⟩ := Option.map_eq_some_iff.1 h
  exact fits_opened ho (closed?_append hc)

theorem fits_region {o : LexOptions} {s : List Char} {t : Lexeme × List Char}
    (h : region? o s = some t) : Fits s t := by
  unfold region? at h
  split at h
  · exact fits_closed (by simp) h
  · exact fits_closed (by simp) h
  · exact fits_closed (by simp) h
  · split at h
    · exact fits_closed (by simp) h
    · simp at h
  · obtain rfl := Option.some.inj h
    exact ⟨by simp [Lexeme.text], by simp [Lexeme.text, List.takeWhile_append_dropWhile]⟩
  · obtain ⟨cut, hc, rfl⟩ := Option.map_eq_some_iff.1 h
    exact fits_opened (by simp) (commentEnd?_append hc)
  · simp at h

theorem fits_cast {s : List Char} {t : Lexeme × List Char} (h : cast? s = some t) : Fits s t := by
  unfold cast? at h
  split at h
  · obtain rfl := Option.some.inj h
    exact ⟨by simp [Lexeme.text], rfl⟩
  · simp at h

theorem fits_named {tag : Option Char} {rest : List Char} {t : Lexeme × List Char}
    (h : named? tag rest = some t) : Fits (tag.toList ++ ':' :: rest) t := by
  simp only [named?] at h
  split at h
  · simp at h
  · obtain rfl := Option.some.inj h
    exact ⟨by simp [Lexeme.text], by simp [Lexeme.text, List.takeWhile_append_dropWhile]⟩

theorem fits_placeholder {s : List Char} {t : Lexeme × List Char}
    (h : placeholder? s = some t) : Fits s t := by
  unfold placeholder? at h
  split at h
  · exact fits_named h
  · split at h
    · exact fits_named h
    · simp at h
  · simp at h

theorem fits_ambiguous {s : List Char} {t : Lexeme × List Char}
    (h : ambiguous? s = some t) : Fits s t := by
  simp only [ambiguous?] at h
  split at h
  · rename_i rest hd
    split at h
    · simp at h
    · obtain rfl := Option.some.inj h
      refine ⟨by simp [Lexeme.text], ?_⟩
      have hs := List.takeWhile_append_dropWhile (p := isWordChar) (l := s)
      rw [hd] at hs
      simpa [Lexeme.text, List.takeWhile_append_dropWhile] using hs
  · simp at h

/-- A token and what follows it make up the text. -/
theorem fits_token {o : LexOptions} {previous : Option Char} {s : List Char}
    {t : Lexeme × List Char} (h : token? o previous s = some t) : Fits s t := by
  simp only [token?, Option.or_eq_some_iff] at h
  rcases h with h | ⟨-, h | ⟨-, h⟩⟩
  · exact fits_region h
  · exact fits_cast h
  · split at h
    · simp at h
    · rcases Option.or_eq_some_iff.1 h with h | ⟨-, h⟩
      · exact fits_placeholder h
      · exact fits_ambiguous h

/-- What follows a token is shorter than the text. -/
theorem length_token?_lt {o : LexOptions} {previous : Option Char} {s : List Char}
    {t : Lexeme × List Char} (h : token? o previous s = some t) : t.2.length < s.length := by
  obtain ⟨hne, hs⟩ := fits_token h
  have := List.length_pos_iff.2 hne
  rw [← hs, List.length_append]
  omega

/-- The lexemes of a text that `previous` precedes. -/
def lexemes (o : LexOptions) (previous : Option Char) (s : List Char) : List Lexeme :=
  match s with
  | [] => []
  | c :: rest =>
    match _h : token? o previous (c :: rest) with
    | some t => t.1 :: lexemes o t.1.text.getLast? t.2
    | none => .plain c :: lexemes o (some c) rest
termination_by s.length
decreasing_by
  · exact length_token?_lt _h
  · simp

/-- The lexemes of a whole text. -/
def lex (o : LexOptions) (s : List Char) : List Lexeme := lexemes o none s

theorem lexemes_nil (o : LexOptions) (previous : Option Char) : lexemes o previous [] = [] := by
  rw [lexemes]

/-- Where a token stands, the lexemes are that token and those of the text behind it. -/
theorem lexemes_of_token {o : LexOptions} {previous : Option Char} {s : List Char}
    {t : Lexeme × List Char} (h : token? o previous s = some t) :
    lexemes o previous s = t.1 :: lexemes o t.1.text.getLast? t.2 := by
  cases s with
  | nil => exact absurd (length_token?_lt h) (Nat.not_lt_zero _)
  | cons c rest =>
    rw [lexemes]
    split
    · next t' ht' =>
      rw [h] at ht'
      rw [Option.some.inj ht']
    · next hn => rw [h] at hn; cases hn

/-- Where no token stands, the first lexeme is a plain character. -/
theorem lexemes_of_gap {o : LexOptions} {previous : Option Char} {c : Char} {rest : List Char}
    (h : token? o previous (c :: rest) = none) :
    lexemes o previous (c :: rest) = .plain c :: lexemes o (some c) rest := by
  rw [lexemes]
  split
  · next t ht => rw [h] at ht; cases ht
  · rfl

/-- The texts of the lexemes, one after the other, are the text. -/
theorem text_lexemes (o : LexOptions) (previous : Option Char) (s : List Char) :
    (lexemes o previous s).flatMap Lexeme.text = s := by
  fun_induction lexemes o previous s with
  | case1 => rfl
  | case2 previous c rest t h ih => simp [ih, (fits_token h).2]
  | case3 previous c rest h ih => simp [ih, Lexeme.text]

end TaggedSql.Placeholder
