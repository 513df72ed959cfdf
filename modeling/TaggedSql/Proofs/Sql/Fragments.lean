/-
  How written fragments are lexed.

  1. **Mentions** — of the lexemes of a text, a compilation looks at the placeholders and the
     ambiguous tokens only: `mentions` keeps these.

  2. **Fragments one by one** — quiet text mentions nothing, a quoted part is a single region
     whatever its name is (`lex_quotePart`), and a tagged marker is the placeholder that it was
     written as (`lex_marker`).

  3. **Fragments in a row** — where two fragments meet, one of them has a break (`Spaced`); so each
     is lexed as if it stood alone (`lex_write`).  `Reads d fs ls` sums this up: the text of `fs`
     mentions exactly `ls`.
-/
import Mathlib.Data.List.Chain
import TaggedSql.Placeholder.Compile
import TaggedSql.Proofs.Placeholder.Junction
import TaggedSql.Sql.Fragment

namespace TaggedSql.Placeholder

/-! ## Mentions -/

/-- The placeholders and the ambiguous tokens among lexemes. -/
def mentions (ls : List Lexeme) : List Lexeme :=
  ls.filter fun l => l.parameter?.isSome || l.isAmbiguous

theorem parameters_mentions (ls : List Lexeme) : parameters (mentions ls) = parameters ls := by
  induction ls with
  | nil => rfl
  | cons l ls ih =>
    have hcons := parameters_cons l
    cases l <;> simp_all [mentions, Lexeme.parameter?, Lexeme.isAmbiguous]

/-- There is an ambiguous token when one is mentioned. -/
theorem firstAmbiguity?_eq_none {offset : Nat} {ls : List Lexeme}
    (h : ∀ l ∈ mentions ls, l.isAmbiguous = false) : firstAmbiguity? offset ls = none := by
  refine firstAmbiguity?_eq_none_iff.mpr fun l hl => Bool.eq_false_iff.mpr fun hambiguous => ?_
  have hmention : l ∈ mentions ls := List.mem_filter.mpr ⟨hl, by rw [hambiguous, Bool.or_true]⟩
  rw [h l hmention] at hambiguous
  cases hambiguous

/-- Text without a colon mentions nothing. -/
theorem mentions_of_no_colon {o : LexOptions} {previous : Option Char} {s : List Char}
    (h : ':' ∉ s) : mentions (lexemes o previous s) = [] := by
  refine List.filter_eq_nil_iff.mpr fun l hl hm => h ?_
  rw [← text_lexemes o previous s]
  refine List.mem_flatMap.mpr ⟨l, hl, ?_⟩
  cases l with
  | placeholder tag name => simp [Lexeme.text]
  | ambiguous word name => simp [Lexeme.text]
  | plain c => cases hm
  | region kind text => cases hm
  | cast => cases hm

end TaggedSql.Placeholder

namespace TaggedSql.Sql

open TaggedSql.Placeholder TaggedSql.Text

/-! ## Fragments one by one -/

/-- A name with its closing quotes doubled. -/
def doubled (close : Char) (name : List Char) : List Char :=
  name.flatMap fun c => if c = close then [c, c] else [c]

theorem doubled_cons_self (close : Char) (name : List Char) :
    doubled close (close :: name) = close :: close :: doubled close name := by
  simp [doubled]

theorem doubled_cons_of_ne {close c : Char} (h : c ≠ close) (name : List Char) :
    doubled close (c :: name) = c :: doubled close name := by
  simp [doubled, h]

theorem quotePart_toList (d : Dialect) (name : String) :
    (d.quotePart name).toList = d.quotes.1 :: (doubled d.quotes.2 name.toList ++ [d.quotes.2]) := by
  simp [Dialect.quotePart, doubled]

/-- A doubled name is read to its end. -/
theorem closed?_doubled (close : Char) (name : List Char) :
    closed? false close (doubled close name ++ [close]) =
      some (doubled close name ++ [close], []) := by
  induction name with
  | nil => simp [doubled, closed?]
  | cons c name ih =>
    by_cases hc : c = close
    · subst hc
      rw [doubled_cons_self, List.cons_append, List.cons_append, closed?]
      simp [ih, Cut.extend]
    · rw [doubled_cons_of_ne hc, List.cons_append, closed?.eq_def]
      simp [hc, ih, Cut.extend]

/-- The walk sees a doubled name closed. -/
theorem closedFrom_doubled (o : LexOptions) (close : Char) (name : List Char) :
    closedFrom o (.quoted false close) (doubled close name ++ [close]) = true := by
  induction name with
  | nil => simp [doubled, closedFrom]
  | cons c name ih =>
    by_cases hc : c = close
    · subst hc
      rw [doubled_cons_self, List.cons_append, List.cons_append, closedFrom]
      simpa using ih
    · obtain ⟨x, rest, hrest⟩ := List.exists_cons_of_ne_nil
        (l := doubled close name ++ [close]) (by simp)
      rw [doubled_cons_of_ne hc, List.cons_append, hrest, closedFrom, ← hrest]
      simpa [hc] using ih

/-- The opening quote of a dialect opens a region that the closing one ends. -/
theorem openedBy_quotes (d : Dialect) :
    openedBy d.lexing d.quotes.1 = some (.quoted false d.quotes.2) := by
  cases d <;> rfl

theorem closed_quotePart (d : Dialect) (name : String) :
    Closed d.lexing (d.quotePart name).toList := by
  rw [quotePart_toList, closed_cons_of_opened (openedBy_quotes d)]
  exact closedFrom_doubled d.lexing d.quotes.2 name.toList

/-- The kind of region that a dialect's quotes make. -/
def Dialect.quoteKind : Dialect → Region
  | .mysql => .backticked
  | .sqlServer => .bracketed
  | .ansi | .sqlite | .postgres => .doubleQuoted

theorem region?_quotes (d : Dialect) (rest : List Char) :
    region? d.lexing (d.quotes.1 :: rest) =
      (closed? false d.quotes.2 rest).map (opened d.quoteKind [d.quotes.1]) := by
  cases d <;> rfl

/-- The token that a part of a name is written as. -/
def Dialect.quotedName (d : Dialect) (part : String) : Lexeme :=
  .region d.quoteKind (d.quotePart part).toList

/-- **A quoted part is one region**, whatever quotes, colons or comment signs its name holds. -/
theorem lex_quotePart (d : Dialect) (name : String) :
    lex d.lexing (d.quotePart name).toList = [d.quotedName name] := by
  have htoken : token? d.lexing none (d.quotePart name).toList =
      some (d.quotedName name, []) := by
    rw [token?, Dialect.quotedName, quotePart_toList, region?_quotes, closed?_doubled]
    rfl
  rw [lex, lexemes_of_token htoken, lexemes_nil]

/-- The placeholder that a marker is, when it refers to a parameter. -/
def Marker.mentions : Marker → List Lexeme
  | .tagged type name => [.placeholder type.tag name.toList]
  | .verbatim _ => []

/-- Whether a marker refers to a parameter that has a word for its name. -/
def Marker.IsNamed : Marker → Prop
  | .tagged _ name => name.toList ≠ [] ∧ ∀ c ∈ name.toList, isWordChar c
  | .verbatim _ => False

theorem tag_mem_tagLetters {type : BindType} {c : Char} (h : c ∈ type.tag) :
    c ∈ BindType.tagLetters := by
  rw [BindType.mem_tagLetters_iff, BindType.ofTag?_of_tag h]
  rfl

/-- A marker that refers to a parameter is read as the placeholder that it was written as. -/
theorem placeholder?_marker {m : Marker} (h : m.IsNamed) :
    ∃ l, m.mentions = [l] ∧ l.text = m.text.toList ∧
      placeholder? m.text.toList = some (l, []) := by
  cases m with
  | verbatim text => exact h.elim
  | tagged type name =>
    have htext : (Marker.tagged type name).text.toList = type.tag.toList ++ ':' :: name.toList := by
      simp [Marker.text]
    refine ⟨.placeholder type.tag name.toList, rfl, htext.symm, ?_⟩
    refine placeholder?_eq_some_iff.mpr ⟨type.tag, name.toList, [], rfl, ?_, ?_, h.1, h.2, ?_⟩
    · rw [htext, List.append_nil]
    · intro c hc
      exact tag_mem_tagLetters hc
    · intro c hc
      cases hc

/-- All characters of a marker that refers to a parameter are glue. -/
theorem isGlue_of_mem_marker {m : Marker} (h : m.IsNamed) : ∀ c ∈ m.text.toList, isGlue c := by
  obtain ⟨l, -, htext, hp⟩ := placeholder?_marker h
  obtain ⟨tag, name, rest, ht, -, htag, -, hname, -⟩ := placeholder?_eq_some_iff.mp hp
  obtain ⟨rfl, rfl⟩ := Prod.mk.inj ht
  intro c hc
  rw [← htext] at hc
  rcases List.mem_append.mp hc with hc | hc
  · exact isGlue_of_isWordChar (isWordChar_of_tag (htag c (Option.mem_toList.mp hc)))
  · rcases List.mem_cons.mp hc with rfl | hc
    · rfl
    · exact isGlue_of_isWordChar (hname c hc)

theorem closed_marker {m : Marker} (h : m.IsNamed) (o : LexOptions) :
    Closed o m.text.toList :=
  closed_of_inert fun c hc => isInert_of_isGlue (isGlue_of_mem_marker h c hc)

/-- **A marker is one placeholder**, with the tag and the name that it was written with. -/
theorem lex_marker {m : Marker} (h : m.IsNamed) (o : LexOptions) :
    lex o m.text.toList = m.mentions := by
  obtain ⟨l, hl, htext, hp⟩ := placeholder?_marker h
  have hregion : region? o m.text.toList = none := by
    cases hs : m.text.toList with
    | nil => rfl
    | cons c rest =>
      have hc := isGlue_of_mem_marker h c (by rw [hs]; exact List.mem_cons_self)
      exact region?_of_isGlue hc rest
  have hcast := cast?_of_placeholder? hp
  have htoken : token? o none m.text.toList = some (l, []) := by
    simp [token?, hregion, hcast, hp]
  rw [lex, lexemes_of_token htoken, lexemes_nil, hl]

/-! ## Fragments in a row -/

/-- Whether a fragment starts with a break. -/
def Fragment.startsWithBreak : Fragment → Bool
  | .keyword text => text.toList.head?.any isBreak
  | _ => false

/-- Whether a fragment ends with a break. -/
def Fragment.endsWithBreak : Fragment → Bool
  | .keyword text => text.toList.getLast?.any isBreak
  | _ => false

/-- Two fragments of which one has a break where they meet. -/
def Fragment.Meets (f g : Fragment) : Prop := f.endsWithBreak ∨ g.startsWithBreak

/-- Fragments that have a break wherever two of them meet. -/
def Spaced (fs : List Fragment) : Prop := fs.IsChain Fragment.Meets

theorem write_toList (d : Dialect) (fs : List Fragment) :
    (write d fs).toList = fs.flatMap fun f => (f.write d).toList :=
  String.toList_ofList

theorem head?_write_of_startsWithBreak {d : Dialect} {f : Fragment} (h : f.startsWithBreak) :
    ∃ c rest, (f.write d).toList = c :: rest ∧ isBreak c := by
  cases f with
  | keyword text =>
    obtain ⟨c, hc, hb⟩ := (Option.any_eq_true _ _).mp h
    obtain ⟨rest, hrest⟩ := List.head?_eq_some_iff.mp hc
    exact ⟨c, rest, hrest, hb⟩
  | part name => cases h
  | marker m => cases h
  | raw sql => cases h

theorem getLast?_write_of_endsWithBreak {d : Dialect} {f : Fragment} (h : f.endsWithBreak) :
    ∃ c, (f.write d).toList.getLast? = some c ∧ isBreak c := by
  cases f with
  | keyword text => exact (Option.any_eq_true _ _).mp h
  | part name => cases h
  | marker m => cases h
  | raw sql => cases h

/-- A fragment is apart from what is written behind it. -/
theorem apart_write {d : Dialect} {f : Fragment} {fs : List Fragment}
    (h : ∀ g ∈ fs.head?, f.Meets g) : Apart (f.write d).toList (write d fs).toList := by
  intro x hx y hy
  cases fs with
  | nil => cases hy
  | cons g gs =>
    rcases h g rfl with hf | hg
    · left
      obtain ⟨c, hc, hb⟩ := getLast?_write_of_endsWithBreak (d := d) hf
      rw [hc] at hx
      cases hx
      exact hb
    · right
      obtain ⟨c, rest, hc, hb⟩ := head?_write_of_startsWithBreak (d := d) hg
      rw [write_toList, List.flatMap_cons, hc] at hy
      cases hy
      exact hb

/-- Fragments behind a character are lexed one by one, unless the character and the first of them
    could make up a token. -/
theorem lexemes_write {d : Dialect} {previous : Option Char} {fs : List Fragment} (hs : Spaced fs)
    (hc : ∀ f ∈ fs, Closed d.lexing (f.write d).toList)
    (hp : previous.any isGlue = false ∨ ∀ f ∈ fs.head?, f.startsWithBreak) :
    lexemes d.lexing previous (write d fs).toList =
      fs.flatMap fun f => lex d.lexing (f.write d).toList := by
  induction fs generalizing previous with
  | nil => exact lexemes_nil _ _
  | cons f fs ih =>
    obtain ⟨hmeets, hspaced⟩ := List.isChain_cons.mp hs
    have happ : (write d (f :: fs)).toList = (f.write d).toList ++ (write d fs).toList := by
      simp [write_toList]
    -- what stands in front of the fragment makes no difference
    have hfirst : lexemes d.lexing previous (f.write d).toList =
        lex d.lexing (f.write d).toList := by
      rcases hp with hp | hp
      · exact lexemes_of_not_glue hp
      · obtain ⟨c, rest, hc, hb⟩ := head?_write_of_startsWithBreak (d := d) (hp f rfl)
        rw [hc]
        exact lexemes_of_isBreak hb
    -- and neither does the fragment for those behind it
    have hnext : ((f.write d).toList.getLast?.or previous).any isGlue = false ∨
        ∀ g ∈ fs.head?, g.startsWithBreak := by
      by_cases hf : f.endsWithBreak
      · left
        obtain ⟨c, hc, hb⟩ := getLast?_write_of_endsWithBreak (d := d) hf
        rw [hc]
        exact not_isGlue_of_isBreak hb
      · right
        intro g hg
        exact (hmeets g hg).resolve_left hf
    rw [happ, lexemes_append (hc f List.mem_cons_self) (apart_write hmeets), hfirst,
      ih hspaced (fun g hg => hc g (List.mem_cons_of_mem f hg)) hnext]
    rfl

/-- **Fragments are lexed one by one.** -/
theorem lex_write {d : Dialect} {fs : List Fragment} (hs : Spaced fs)
    (hc : ∀ f ∈ fs, Closed d.lexing (f.write d).toList) :
    lex d.lexing (write d fs).toList = fs.flatMap fun f => lex d.lexing (f.write d).toList :=
  lexemes_write hs hc (Or.inl rfl)

/-- What the text of a fragment mentions. -/
def Fragment.mentions (d : Dialect) (f : Fragment) : List Lexeme :=
  Placeholder.mentions (lex d.lexing (f.write d).toList)

/-- `Reads d fs ls`: the fragments `fs` can be read one by one, and mention `ls`. -/
structure Reads (d : Dialect) (fs : List Fragment) (ls : List Lexeme) : Prop where
  spaced : Spaced fs
  closed : ∀ f ∈ fs, Closed d.lexing (f.write d).toList
  mentions : fs.flatMap (Fragment.mentions d) = ls

namespace Reads

variable {d : Dialect} {fs gs : List Fragment} {ls ms : List Lexeme}

/-- What fragments mention is what their text mentions. -/
theorem mentions_write (h : Reads d fs ls) :
    Placeholder.mentions (lex d.lexing (write d fs).toList) = ls := by
  rw [lex_write h.spaced h.closed, ← h.mentions]
  exact List.filter_flatMap

theorem nil : Reads d [] [] := ⟨List.isChain_nil, by simp, rfl⟩

theorem singleton {f : Fragment} (hc : Closed d.lexing (f.write d).toList)
    (hm : f.mentions d = ls) : Reads d [f] ls :=
  ⟨List.isChain_singleton f, by simpa using hc, by simpa using hm⟩

/-- Fragments with a break where they meet can be put together. -/
theorem append (hf : Reads d fs ls) (hg : Reads d gs ms)
    (h : ∀ f ∈ fs.getLast?, ∀ g ∈ gs.head?, f.Meets g) : Reads d (fs ++ gs) (ls ++ ms) := by
  refine ⟨List.isChain_append.mpr ⟨hf.spaced, hg.spaced, h⟩, ?_, ?_⟩
  · intro f hf'
    rcases List.mem_append.mp hf' with hf' | hf'
    · exact hf.closed f hf'
    · exact hg.closed f hf'
  · rw [List.flatMap_append, hf.mentions, hg.mentions]

/-- A quoted part mentions nothing. -/
theorem part (name : String) : Reads d [.part name] [] := by
  refine singleton (closed_quotePart d name) ?_
  rw [Fragment.mentions, Fragment.write, lex_quotePart]
  rfl

/-- A marker mentions its parameter. -/
theorem marker {m : Marker} (h : m.IsNamed) : Reads d [.marker m] m.mentions := by
  refine singleton (closed_marker h d.lexing) ?_
  rw [Fragment.mentions, Fragment.write, lex_marker h]
  cases m with
  | verbatim text => exact h.elim
  | tagged type name => rfl

/-- Closed SQL of the caller's mentions what it mentions by itself. -/
theorem raw {sql : String} (h : Closed d.lexing sql.toList) :
    Reads d [.raw sql] (Placeholder.mentions (lex d.lexing sql.toList)) :=
  singleton h rfl

/-- A closed keyword without a colon mentions nothing. -/
theorem keyword {text : String} (hc : Closed d.lexing text.toList) (h : ':' ∉ text.toList) :
    Reads d [.keyword text] [] :=
  singleton hc (mentions_of_no_colon h)

end Reads

end TaggedSql.Sql
