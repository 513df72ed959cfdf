/-
  From named placeholders to positional markers.

  Compiling a text replaces every placeholder by the driver's marker and copies all else; it
  yields the names in marker order and the bind type of each name, which the first occurrence
  fixes.  When the marker is `%s` the driver takes `%` for the start of a marker, so every `%` that
  is copied is doubled.

  An ambiguous token is copied in lenient mode.  In strict mode the first one ends the
  compilation.  What was noticed on the way is kept as a list of notes: a name that is tagged
  with another type later on, an ambiguous token that was copied, and the totals at the end.

  Each part of the result is a function of the lexemes of its own (`withMarkers`, `parameters`,
  `keepFirst`, `notes`, `firstAmbiguity?`), so facts about them do not depend on each other.
-/
import TaggedSql.Placeholder.Lexeme

namespace TaggedSql.Placeholder

/-- The driver's marker, whether ambiguous tokens are refused, and the dialect's lexing. -/
structure CompileOptions where
  marker : String
  strict : Bool
  lexing : LexOptions
  deriving DecidableEq, Repr

/-- A compiled statement: `names[k]` belongs to the marker at position `k + 1`. -/
structure Compiled where
  sql : String
  names : List String
  types : List (String × BindType)
  deriving DecidableEq, Repr

/-- An ambiguous token, `word:name`, and its offset in the text. -/
structure Ambiguity where
  word : String
  name : String
  position : Nat
  deriving DecidableEq, Repr

/-- Something noticed while compiling. -/
inductive Note where
  /-- The name occurs again with another tag; the type of its first occurrence stays. -/
  | retagged (name : String) (type : BindType) (offset : Nat) (kept : BindType)
  /-- An ambiguous token was copied. -/
  | passedThrough (token : String)
  /-- The number of placeholders and of distinct names. -/
  | summary (placeholders names : Nat)
  deriving DecidableEq, Repr

/-- The outcome of a compilation with the notes taken up to it. -/
structure Compilation where
  notes : List Note
  outcome : Except Ambiguity Compiled

/-- The token as it stands in the text. -/
def Ambiguity.token (a : Ambiguity) : String := a.word ++ ":" ++ a.name

/-- What a refused token is reported as. -/
def Ambiguity.message (a : Ambiguity) : String :=
  "Ambiguous placeholder token '" ++ a.token ++ "' at offset " ++ Nat.repr a.position ++ ": '" ++
    a.word ++ "' is not a type prefix (expected one of " ++
    ", ".intercalate (BindType.tagLetters.map String.singleton) ++ ")."

/-- A note as a line of a log. -/
def Note.message : Note → String
  | .retagged name type offset kept =>
    "Placeholder '" ++ name ++ "' re-tagged as " ++ type.name ++ " at offset " ++
      Nat.repr offset ++ "; keeping " ++ kept.name
  | .passedThrough token => "Passing through non-placeholder token '" ++ token ++ "'"
  | .summary placeholders names =>
    "Compiled statement with " ++ Nat.repr placeholders ++ " placeholder(s), " ++
      Nat.repr names ++ " distinct name(s)"

/-- The bind type that an optional tag stands for. -/
def typeOfTag (tag : Option Char) : BindType := (tag.bind BindType.ofTag?).getD .text

/-- The name and the type of a placeholder. -/
def Lexeme.parameter? : Lexeme → Option (String × BindType)
  | .placeholder tag name => some (String.ofList name, typeOfTag tag)
  | _ => none

/-- Whether the lexeme is an ambiguous token. -/
def Lexeme.isAmbiguous : Lexeme → Bool
  | .ambiguous .. => true
  | _ => false

/-- Copied text: every `%` doubled when the driver would take it for a marker. -/
def copied (marker : String) (s : List Char) : List Char :=
  if marker = "%s" then s.flatMap fun c => if c = '%' then ['%', '%'] else [c] else s

/-- A lexeme in the compiled text. -/
def Lexeme.withMarker (marker : String) : Lexeme → List Char
  | .placeholder .. => marker.toList
  | l => copied marker l.text

/-- The compiled text. -/
def withMarkers (marker : String) (ls : List Lexeme) : List Char :=
  ls.flatMap (Lexeme.withMarker marker)

/-- The names and types of the placeholders, from left to right. -/
def parameters (ls : List Lexeme) : List (String × BindType) := ls.filterMap Lexeme.parameter?

/-- The first pair of every name, in the order of these first pairs. -/
def keepFirst : List (String × BindType) → List (String × BindType)
  | [] => []
  | p :: rest => p :: (keepFirst rest).filter fun q => q.1 != p.1

/-- The note, if any, that a lexeme at an offset gives rise to, given the types known so far. -/
def noteOf? (known : List (String × BindType)) (offset : Nat) : Lexeme → Option Note
  | .placeholder tag name =>
    let type := typeOfTag tag
    match known.lookup (String.ofList name) with
    | none => none
    | some kept =>
      if kept = type then none else some (.retagged (String.ofList name) type offset kept)
  | .ambiguous word name => some (.passedThrough (String.ofList (word ++ ':' :: name)))
  | _ => none

/-- The notes on lexemes that start at `offset`; `known` holds the parameters met before. -/
def notes (known : List (String × BindType)) (offset : Nat) : List Lexeme → List Note
  | [] => []
  | l :: ls =>
    (noteOf? known offset l).toList ++
      notes (known ++ l.parameter?.toList) (offset + l.text.length) ls

/-- The first ambiguous token of lexemes that start at `offset`. -/
def firstAmbiguity? (offset : Nat) : List Lexeme → Option Ambiguity
  | [] => none
  | .ambiguous word name :: _ => some ⟨String.ofList word, String.ofList name, offset⟩
  | l :: ls => firstAmbiguity? (offset + l.text.length) ls

/-- The statement that lexemes compile to. -/
def compiled (marker : String) (ls : List Lexeme) : Compiled :=
  ⟨String.ofList (withMarkers marker ls), (parameters ls).map Prod.fst, keepFirst (parameters ls)⟩

/-- Compiles a text. -/
def compile (o : CompileOptions) (sql : String) : Compilation :=
  let ls := lex o.lexing sql.toList
  match if o.strict then firstAmbiguity? 0 ls else none with
  | some a => ⟨notes [] 0 (ls.takeWhile fun l => !l.isAmbiguous), .error a⟩
  | none =>
    let c := compiled o.marker ls
    ⟨notes [] 0 ls ++ [.summary c.names.length c.types.length], .ok c⟩

/-- Lenient compilation never fails. -/
theorem compile_lenient {o : CompileOptions} (h : o.strict = false) (sql : String) :
    (compile o sql).outcome = .ok (compiled o.marker (lex o.lexing sql.toList)) := by
  simp [compile, h]

/-- Whatever is compiled successfully is compiled from the lexemes of the text. -/
theorem eq_compiled_of_outcome {o : CompileOptions} {sql : String} {c : Compiled}
    (h : (compile o sql).outcome = .ok c) : c = compiled o.marker (lex o.lexing sql.toList) := by
  unfold compile at h
  simp only at h
  split at h
  · cases h
  · exact (Except.ok.inj h).symm

/-- There is no first ambiguous token when no token is ambiguous. -/
theorem firstAmbiguity?_eq_none_iff {offset : Nat} {ls : List Lexeme} :
    firstAmbiguity? offset ls = none ↔ ∀ l ∈ ls, l.isAmbiguous = false := by
  induction ls generalizing offset with
  | nil => simp [firstAmbiguity?]
  | cons l ls ih =>
    cases l with
    | ambiguous word name => simp [firstAmbiguity?, Lexeme.isAmbiguous]
    | _ => simp [firstAmbiguity?, Lexeme.isAmbiguous, ih]

/-- Without ambiguous tokens, strict compilation does not fail either. -/
theorem outcome_of_no_ambiguous {o : CompileOptions} {sql : String}
    (h : ∀ l ∈ lex o.lexing sql.toList, l.isAmbiguous = false) :
    (compile o sql).outcome = .ok (compiled o.marker (lex o.lexing sql.toList)) := by
  simp [compile, firstAmbiguity?_eq_none_iff.mpr h]

/-- With ambiguous tokens, strict compilation fails. -/
theorem no_ambiguous_of_outcome {o : CompileOptions} (ho : o.strict = true) {sql : String}
    {c : Compiled} (h : (compile o sql).outcome = .ok c) :
    ∀ l ∈ lex o.lexing sql.toList, l.isAmbiguous = false := by
  simp only [compile, ho, ite_true] at h
  split at h
  · cases h
  · next hnone => exact firstAmbiguity?_eq_none_iff.mp hnone

theorem parameters_cons (l : Lexeme) (ls : List Lexeme) :
    parameters (l :: ls) = l.parameter?.toList ++ parameters ls := by
  cases h : l.parameter? <;> simp [parameters, h]

theorem parameters_append (ls ms : List Lexeme) :
    parameters (ls ++ ms) = parameters ls ++ parameters ms :=
  List.filterMap_append

/-- Copying works piece by piece. -/
theorem copied_append (marker : String) (s t : List Char) :
    copied marker (s ++ t) = copied marker s ++ copied marker t := by
  unfold copied
  split <;> simp

/-- Lexemes without placeholders are copied, up to the doubling of `%`. -/
theorem withMarkers_eq_copied (marker : String) (ls : List Lexeme)
    (h : ∀ l ∈ ls, l.parameter? = none) :
    withMarkers marker ls = copied marker (ls.flatMap Lexeme.text) := by
  induction ls with
  | nil => simp [withMarkers, copied]
  | cons l ls ih =>
    have hl : l.withMarker marker = copied marker l.text := by
      have := h l (by simp)
      cases l <;> simp_all [Lexeme.parameter?, Lexeme.withMarker]
    have hls := ih fun l hl => h l (by simp [hl])
    simp only [withMarkers, List.flatMap_cons, copied_append, hl] at hls ⊢
    rw [hls]

/-! ## The first pair of every name -/

theorem lookup_filter_of_ne {name other : String} (h : name ≠ other)
    (ps : List (String × BindType)) :
    (ps.filter fun p => p.1 != other).lookup name = ps.lookup name := by
  induction ps with
  | nil => rfl
  | cons p ps ih =>
    obtain ⟨k, t⟩ := p
    by_cases hk : k = other
    · subst hk
      have hne : (name == k) = false := by simp [h]
      simp [List.lookup_cons, hne, ← ih]
    · simp [hk, List.lookup_cons, ih]

/-- Keeping the first pair of every name keeps what is found under a name. -/
theorem lookup_keepFirst (name : String) (ps : List (String × BindType)) :
    (keepFirst ps).lookup name = ps.lookup name := by
  induction ps with
  | nil => rfl
  | cons p ps ih =>
    obtain ⟨k, t⟩ := p
    by_cases h : name = k
    · simp [keepFirst, h]
    · have hne : (name == k) = false := by simp [h]
      simp only [keepFirst, List.lookup_cons, hne, lookup_filter_of_ne h, ih]

theorem eraseDups_filter {α : Type} [BEq α] [LawfulBEq α] (p : α → Bool) :
    ∀ l : List α, (l.filter p).eraseDups = l.eraseDups.filter p
  | [] => rfl
  | a :: l => by
    have ih := eraseDups_filter p (l.filter fun b => !b == a)
    rw [List.eraseDups_cons]
    by_cases h : p a
    · rw [List.filter_cons_of_pos h, List.filter_cons_of_pos h, List.eraseDups_cons, ← ih,
        List.filter_filter, List.filter_filter]
      simp only [Bool.and_comm]
    · have hsame : (l.filter fun b => !b == a).filter p = l.filter p := by
        rw [List.filter_filter]
        refine List.filter_congr fun b _ => ?_
        by_cases hb : b = a
        · simp [hb, h]
        · simp [hb]
      rw [List.filter_cons_of_neg h, List.filter_cons_of_neg h, ← ih, hsame]
termination_by l => l.length
decreasing_by exact Nat.lt_succ_of_le (List.length_filter_le _ _)

/-- The names that are kept are the distinct ones, in the order in which they come up. -/
theorem map_fst_keepFirst (ps : List (String × BindType)) :
    (keepFirst ps).map Prod.fst = (ps.map Prod.fst).eraseDups := by
  induction ps with
  | nil => rfl
  | cons p ps ih =>
    rw [keepFirst, List.map_cons, List.map_cons, List.eraseDups_cons, eraseDups_filter, ← ih,
      List.filter_map]
    rfl

end TaggedSql.Placeholder
