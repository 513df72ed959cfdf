/-
  Reading a quoted name back.

  1. **Splitting** — `splitOutside` cuts a text at the dots outside quotes.  Inside quotes a pair of
     closing quotes goes on, so whether a closing quote ends the part depends on how many of them
     stand in a row; `splitOutside_doubled` follows the pairs that doubling makes, and is the only
     place where this matters.

  2. **Pieces** (`split_quote`) — the pieces of a quoted name are its parts as they were
     written, whatever quotes and dots they hold.

  3. **The statement** (`quoted_names_decode`) — so the parts are read back, two names are never
     quoted alike, and only stars are left bare.
-/
import TaggedSql.Proofs.Sql.Decoding

namespace TaggedSql.Sql

/-! ## Splitting -/

/-- The pieces of a text between the dots outside quotes; `inside` tells whether the text starts
    inside quotes, where a pair of closing quotes does not end them. -/
def splitOutside (opening close : Char) : Bool → List Char → List (List Char)
  | _, [] => [[]]
  | false, c :: s =>
    if c = '.' then [] :: splitOutside opening close false s
    else (splitOutside opening close (c == opening) s).modifyHead (c :: ·)
  | true, [c] => [[c]]
  | true, c :: c' :: s =>
    if c = close then
      if c' = close then (splitOutside opening close true s).modifyHead (c :: c' :: ·)
      else (splitOutside opening close false (c' :: s)).modifyHead (c :: ·)
    else (splitOutside opening close true (c' :: s)).modifyHead (c :: ·)

/-- The part of a name that a piece stands for: a star for itself, and every other piece for what
    is between its quotes, with pairs of closing quotes read as one. -/
def Dialect.partOf (d : Dialect) (piece : List Char) : List Char :=
  if piece = ['*'] then piece else undoubled d.quotes.2 piece.tail.dropLast

/-- The pieces of a text of the dialect. -/
def Dialect.split (d : Dialect) (text : String) : List (List Char) :=
  splitOutside d.quotes.1 d.quotes.2 false text.toList

/-- A part of a name as the dialect writes it. -/
def Dialect.writtenPart (d : Dialect) (part : List Char) : List Char :=
  if part = ['*'] then part else d.quotes.1 :: (doubled d.quotes.2 part ++ [d.quotes.2])

theorem splitOutside_inside {opening close c : Char} (h : c ≠ close) (s : List Char) :
    splitOutside opening close true (c :: s) =
      (splitOutside opening close true s).modifyHead (c :: ·) := by
  cases s with
  | nil => rfl
  | cons c' s => rw [splitOutside, if_neg h]

/-- **The end of a part.**  Inside quotes a doubled part is read up to its closing quote, when what
    follows does not start with another one. -/
theorem splitOutside_doubled {opening close : Char} (part : List Char) {rest : List Char}
    (hrest : rest.head? ≠ some close) :
    splitOutside opening close true (doubled close part ++ close :: rest) =
      (splitOutside opening close false rest).modifyHead
        (doubled close part ++ close :: ·) := by
  induction part with
  | nil =>
    cases rest with
    | nil => rfl
    | cons c rest =>
      have hc : c ≠ close := by simpa using hrest
      simp [doubled, splitOutside, hc]
  | cons c part ih =>
    by_cases hc : c = close
    · subst hc
      rw [doubled_cons_self, List.cons_append, List.cons_append, splitOutside, if_pos rfl,
        if_pos rfl, ih, List.modifyHead_modifyHead]
      rfl
    · rw [doubled_cons_of_ne hc, List.cons_append, splitOutside_inside hc, ih,
        List.modifyHead_modifyHead]
      rfl

/-! ## Pieces -/

section Pieces

variable (d : Dialect)

/-- A written part in front of a dot or the end of the text is a piece. -/
theorem splitOutside_writtenPart (part : List Char) {rest : List Char}
    (hrest : ∀ c ∈ rest.head?, c = '.') :
    splitOutside d.quotes.1 d.quotes.2 false (d.writtenPart part ++ rest) =
      (splitOutside d.quotes.1 d.quotes.2 false rest).modifyHead (d.writtenPart part ++ ·) := by
  have hopening : d.quotes.1 ≠ '.' ∧ d.quotes.1 ≠ '*' := by cases d <;> decide
  have hclosing : d.quotes.2 ≠ '.' := by cases d <;> decide
  by_cases hstar : part = ['*']
  · have hcode : ('*' == d.quotes.1) = false := by simpa using hopening.2.symm
    rw [Dialect.writtenPart, if_pos hstar, hstar, List.singleton_append, splitOutside,
      if_neg (by decide), hcode]
    rfl
  · have hend : rest.head? ≠ some d.quotes.2 := fun hhead => hclosing (hrest _ hhead)
    rw [Dialect.writtenPart, if_neg hstar, List.cons_append, splitOutside, if_neg hopening.1,
      beq_self_eq_true, List.append_assoc, List.singleton_append, splitOutside_doubled part hend,
      List.modifyHead_modifyHead]
    simp [Function.comp_def]

/-- Written parts with dots between them are split into these parts. -/
theorem splitOutside_intercalate {parts : List (List Char)} (h : parts ≠ []) :
    splitOutside d.quotes.1 d.quotes.2 false
      (['.'].intercalate (parts.map d.writtenPart)) = parts.map d.writtenPart := by
  induction parts with
  | nil => exact absurd rfl h
  | cons part parts ih =>
    cases parts with
    | nil =>
      have hend : ∀ c ∈ ([] : List Char).head?, c = '.' := by simp
      have hpiece := splitOutside_writtenPart d part hend
      simpa [splitOutside] using hpiece
    | cons next parts =>
      have hrest := ih (List.cons_ne_nil _ _)
      rw [List.map_cons, List.map_cons, List.intercalate_cons_cons, ← List.map_cons,
        List.append_assoc, List.singleton_append, splitOutside_writtenPart d part (by simp),
        splitOutside, if_pos rfl, hrest]
      simp

/-- What a dotted name is written as. -/
theorem toList_quote (name : String) :
    (d.quote (.name name)).toList =
      ['.'].intercalate ((name.toList.splitOn '.').map d.writtenPart) := by
  have hpart : ∀ part, (write d [partFragment part]).toList = d.writtenPart part := by
    intro part
    by_cases hstar : part = ['*'] <;>
      simp [write, partFragment, Dialect.writtenPart, hstar, Fragment.write, quotePart_toList]
  rw [Dialect.quote, Identifier.fragments]
  generalize name.toList.splitOn '.' = parts
  induction parts with
  | nil => rfl
  | cons part parts ih =>
    cases parts with
    | nil => simpa [separated] using hpart part
    | cons next parts =>
      have hcons : separated "." ((part :: next :: parts).map fun p => [partFragment p]) =
          [partFragment part] ++ ([.keyword "."] ++
            separated "." ((next :: parts).map fun p => [partFragment p])) := rfl
      have hdot : (write d [.keyword "."]).toList = ['.'] := by simp [write, Fragment.write]
      rw [hcons, write_append, write_append, String.toList_append, String.toList_append, hpart,
        hdot, ih]
      simp only [List.map_cons, List.intercalate_cons_cons, List.append_assoc]

/-- **The pieces of a quoted name** are its parts as they are written. -/
theorem split_quote (name : String) :
    d.split (d.quote (.name name)) = (name.toList.splitOn '.').map d.writtenPart := by
  rw [Dialect.split, toList_quote,
    splitOutside_intercalate d (List.splitOn_ne_nil '.' name.toList)]

theorem partOf_writtenPart (part : List Char) : d.partOf (d.writtenPart part) = part := by
  by_cases hstar : part = ['*']
  · rw [Dialect.writtenPart, if_pos hstar, Dialect.partOf, if_pos hstar]
  · have hquoted : d.quotes.1 :: (doubled d.quotes.2 part ++ [d.quotes.2]) ≠ ['*'] := by simp
    rw [Dialect.writtenPart, if_neg hstar, Dialect.partOf, if_neg hquoted, List.tail_cons,
      List.dropLast_concat, undoubled_doubled]

end Pieces

/-- **Quoted names are read back.**  The pieces of a quoted name between the dots outside quotes,
    taken out of their quotes, are the parts of the name between its dots.  So no two names are
    quoted alike.  A piece without quotes is a star, and stands for a part that is one. -/
theorem quoted_names_decode (d : Dialect) :
    (∀ name : String,
      (d.split (d.quote (.name name))).map d.partOf = name.toList.splitOn '.') ∧
    (∀ name other : String, d.quote (.name name) = d.quote (.name other) → name = other) ∧
    ∀ (name : String) (k : Nat) (piece : List Char),
      (d.split (d.quote (.name name)))[k]? = some piece →
        (∃ text, piece = d.quotes.1 :: (text ++ [d.quotes.2])) ∨
          piece = ['*'] ∧ (name.toList.splitOn '.')[k]? = some ['*'] := by
  have hdecode : ∀ name : String,
      (d.split (d.quote (.name name))).map d.partOf = name.toList.splitOn '.' := by
    intro name
    rw [split_quote, List.map_map]
    exact List.map_id'' (partOf_writtenPart d) _
  refine ⟨hdecode, fun name other heq => ?_, fun name k piece hk => ?_⟩
  · have hparts : name.toList.splitOn '.' = other.toList.splitOn '.' := by
      rw [← hdecode name, heq, hdecode other]
    have htext := congrArg (['.'].intercalate) hparts
    rw [List.intercalate_splitOn, List.intercalate_splitOn] at htext
    exact String.toList_inj.mp htext
  · rw [split_quote, List.getElem?_map] at hk
    obtain ⟨part, hpart, rfl⟩ := Option.map_eq_some_iff.mp hk
    by_cases hstar : part = ['*']
    · exact .inr ⟨by rw [Dialect.writtenPart, if_pos hstar, hstar], by rw [hpart, hstar]⟩
    · exact .inl ⟨_, by rw [Dialect.writtenPart, if_neg hstar]⟩

end TaggedSql.Sql
