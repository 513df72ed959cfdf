/-
  Quoted regions and comments in one pass.

  1. **Runs** (`closingRuns`) — one walk over what stands behind an opening quote lists the runs of
     closing characters in it, each with its offset and its length.  The walk never turns back, and
     it does not ask how long a run is.

  2. **Ends** (`endOfRuns?`) — the region ends with the first run of odd length.  If there is none,
     it ends with the first half of the last pair there is.

  3. **Backtracking is one pass** (`endOfRuns?_closingRuns`) — preferring pairs and backing off ends
     a region where the runs say.  The crux is `closedLength?_run`, which reads a whole run at once:
     behind an odd one nothing is left to prefer, and an even one is given up only if nothing behind
     it closes the region.

  4. **The statement** (`regions_in_one_pass`) — whatever precedes them, quoted regions and comments
     are read, and found by the backtracking patterns, where one pass finds them.
-/
import Mathlib.Data.List.Infix
import TaggedSql.Proofs.Placeholder.Enclosure
import TaggedSql.Proofs.Placeholder.Pattern

namespace TaggedSql.Placeholder

/-! ## Runs of closing characters -/

/-- The runs of closing characters that a walk meets, each as its offset and its length.  With
    escapes a backslash and the character after it are stepped over together, and a backslash at the
    end of a line stops the walk as the end of the text does. -/
def closingRuns (escapes : Bool) (close : Char) (offset : Nat) : List Char → List (Nat × Nat)
  | [] => []
  | c :: rest =>
    if escapes && c = '\\' then
      match rest with
      | [] => []
      | d :: rest => if d = '\n' then [] else closingRuns escapes close (offset + 2) rest
    else if c = close then
      let length := (rest.takeWhile (· == close)).length + 1
      (offset, length) ::
        closingRuns escapes close (offset + length) (rest.dropWhile (· == close))
    else closingRuns escapes close (offset + 1) rest
termination_by s => s.length
decreasing_by
  · simp only [List.length_cons]; omega
  · exact Nat.lt_succ_of_le (List.length_dropWhile_le ..)
  · exact Nat.lt_succ_self _

/-- Where a region with some runs of closing characters ends: behind the first run of odd length,
    or else behind the first character of the last pair of the last run. -/
def endOfRuns? (runs : List (Nat × Nat)) : Option Nat :=
  match runs.find? fun r => r.2 % 2 = 1 with
  | some r => some (r.1 + r.2)
  | none => runs.getLast?.map fun r => r.1 + r.2 - 1

/-- A run of odd length ends the region, and one of even length does if none of the others does. -/
theorem endOfRuns?_cons (offset length : Nat) (runs : List (Nat × Nat)) :
    endOfRuns? ((offset, length) :: runs) =
      if length % 2 = 1 then some (offset + length)
      else (endOfRuns? runs).or (some (offset + length - 1)) := by
  by_cases h : length % 2 = 1
  · simp [endOfRuns?, h]
  · rw [if_neg h, endOfRuns?, endOfRuns?, List.find?_cons_of_neg (by simpa using h)]
    cases runs.find? fun r => r.2 % 2 = 1 with
    | some r => rfl
    | none =>
      cases runs with
      | nil => rfl
      | cons r rs => simp [List.getLast?_cons]

/-! ## Backtracking over runs -/

/-- How far a quoted region reaches behind its opening character. -/
def closedLength? (escapes : Bool) (close : Char) (s : List Char) : Option Nat :=
  (closed? escapes close s).map fun cut => cut.1.length

/-- The length of a region tells the region. -/
theorem closed?_eq_of_length (escapes : Bool) (close : Char) (s : List Char) :
    closed? escapes close s =
      (closedLength? escapes close s).map fun n => (s.take n, s.drop n) := by
  rw [closedLength?]
  cases h : closed? escapes close s with
  | none => rfl
  | some cut => simp [← closed?_append h]

section

variable {escapes : Bool} {close : Char}

/-- A backslash takes the next character along. -/
theorem closedLength?_escape {c d : Char} (h : escapes && c = '\\') (hd : d ≠ '\n')
    (rest : List Char) :
    closedLength? escapes close (c :: d :: rest) =
      (closedLength? escapes close rest).map (· + 2) := by
  simp [closedLength?, closed?, h, hd, Option.map_map, Function.comp_def, Cut.extend]

/-- A character of no meaning is passed over. -/
theorem closedLength?_other {c : Char} (h : ¬(escapes && c = '\\')) (hc : c ≠ close)
    (rest : List Char) :
    closedLength? escapes close (c :: rest) = (closedLength? escapes close rest).map (· + 1) := by
  rw [closedLength?, closed?.eq_def]
  simp [closedLength?, h, hc, Option.map_map, Function.comp_def, Cut.extend]

/-- A closing character that is not doubled ends the region. -/
theorem closedLength?_single (h : ¬(escapes && close = '\\')) {rest : List Char}
    (hr : rest.head? ≠ some close) : closedLength? escapes close (close :: rest) = some 1 := by
  cases rest with
  | nil => simp [closedLength?, closed?, h]
  | cons d rest =>
    have hd : d ≠ close := by simpa using hr
    simp [closedLength?, closed?, h, hd]

/-- A pair is passed over, unless nothing behind it ends the region. -/
theorem closedLength?_pair (h : ¬(escapes && close = '\\')) (rest : List Char) :
    closedLength? escapes close (close :: close :: rest) =
      ((closedLength? escapes close rest).map (· + 2)).or (some 1) := by
  rw [closedLength?, closed?.eq_def]
  cases hrest : closed? escapes close rest <;> simp [closedLength?, h, hrest, Cut.extend]

/-- **A run at once.**  An odd run ends the region, and an even one does with the first half of its
    last pair if nothing behind it does. -/
theorem closedLength?_run (h : ¬(escapes && close = '\\')) {rest : List Char}
    (hr : rest.head? ≠ some close) (n : Nat) :
    closedLength? escapes close (List.replicate (n + 1) close ++ rest) =
      if (n + 1) % 2 = 1 then some (n + 1)
      else ((closedLength? escapes close rest).map (· + (n + 1))).or (some n) := by
  induction n using Nat.twoStepInduction with
  | zero => simpa using closedLength?_single h hr
  | one => simpa [List.replicate_succ] using closedLength?_pair h rest
  | more n ih _ =>
    -- one pair more in front, which is passed over in any case
    rw [List.replicate_succ, List.replicate_succ, List.cons_append, List.cons_append,
      closedLength?_pair h, ih]
    by_cases hn : (n + 1) % 2 = 1
    · have hn' : (n + 1 + 1 + 1) % 2 = 1 := by omega
      simp [hn, hn']
    · have hn' : ¬(n + 1 + 1 + 1) % 2 = 1 := by omega
      cases closedLength? escapes close rest with
      | none => simp [hn, hn']
      | some m => simp [hn, hn', Nat.add_assoc]

end

/-- A run of closing characters with what follows it. -/
theorem run_append (close : Char) (rest : List Char) :
    close :: rest = List.replicate ((rest.takeWhile (· == close)).length + 1) close ++
      rest.dropWhile (· == close) := by
  have hall : rest.takeWhile (· == close) =
      List.replicate (rest.takeWhile (· == close)).length close :=
    List.eq_replicate_iff.mpr ⟨rfl, fun c hc => by simpa using List.mem_takeWhile_imp hc⟩
  rw [List.replicate_succ, List.cons_append, ← hall, List.takeWhile_append_dropWhile]

/-- Behind a run there is no other closing character. -/
theorem head?_dropWhile_ne (close : Char) (rest : List Char) :
    (rest.dropWhile (· == close)).head? ≠ some close := by
  intro h
  have := List.head?_dropWhile_not (· == close) rest
  rw [h] at this
  simp at this

/-- **Backtracking is one pass.**  A region ends where the runs of closing characters say. -/
theorem endOfRuns?_closingRuns (escapes : Bool) (close : Char) (offset : Nat) (s : List Char) :
    endOfRuns? (closingRuns escapes close offset s) =
      (closedLength? escapes close s).map (offset + ·) := by
  fun_induction closingRuns escapes close offset s with
  | case1 => rfl
  | case2 offset c h => simp [closedLength?, closed?, h, endOfRuns?]
  | case3 offset c h rest => simp [closedLength?, closed?, h, endOfRuns?]
  | case4 offset c h d rest hd ih =>
    rw [ih, closedLength?_escape h hd, Option.map_map]
    congr 1
    funext n
    simp only [Function.comp_apply]
    omega
  | case5 offset rest length h ih =>
    -- a whole run, and the walk behind it
    rw [endOfRuns?_cons, ih, run_append close rest,
      closedLength?_run h (head?_dropWhile_ne close rest)]
    by_cases hodd : length % 2 = 1
    · rw [if_pos hodd, if_pos hodd]
      rfl
    · rw [if_neg hodd, if_neg hodd]
      cases closedLength? escapes close (rest.dropWhile (· == close)) with
      | none => rfl
      | some n =>
        simp only [Option.map_some, Option.some_or, Option.some.injEq]
        omega
  | case6 offset c rest h hc ih =>
    rw [ih, closedLength?_other h hc, Option.map_map]
    congr 1
    funext n
    simp only [Function.comp_apply]
    omega

-- Of two runs, neither of odd length, the last one ends the region, short of its last character.
example : endOfRuns? (closingRuns false '\'' 0 "a''b''''".toList) = some 7 := by cbv

/-! ## Comments -/

/-- **A block comment** ends with the first `*/` behind its opening. -/
theorem commentEnd?_eq (s : List Char) :
    commentEnd? s = (s.tails.findIdx? (['*', '/'].isPrefixOf ·)).map fun n =>
      (s.take (n + 2), s.drop (n + 2)) := by
  fun_induction commentEnd? s with
  | case1 => rfl
  | case2 rest => simp [List.findIdx?_cons]
  | case3 c rest h ih =>
    have hhere : ['*', '/'].isPrefixOf (c :: rest) = false := by
      cases rest with
      | nil => simp [List.isPrefixOf]
      | cons d rest =>
        have hne : '*' = c → '/' ≠ d := by
          rintro rfl rfl
          exact h rest rfl rfl
        simpa [List.isPrefixOf] using hne
    rw [ih, List.tails_cons, List.findIdx?_cons, hhere]
    simp [Option.map_map, Function.comp_def, Cut.extend]

/-- Whether a line comment ends in front of the character. -/
def endsLine (c : Char) : Bool := c == '\r' || c == '\n'

/-- **A line comment** ends in front of the first line break. -/
theorem takeWhile_inLine (s : List Char) :
    (s.takeWhile inLine, s.dropWhile inLine) =
      (s.take (s.findIdx endsLine), s.drop (s.findIdx endsLine)) := by
  have hnot : (fun c => !inLine c) = endsLine := by
    funext c
    simp [inLine, endsLine, bne]
  rw [List.takeWhile_eq_take_findIdx_not, List.dropWhile_eq_drop_findIdx_not, hnot]

/-! ## The statement -/

/-- A region of a kind that `opening` opens and that takes the first `n` characters behind it. -/
def cutAt (kind : Region) (opening rest : List Char) (n : Nat) : Lexeme × List Char :=
  (.region kind (opening ++ rest.take n), rest.drop n)

/-- `InOnePass o find?`: behind the opening of a quoted region or a comment, and whatever precedes
    it, `find?` finds what one pass finds. -/
structure InOnePass (o : LexOptions)
    (find? : Option Char → List Char → Option (Lexeme × List Char)) : Prop where
  literal : ∀ previous rest, find? previous ('\'' :: rest) =
    (endOfRuns? (closingRuns o.backslashEscapes '\'' 0 rest)).map (cutAt .literal ['\''] rest)
  doubleQuoted : ∀ previous rest, find? previous ('"' :: rest) =
    (endOfRuns? (closingRuns false '"' 0 rest)).map (cutAt .doubleQuoted ['"'] rest)
  backticked : ∀ previous rest, find? previous ('\x60' :: rest) =
    (endOfRuns? (closingRuns false '\x60' 0 rest)).map (cutAt .backticked ['\x60'] rest)
  bracketed : ∀ previous rest, find? previous ('[' :: rest) =
    if o.bracketQuotes then
      (endOfRuns? (closingRuns false ']' 0 rest)).map (cutAt .bracketed ['['] rest)
    else none
  /-- It ends with the first `*/` behind its opening. -/
  blockComment : ∀ previous rest, find? previous ('/' :: '*' :: rest) =
    (rest.tails.findIdx? (['*', '/'].isPrefixOf ·)).map fun n =>
      cutAt .blockComment ['/', '*'] rest (n + 2)
  /-- It ends in front of the first line break. -/
  lineComment : ∀ previous rest, find? previous ('-' :: '-' :: rest) =
    some (cutAt .lineComment ['-', '-'] rest (rest.findIdx endsLine))

/-- A quoted region whose end the runs tell. -/
theorem map_opened_closed? (kind : Region) (opening : List Char) (escapes : Bool) (close : Char)
    (rest : List Char) :
    (closed? escapes close rest).map (opened kind opening) =
      (endOfRuns? (closingRuns escapes close 0 rest)).map (cutAt kind opening rest) := by
  rw [endOfRuns?_closingRuns, closed?_eq_of_length, Option.map_map, Option.map_map]
  congr 1
  funext n
  simp only [Function.comp_apply, Nat.zero_add]
  rfl

/-- **Reading by hand** is reading in one pass. -/
theorem inOnePass_token? (o : LexOptions) : InOnePass o (token? o) where
  literal previous rest := by
    rw [token?_of_head_not_glue rfl]
    exact map_opened_closed? ..
  doubleQuoted previous rest := by
    rw [token?_of_head_not_glue rfl]
    exact map_opened_closed? ..
  backticked previous rest := by
    rw [token?_of_head_not_glue rfl]
    exact map_opened_closed? ..
  bracketed previous rest := by
    rw [token?_of_head_not_glue rfl, ← map_opened_closed?]
    rfl
  blockComment previous rest := by
    rw [token?_of_head_not_glue rfl, region?, commentEnd?_eq, Option.map_map]
    rfl
  lineComment previous rest := by
    have hcut := takeWhile_inLine rest
    rw [Prod.mk.injEq] at hcut
    rw [token?_of_head_not_glue rfl, region?, hcut.1, hcut.2]
    rfl

/-- **Regions and comments in one pass.**  Whatever precedes it, a quoted region ends with the last
    character of the first run of closing characters that is odd, or else with the first character
    of the last pair of the last run, and where there is no run there is no region; a block comment
    ends with the first `*/` behind its opening, and a line comment in front of the first line
    break.  This is what the backtracking patterns find, and what is read. -/
theorem regions_in_one_pass (o : LexOptions) :
    InOnePass o (firstMatch o) ∧ InOnePass o (token? o) := by
  have hsame : firstMatch o = token? o := by
    funext previous s
    exact (token?_eq_firstMatch o previous s).symm
  rw [hsame]
  exact ⟨inOnePass_token? o, inOnePass_token? o⟩

end TaggedSql.Placeholder
