/-
  Splitting a text at its conjunctions.

  1. **Items** — outside of tokens, the longest runs of word characters are words.  `items` groups
     lexemes into words and everything else, and loses nothing (`text_items`).

  2. **Splitting** — `splitItems` keeps count of the parentheses that are open, and cuts where the
     word AND or the word OR stands with none of them open.  Parentheses in literals, quoted names
     and comments do not count.  Whether small letters spell a conjunction as well is up to the
     reader, so it is a parameter.

  3. **Walks** — `walk? n is = some m` says that no conjunction is met where none is open, and that
     `m` parentheses are open behind `is` when `n` are in front of it.  Such items stay in one piece
     (`splitItems_append`), and walks can be put together (`walk?_append`).

  4. **Balanced texts** — the parentheses of a text match (`ParensMatch`) when it closes those that
     it opens, and no others.  Inside of a pair of parentheses it is walked over then, whatever
     conjunctions it holds (`walk?_items`).

  5. **Texts in a row** — texts that meet at a break share no word (`items_append_of_apart`), and a
     text that opens nothing is lexed character by character (`lex_of_inert`).
-/
import Mathlib.Data.List.DropRight
import TaggedSql.Proofs.Placeholder.Junction

namespace TaggedSql.Placeholder

open TaggedSql.Text

/-! ## Items -/

/-- A word, or a lexeme that is no part of a word. -/
inductive Item where
  | word (text : List Char)
  | other (l : Lexeme)
  deriving DecidableEq, Repr

/-- The characters of an item. -/
def Item.text : Item → List Char
  | .word w => w
  | .other l => l.text

/-- Whether a lexeme is a character of a word. -/
def Lexeme.isWordPart : Lexeme → Bool
  | .plain c => isWordChar c
  | _ => false

/-- Items with a lexeme in front of them. -/
def joined (l : Lexeme) (is : List Item) : List Item :=
  if l.isWordPart then
    match is with
    | .word w :: rest => .word (l.text ++ w) :: rest
    | is => .word l.text :: is
  else .other l :: is

/-- Lexemes with the words among them grouped. -/
def items (ls : List Lexeme) : List Item := ls.foldr joined []

theorem items_cons (l : Lexeme) (ls : List Lexeme) : items (l :: ls) = joined l (items ls) := rfl

theorem joined_of_not_isWordPart {l : Lexeme} (h : l.isWordPart = false) (is : List Item) :
    joined l is = .other l :: is := by
  simp [joined, h]

theorem joined_ne_nil (l : Lexeme) (is : List Item) : joined l is ≠ [] := by
  unfold joined
  split
  · split <;> exact List.cons_ne_nil _ _
  · exact List.cons_ne_nil _ _

/-- A lexeme joins the first of some items, if any. -/
theorem joined_append {is : List Item} (h : is ≠ []) (l : Lexeme) (js : List Item) :
    joined l (is ++ js) = joined l is ++ js := by
  obtain ⟨i, is, rfl⟩ := List.exists_cons_of_ne_nil h
  unfold joined
  split
  · cases i <;> rfl
  · rfl

/-- A lexeme in front of items that do not begin with a word stands by itself. -/
theorem joined_of_head {is : List Item} (h : ∀ i ∈ is.head?, ∃ l, i = .other l) (l : Lexeme) :
    joined l is = joined l [] ++ is := by
  unfold joined
  split
  · cases is with
    | nil => rfl
    | cons i is =>
      obtain ⟨l', rfl⟩ := h i rfl
      rfl
  · rfl

theorem text_joined (l : Lexeme) (is : List Item) :
    (joined l is).flatMap Item.text = l.text ++ is.flatMap Item.text := by
  unfold joined
  split
  · split
    · simp [Item.text]
    · rfl
  · rfl

/-- **Grouping loses nothing.** -/
theorem text_items (ls : List Lexeme) :
    (items ls).flatMap Item.text = ls.flatMap Lexeme.text := by
  induction ls with
  | nil => rfl
  | cons l ls ih => rw [items_cons, text_joined, ih, List.flatMap_cons]

/-- Lexemes are grouped independently of each other where no word goes on from one to the next. -/
theorem items_append {ls ms : List Lexeme}
    (h : (∀ l ∈ ls.getLast?, l.isWordPart = false) ∨ ∀ l ∈ ms.head?, l.isWordPart = false) :
    items (ls ++ ms) = items ls ++ items ms := by
  induction ls with
  | nil => rfl
  | cons l ls ih =>
    rw [List.cons_append, items_cons, items_cons]
    cases ls with
    | nil =>
      show joined l (items ms) = joined l [] ++ items ms
      rcases h with hlast | hhead
      · rw [joined_of_not_isWordPart (hlast l rfl), joined_of_not_isWordPart (hlast l rfl)]
        rfl
      · refine joined_of_head (fun i hi => ?_) l
        cases ms with
        | nil => cases hi
        | cons m ms =>
          rw [items_cons, joined_of_not_isWordPart (hhead m rfl)] at hi
          exact ⟨m, (Option.some.inj hi).symm⟩
    | cons l' ls =>
      have hrest := ih (h.imp_left fun hlast => by rwa [List.getLast?_cons_cons] at hlast)
      rw [hrest]
      exact joined_append (joined_ne_nil _ _) l _

/-! ## Splitting -/

/-- The conjunction that an item spells; in any case, or in capital letters only. -/
def Item.conjunction? (anyCase : Bool) : Item → Option String
  | .word w =>
    match if anyCase then w.map Char.toUpper else w with
    | ['A', 'N', 'D'] => some "AND"
    | ['O', 'R'] => some "OR"
    | _ => none
  | .other _ => none

/-- How many parentheses are open behind an item when `depth` are in front of it. -/
def Item.depthBehind (depth : Nat) : Item → Nat
  | .other (.plain '(') => depth + 1
  | .other (.plain ')') => depth - 1
  | _ => depth

/-- What stands in front of the first conjunction outside of all parentheses, and every such
    conjunction with what stands between it and the next one. -/
def splitItems (anyCase : Bool) : Nat → List Item → List Char × List (String × List Char)
  | _, [] => ([], [])
  | depth, i :: is =>
    match if depth = 0 then i.conjunction? anyCase else none with
    | some conjunction =>
      let rest := splitItems anyCase depth is
      ([], (conjunction, rest.1) :: rest.2)
    | none =>
      let rest := splitItems anyCase (i.depthBehind depth) is
      (i.text ++ rest.1, rest.2)

/-- A text without the blanks at its two ends. -/
def stripped (s : List Char) : List Char := (s.dropWhile (· == ' ')).rdropWhile (· == ' ')

/-- The pieces of a text that its outer conjunctions separate, and these conjunctions.  An empty
    text has no pieces. -/
def split (anyCase : Bool) (o : LexOptions) (sql : String) : List String × List String :=
  if sql = "" then ([], [])
  else
    let cut := splitItems anyCase 0 (items (lex o sql.toList))
    ((cut.1 :: cut.2.map Prod.snd).map fun s => String.ofList (stripped s), cut.2.map Prod.fst)

/-- A text that is not empty has a first piece, and one more for each conjunction. -/
theorem split_of_cut {anyCase : Bool} {o : LexOptions} {sql : String} (hne : sql ≠ "")
    {first : List Char} {rest : List (String × List Char)}
    (h : splitItems anyCase 0 (items (lex o sql.toList)) = (first, rest)) :
    split anyCase o sql =
      (String.ofList (stripped first) :: rest.map fun p => String.ofList (stripped p.2),
        rest.map Prod.fst) := by
  rw [split, if_neg hne, h]
  simp only [List.map_cons, List.map_map]
  rfl

/-- Whether a character is no blank. -/
def isInk (c : Char) : Bool := c != ' '

/-- A text that neither begins nor ends with a blank, and is not empty. -/
structure Tight (s : List Char) : Prop where
  head : s.head?.any isInk
  last : s.getLast?.any isInk

/-- Only the ends of a text matter. -/
theorem Tight.append {s t : List Char} (hs : s.head?.any isInk) (ht : t.getLast?.any isInk) :
    Tight (s ++ t) := by
  constructor
  · obtain ⟨c, hc, hink⟩ := (Option.any_eq_true _ _).mp hs
    rw [List.head?_append, hc]
    exact hink
  · obtain ⟨c, hc, hink⟩ := (Option.any_eq_true _ _).mp ht
    rw [List.getLast?_append, hc]
    exact hink

/-- Blanks on both sides of a tight text are stripped off. -/
theorem stripped_append {front s back : List Char} (hs : Tight s) (hf : ∀ c ∈ front, c = ' ')
    (hb : ∀ c ∈ back, c = ' ') : stripped (front ++ s ++ back) = s := by
  have hblank : ∀ {c : Char}, isInk c → ¬(c == ' ') := by
    intro c hc
    simpa [isInk] using hc
  have hdrop : (front ++ (s ++ back)).dropWhile (· == ' ') = s ++ back := by
    obtain ⟨c, hc, hink⟩ := (Option.any_eq_true _ _).mp hs.head
    obtain ⟨rest, rfl⟩ := List.head?_eq_some_iff.mp hc
    rw [List.dropWhile_append_of_pos fun x hx => by simpa using hf x hx]
    exact List.dropWhile_cons_of_neg (hblank hink)
  rw [stripped, List.append_assoc, hdrop]
  clear hdrop
  induction back using List.reverseRecOn with
  | nil =>
    obtain ⟨c, hc, hink⟩ := (Option.any_eq_true _ _).mp hs.last
    obtain ⟨rest, rfl⟩ := List.getLast?_eq_some_iff.mp hc
    rw [List.append_nil]
    exact List.rdropWhile_concat_neg (· == ' ') rest c (hblank hink)
  | append_singleton back x ih =>
    have hx : x = ' ' := hb x (by simp)
    rw [← List.append_assoc, List.rdropWhile_concat_pos _ _ _ (by simpa using hx)]
    exact ih fun y hy => hb y (List.mem_append_left _ hy)

/-! ## Walks -/

variable {anyCase : Bool} {n m : Nat}

/-- How many parentheses are open behind items when `n` are in front of them; nothing when a
    conjunction stands outside of all parentheses. -/
def walk? (anyCase : Bool) : Nat → List Item → Option Nat
  | n, [] => some n
  | n, i :: is =>
    if n = 0 ∧ (i.conjunction? anyCase).isSome then none else walk? anyCase (i.depthBehind n) is

/-- Walks are made one after the other. -/
theorem walk?_append (is js : List Item) :
    walk? anyCase n (is ++ js) = (walk? anyCase n is).bind fun m => walk? anyCase m js := by
  induction is generalizing n with
  | nil => rfl
  | cons i is ih =>
    rw [List.cons_append, walk?, walk?]
    split
    · rfl
    · exact ih

/-- **What is walked over stays in one piece.** -/
theorem splitItems_append {is : List Item} (h : walk? anyCase n is = some m) (js : List Item) :
    splitItems anyCase n (is ++ js) =
      (is.flatMap Item.text ++ (splitItems anyCase m js).1, (splitItems anyCase m js).2) := by
  induction is generalizing n with
  | nil =>
    cases h
    rfl
  | cons i is ih =>
    rw [walk?] at h
    split at h
    · cases h
    · next hnone =>
      have hword : (if n = 0 then i.conjunction? anyCase else none) = none := by
        split
        · next hn => simpa [hn] using hnone
        · rfl
      rw [List.cons_append, splitItems, hword]
      simp only [ih h, List.flatMap_cons, List.append_assoc]

/-! ## Balanced texts -/

/-- How many parentheses are open behind lexemes when `n` are in front of them; nothing when more
    are closed than are open. -/
def depthAfter? : Nat → List Lexeme → Option Nat
  | n, [] => some n
  | n, .plain '(' :: ls => depthAfter? (n + 1) ls
  | 0, .plain ')' :: _ => none
  | n + 1, .plain ')' :: ls => depthAfter? n ls
  | n, _ :: ls => depthAfter? n ls

/-- A text that closes every parenthesis that it opens, and no other, not counting those in quotes
    and comments. -/
def ParensMatch (o : LexOptions) (s : List Char) : Prop := depthAfter? 0 (lex o s) = some 0

/-- A lexeme other than a parenthesis changes nothing. -/
theorem walk?_other {l : Lexeme} (hopen : l ≠ .plain '(') (hclose : l ≠ .plain ')')
    (is : List Item) : walk? anyCase n (.other l :: is) = walk? anyCase n is := by
  rw [walk?, if_neg (by simp [Item.conjunction?])]
  unfold Item.depthBehind
  split
  · next hi => exact absurd (Item.other.inj hi) hopen
  · next hi => exact absurd (Item.other.inj hi) hclose
  · rfl

/-- A character of a word is walked over with its word. -/
theorem walk?_joined {l : Lexeme} (h : l.isWordPart) (is : List Item) :
    walk? anyCase (n + 1) (joined l is) = walk? anyCase (n + 1) is := by
  unfold joined
  rw [if_pos h]
  split <;> simp [walk?, Item.depthBehind]

/-- Inside of parentheses nothing counts but parentheses. -/
theorem walk?_items_cons {l : Lexeme} (hopen : l ≠ .plain '(') (hclose : l ≠ .plain ')')
    (ls : List Lexeme) :
    walk? anyCase (n + 1) (items (l :: ls)) = walk? anyCase (n + 1) (items ls) := by
  rw [items_cons]
  cases hl : l.isWordPart with
  | true => exact walk?_joined hl _
  | false => rw [joined_of_not_isWordPart hl, walk?_other hopen hclose]

/-- **Inside of parentheses** a walk counts the parentheses, and meets no conjunction. -/
theorem walk?_items {ls : List Lexeme} (h : depthAfter? n ls = some m) :
    walk? anyCase (n + 1) (items ls) = some (m + 1) := by
  revert h
  fun_induction depthAfter? n ls with
  | case1 n =>
    intro h
    cases h
    rfl
  | case2 n ls ih => exact ih
  | case3 ls =>
    intro h
    cases h
  | case4 n ls ih => exact ih
  | case5 n l ls hopen hzero hclose ih =>
    intro h
    have hshut : l ≠ .plain ')' := by
      intro hl
      cases n with
      | zero => exact hzero rfl hl
      | succ n => exact hclose n rfl hl
    rw [walk?_items_cons hopen hshut]
    exact ih h

/-! ## Texts in a row -/

/-- The last lexeme is part of a word only if the last character is. -/
theorem isWordPart_getLast {o : LexOptions} {s : List Char} {l : Lexeme}
    (h : (lex o s).getLast? = some l) (hl : l.isWordPart) : ∃ c ∈ s.getLast?, isWordChar c := by
  cases l with
  | plain c =>
    obtain ⟨front, hfront⟩ := List.getLast?_eq_some_iff.mp h
    have htext := text_lexemes o none s
    rw [← lex, hfront, List.flatMap_append] at htext
    refine ⟨c, ?_, hl⟩
    rw [← htext]
    exact List.getLast?_concat ..
  | _ => cases hl

/-- The first lexeme is part of a word only if the first character is. -/
theorem isWordPart_head {o : LexOptions} {s : List Char} {l : Lexeme}
    (h : (lex o s).head? = some l) (hl : l.isWordPart) : ∃ c ∈ s.head?, isWordChar c := by
  cases l with
  | plain c =>
    obtain ⟨back, hback⟩ := List.head?_eq_some_iff.mp h
    have htext := text_lexemes o none s
    rw [← lex, hback, List.flatMap_cons] at htext
    refine ⟨c, ?_, hl⟩
    rw [← htext]
    rfl
  | _ => cases hl

theorem not_isWordChar_of_isBreak {c : Char} (h : isBreak c) : ¬isWordChar c := by
  intro hw
  rw [not_isBreak_of_isGlue (isGlue_of_isWordChar hw)] at h
  cases h

/-- What precedes a text apart from it makes no difference. -/
theorem lexemes_of_apart {o : LexOptions} {s t : List Char} (ha : Apart s t) :
    lexemes o s.getLast? t = lex o t := by
  cases t with
  | nil => rw [lexemes_nil, lex, lexemes_nil]
  | cons y t =>
    cases hs : s.getLast? with
    | none => rfl
    | some x =>
      rcases ha x hs y rfl with hx | hy
      · exact lexemes_of_not_glue (not_isGlue_of_isBreak hx)
      · exact lexemes_of_isBreak hy

theorem lex_append_of_apart {o : LexOptions} {s t : List Char} (hc : Closed o s)
    (ha : Apart s t) : lex o (s ++ t) = lex o s ++ lex o t := by
  rw [lex, lexemes_append hc ha, Option.or_none, lexemes_of_apart ha]
  rfl

/-- **Texts that are apart share no word.** -/
theorem items_append_of_apart {o : LexOptions} {s t : List Char} (hc : Closed o s)
    (ha : Apart s t) : items (lex o (s ++ t)) = items (lex o s) ++ items (lex o t) := by
  rw [lex_append_of_apart hc ha]
  refine items_append ?_
  by_cases hw : ∃ c ∈ s.getLast?, isWordChar c
  · right
    intro l hl
    refine Bool.eq_false_iff.mpr fun hpart => ?_
    obtain ⟨x, hx, hwx⟩ := hw
    obtain ⟨y, hy, hwy⟩ := isWordPart_head hl hpart
    exact (ha x hx y hy).elim (fun hb => not_isWordChar_of_isBreak hb hwx)
      fun hb => not_isWordChar_of_isBreak hb hwy
  · left
    intro l hl
    exact Bool.eq_false_iff.mpr fun hpart => hw (isWordPart_getLast hl hpart)

theorem lexemes_of_inert {o : LexOptions} {s : List Char} (h : ∀ c ∈ s, isInert c)
    (hcolon : ':' ∉ s) (previous : Option Char) : lexemes o previous s = s.map Lexeme.plain := by
  induction s generalizing previous with
  | nil => exact lexemes_nil _ _
  | cons c s ih =>
    have hregion : region? o (c :: s) = none := region?_of_isInert (h c List.mem_cons_self) s
    -- all other tokens have a colon
    have hgap : token? o previous (c :: s) = none := by
      refine Option.eq_none_iff_forall_ne_some.mpr fun t ht => hcolon ?_
      have htext := (fits_token ht).2
      rw [← htext]
      refine List.mem_append_left _ ?_
      rcases token?_cases ht with hv | ⟨-, hp | ⟨-, ha⟩⟩
      · rcases token?_verbatim ht hv with hr | hcast
        · rw [hregion] at hr
          cases hr
        · rw [hcast]
          exact List.mem_cons_self
      · obtain ⟨tag, name, rest, rfl, -⟩ := placeholder?_eq_some_iff.mp hp
        simp [Lexeme.text]
      · obtain ⟨word, name, hword, -⟩ := ambiguous?_eq_some ha
        simp [hword, Lexeme.text]
    rw [lexemes_of_gap hgap, ih (fun d hd => h d (List.mem_cons_of_mem c hd))
      (fun hd => hcolon (List.mem_cons_of_mem c hd))]
    rfl

/-- **A text that opens nothing** and has no colon is lexed character by character. -/
theorem lex_of_inert {o : LexOptions} {s : List Char} (h : ∀ c ∈ s, isInert c)
    (hcolon : ':' ∉ s) : lex o s = s.map Lexeme.plain :=
  lexemes_of_inert h hcolon none

end TaggedSql.Placeholder
