/-
  Splitting written conditions at their conjunctions.

  1. **Fragments** — fragments that meet at a break share no word, so that the items of a written
     list are those of its fragments (`items_write`).  `Passes d fs n m` says that the fragments
     `fs` are walked over with `n` parentheses open in front of them and `m` behind them.  Quoted
     names and markers are single tokens, and change nothing.

  2. **Tests** (`passes_test`) — a test of a column by name spells no conjunction outside of
     parentheses: its operator is one of a fixed list, and the markers of a membership stand in
     parentheses.  SQL of the caller's stands in parentheses too, and cannot leave them when it is
     balanced.

  3. **Conditions** (`split_conditions`) — between written tests there is nothing but a conjunction
     and a blank on each side of it.  So the written conditions are split into the tests, each as it
     is written alone, and the conjunctions are those of all conditions but the first.
-/
import TaggedSql.Proofs.Placeholder.Words
import TaggedSql.Proofs.Query.Supported

namespace TaggedSql.Sql

open TaggedSql.Placeholder TaggedSql.Query TaggedSql.Text

variable {d : Dialect} {anyCase : Bool} {n m : Nat}

/-! ## Fragments -/

/-- The items of a written fragment. -/
def Fragment.items (d : Dialect) (f : Fragment) : List Item :=
  Placeholder.items (lex d.lexing (f.write d).toList)

theorem Fragment.text_items (d : Dialect) (f : Fragment) :
    (f.items d).flatMap Item.text = (f.write d).toList := by
  rw [Fragment.items, Placeholder.text_items]
  exact text_lexemes ..

theorem text_flatMap_items (d : Dialect) (fs : List Fragment) :
    (fs.flatMap (Fragment.items d)).flatMap Item.text = (write d fs).toList := by
  rw [write_toList, List.flatMap_assoc]
  exact List.flatMap_congr fun f _ => f.text_items d

/-- **Fragments are grouped one by one.** -/
theorem items_write {fs : List Fragment} (hs : Spaced fs)
    (hc : ∀ f ∈ fs, Closed d.lexing (f.write d).toList) :
    Placeholder.items (lex d.lexing (write d fs).toList) = fs.flatMap (Fragment.items d) := by
  induction fs with
  | nil =>
    rw [write_nil, String.toList_empty, lex, lexemes_nil]
    rfl
  | cons f fs ih =>
    obtain ⟨hmeets, hspaced⟩ := List.isChain_cons.mp hs
    have happ : (write d (f :: fs)).toList = (f.write d).toList ++ (write d fs).toList := by
      simp [write_toList]
    rw [happ, items_append_of_apart (hc f List.mem_cons_self) (apart_write hmeets),
      ih hspaced fun g hg => hc g (List.mem_cons_of_mem f hg)]
    rfl

/-- `Passes d fs n m`: no conjunction outside of all parentheses is met in `fs`, and `m` parentheses
    are open behind `fs` when `n` are in front. -/
def Passes (d : Dialect) (fs : List Fragment) (n m : Nat) : Prop :=
  ∀ anyCase, walk? anyCase n (fs.flatMap (Fragment.items d)) = some m

/-- The items of a quiet text. -/
theorem Fragment.items_keyword {k : String} (h : isQuiet k) :
    (Fragment.keyword k).items d = Placeholder.items (k.toList.map Lexeme.plain) := by
  rw [Fragment.items, Fragment.write,
    lex_of_inert (isInert_of_isQuiet h) (not_colon_of_isQuiet h)]

namespace Passes

theorem nil : Passes d [] n n := fun _ => rfl

theorem append {fs gs : List Fragment} {k : Nat} (hf : Passes d fs n m) (hg : Passes d gs m k) :
    Passes d (fs ++ gs) n k := by
  intro anyCase
  rw [List.flatMap_append, walk?_append, hf anyCase]
  exact hg anyCase

theorem cons {f : Fragment} {fs : List Fragment} {k : Nat} (hf : Passes d [f] n m)
    (hfs : Passes d fs m k) : Passes d (f :: fs) n k :=
  hf.append hfs

/-- A quiet keyword is walked over character by character. -/
theorem keyword {k : String} (hk : isQuiet k)
    (h : ∀ anyCase, walk? anyCase n (Placeholder.items (k.toList.map Lexeme.plain)) = some m) :
    Passes d [.keyword k] n m := by
  intro anyCase
  rw [List.flatMap_singleton, Fragment.items_keyword hk]
  exact h anyCase

/-- A quoted part is a single token. -/
theorem part (name : String) : Passes d [.part name] n n := by
  intro anyCase
  rw [List.flatMap_singleton, Fragment.items, Fragment.write, lex_quotePart]
  exact walk?_other (l := d.quotedName name) (by simp [Dialect.quotedName])
    (by simp [Dialect.quotedName]) []

/-- A marker is a single token. -/
theorem marker {a : Marker} (h : a.IsNamed) : Passes d [.marker a] n n := by
  intro anyCase
  rw [List.flatMap_singleton, Fragment.items, Fragment.write, lex_marker h]
  cases a with
  | verbatim text => exact h.elim
  | tagged type name =>
    exact walk?_other (l := .placeholder type.tag name.toList) (by simp) (by simp) []

/-- Pieces with a keyword between each two. -/
theorem separated {α : Type} {k : String} {xs : List α} {f : α → List Fragment}
    (hk : Passes d [.keyword k] n n) (h : ∀ x ∈ xs, Passes d (f x) n n) :
    Passes d (Sql.separated k (xs.map f)) n n := by
  induction xs with
  | nil => exact nil
  | cons x xs ih =>
    have hx := h x List.mem_cons_self
    have hxs := ih fun y hy => h y (List.mem_cons_of_mem x hy)
    cases xs with
    | nil => exact hx
    | cons y ys => exact hx.append (hk.cons hxs)

end Passes

/-! ## Tests -/

/-- Closed and balanced SQL of the caller's, or a test of a column by name. -/
def Test.IsSelfContained (d : Dialect) : Test → Prop
  | .raw sql => Closed d.lexing sql.toList ∧ ParensMatch d.lexing sql.toList
  | .column i _ _ => isName i

theorem passes_identifier {i : Identifier} (h : isName i) : Passes d i.fragments 0 0 := by
  cases i with
  | raw sql => cases h
  | name text =>
    refine Passes.separated (Passes.keyword rfl (by decide)) fun p _ => ?_
    unfold partFragment
    split
    · exact Passes.keyword rfl (by decide)
    · exact Passes.part _

/-- Inside of parentheses the commas between markers change nothing. -/
theorem passes_markers {markers : List Marker} (h : ∀ a ∈ markers, a.IsNamed) :
    Passes d (markersLayout markers) 1 1 :=
  Passes.separated (Passes.keyword rfl (by decide)) fun a ha => Passes.marker (h a ha)

/-- Balanced SQL leaves the parentheses around it open. -/
theorem passes_raw {sql : String} (h : ParensMatch d.lexing sql.toList) :
    Passes d [.raw sql] 1 1 := by
  intro anyCase
  rw [List.flatMap_singleton]
  exact walk?_items h

theorem walk?_operators : ∀ op ∈ operators, ∀ anyCase,
    walk? anyCase 0 (Placeholder.items ((" " ++ op ++ " ").toList.map Lexeme.plain)) = some 0 := by
  decide

/-- **A test** is walked over, and leaves no parentheses open. -/
theorem passes_test {t : Test} {fs : List Fragment} (hs : t.IsSupported)
    (hc : t.IsSelfContained d) (h : testLayout? t = some fs) : Passes d fs 0 0 := by
  cases t with
  | raw sql =>
    cases h
    refine Passes.cons (m := 1) (Passes.keyword rfl (by decide)) ?_
    exact (passes_raw hc.2).append (Passes.keyword rfl (by decide))
  | column column operator markers =>
    obtain ⟨hoperator, hmarkers, -⟩ := hs
    have hnamed : ∀ a ∈ markers, a.IsNamed := fun a ha => (hmarkers a ha).isNamed
    have hcolumn := passes_identifier (d := d) hc
    rw [testLayout?] at h
    split at h
    · -- a test for the absent value
      next his =>
      cases h
      refine hcolumn.append ?_
      rcases his with rfl | rfl <;> exact Passes.keyword rfl (by decide)
    · split at h
      · next hin =>
        split at h
        · -- membership in nothing at all
          cases h
          split <;> exact Passes.keyword rfl (by decide)
        · cases h
          have hopen : Passes d [.keyword (" " ++ operator ++ " (")] 0 1 := by
            rcases hin with rfl | rfl <;> exact Passes.keyword rfl (by decide)
          exact (hcolumn.append (hopen.cons (passes_markers hnamed))).append
            (Passes.keyword rfl (by decide))
      · -- a comparison with one value
        obtain ⟨a, ha, rfl⟩ := Option.map_eq_some_iff.mp h
        have hmarker := Passes.marker (d := d) (n := 0) (hnamed a (List.mem_of_head? ha))
        refine hcolumn.append (Passes.cons (Passes.keyword ?_ ?_) hmarker)
        · rw [isQuiet_append, isQuiet_append, isQuiet_of_mem_operators _ hoperator]
          rfl
        · exact walk?_operators _ hoperator

theorem text_singleton (d : Dialect) (f : Fragment) :
    (write d [f]).toList = (f.write d).toList := by
  rw [write_toList, List.flatMap_singleton]

/-- A written identifier does not begin with a blank. -/
theorem head?_identifier {i : Identifier} (h : isName i) :
    (write d i.fragments).toList.head?.any isInk := by
  cases i with
  | raw sql => cases h
  | name text =>
    have hpart : ∀ p fs, (write d (partFragment p :: fs)).toList.head?.any isInk := by
      intro p fs
      rw [write_toList, List.flatMap_cons]
      unfold partFragment
      split
      · rw [Fragment.write, List.head?_append]
        rfl
      · rw [Fragment.write, quotePart_toList]
        cases d <;> rfl
    obtain ⟨p, ps, hparts⟩ := List.exists_cons_of_ne_nil (List.splitOn_ne_nil '.' text.toList)
    rw [Identifier.fragments, hparts]
    cases ps with
    | nil => exact hpart p []
    | cons q qs => exact hpart p _

/-- A marker has no blanks. -/
theorem getLast?_marker {a : Marker} (h : a.IsNamed) : a.text.toList.getLast?.any isInk := by
  have hne : a.text.toList ≠ [] := by
    obtain ⟨l, -, -, hl⟩ := placeholder?_marker h
    intro hnil
    rw [hnil] at hl
    cases hl
  rw [List.getLast?_eq_some_getLast hne, Option.any_some, isInk, bne_iff_ne]
  intro hblank
  have hglue := isGlue_of_mem_marker h _ (List.getLast_mem hne)
  rw [hblank] at hglue
  cases hglue

/-- The last fragment decides how a text ends. -/
theorem getLast?_write {f : Fragment} (h : (f.write d).toList.getLast?.any isInk)
    (fs : List Fragment) : (write d (fs ++ [f])).toList.getLast?.any isInk := by
  obtain ⟨c, hc, hink⟩ := (Option.any_eq_true _ _).mp h
  rw [write_append, String.toList_append, text_singleton, List.getLast?_append, hc]
  exact hink

/-- **A written test** neither begins nor ends with a blank. -/
theorem tight_test {t : Test} {fs : List Fragment} (hs : t.IsSupported)
    (hc : t.IsSelfContained d) (h : testLayout? t = some fs) : Tight (write d fs).toList := by
  have hkeyword : ∀ k, k.toList.getLast?.any isInk → ∀ fs,
      (write d (fs ++ [.keyword k])).toList.getLast?.any isInk := fun k hk =>
    getLast?_write (f := .keyword k) hk
  cases t with
  | raw sql =>
    cases h
    rw [← List.singleton_append, write_append, String.toList_append, text_singleton]
    exact Tight.append (show "(".toList.head?.any isInk from rfl) (hkeyword ")" rfl [.raw sql])
  | column column operator markers =>
    obtain ⟨-, hmarkers, -⟩ := hs
    have hcolumn := head?_identifier (d := d) hc
    rw [testLayout?] at h
    split at h
    · next his =>
      cases h
      rw [write_append, String.toList_append]
      refine Tight.append hcolumn (hkeyword _ ?_ [])
      rcases his with rfl | rfl <;> rfl
    · split at h
      · split at h
        · cases h
          rw [text_singleton, Fragment.write]
          split <;> exact ⟨rfl, rfl⟩
        · cases h
          rw [List.append_assoc, write_append, String.toList_append]
          exact Tight.append hcolumn (hkeyword ")" rfl (_ :: _))
      · obtain ⟨a, ha, rfl⟩ := Option.map_eq_some_iff.mp h
        rw [write_append, String.toList_append]
        have hmarker := getLast?_marker (hmarkers a (List.mem_of_head? ha)).isNamed
        exact Tight.append hcolumn (getLast?_write (f := .marker a) hmarker [_])

/-- A written test is what is left when the blanks around it are stripped off. -/
theorem stripped_test {t : Test} {fs : List Fragment} (hs : t.IsSupported)
    (hc : t.IsSelfContained d) (h : testLayout? t = some fs) {front back : List Char}
    (hfront : ∀ c ∈ front, c = ' ') (hback : ∀ c ∈ back, c = ' ') :
    String.ofList (stripped (front ++ (write d fs).toList ++ back)) = write d fs := by
  rw [stripped_append (tight_test hs hc h) hfront hback, String.ofList_toList]

/-! ## Conditions -/

/-- The items of a conjunction between blanks. -/
theorem splitItems_conjunction (conjunction : Conjunction) (is : List Item) :
    splitItems anyCase 0 ((Fragment.keyword (" " ++ conjunction.text ++ " ")).items d ++ is) =
      ([' '], (conjunction.text, ' ' :: (splitItems anyCase 0 is).1) ::
        (splitItems anyCase 0 is).2) := by
  have hquiet : isQuiet (" " ++ conjunction.text ++ " ") := by
    cases conjunction <;> rfl
  rw [Fragment.items_keyword hquiet]
  cases conjunction <;> cases anyCase <;> rfl

/-- The conditions after the first one: blanks, and then each behind its conjunction. -/
theorem splitItems_further (anyCase : Bool) {cs : List Condition} {gs : List Fragment}
    (h : ∀ c ∈ cs, c.IsSupported ∧ c.test.IsSelfContained d)
    (hgs : furtherConditionsLayout? cs = some gs) :
    ∃ back pieces, splitItems anyCase 0 (gs.flatMap (Fragment.items d)) = (back, pieces) ∧
      (∀ c ∈ back, c = ' ') ∧ pieces.map Prod.fst = cs.map Condition.conjunction ∧
      (pieces.map fun p => some (String.ofList (stripped p.2))) =
        cs.map fun c => (testLayout? c.test).map (write d) := by
  induction cs generalizing gs with
  | nil =>
    cases hgs
    exact ⟨[], [], rfl, by simp, rfl, rfl⟩
  | cons c cs ih =>
    rw [furtherConditionsLayout?] at hgs
    split at hgs
    · next t rest ht hrest =>
      cases hgs
      obtain ⟨⟨⟨conjunction, hconjunction⟩, hsupported⟩, hcontained⟩ := h c List.mem_cons_self
      obtain ⟨back, pieces, hsplit, hback, hwords, htexts⟩ :=
        ih (fun c' hc' => h c' (List.mem_cons_of_mem c hc')) hrest
      have hpasses := passes_test hsupported hcontained ht anyCase
      refine ⟨[' '], (conjunction.text, ' ' :: ((write d t).toList ++ back)) :: pieces, ?_, by simp,
        ?_, ?_⟩
      · rw [List.cons_append, List.flatMap_cons, List.flatMap_append, hconjunction,
          splitItems_conjunction, splitItems_append hpasses, hsplit, text_flatMap_items]
      · rw [List.map_cons, List.map_cons, hwords, hconjunction]
      · have hblank : ∀ c ∈ [' '], c = ' ' := by simp
        have hfirst := stripped_test hsupported hcontained ht hblank hback
        rw [List.map_cons, List.map_cons, htexts, ht]
        exact congrArg (some · :: _) hfirst
    · cases hgs

/-- Supported and self-contained conditions are well formed. -/
theorem Condition.wellFormed_of_isSelfContained {c : Condition} (h : c.IsSupported)
    (hc : c.test.IsSelfContained d) : c.WellFormed d := by
  obtain ⟨word, test⟩ := c
  cases test with
  | raw sql =>
    obtain ⟨conjunction, hconjunction⟩ := h.1
    refine ⟨?_, hc.1⟩
    rw [hconjunction]
    exact isQuiet_conjunction conjunction
  | column i operator markers => exact Condition.wellFormed_of_isSupported h hc

/-- **Conditions are split into what they were written from.** -/
theorem split_conditions {cs : List Condition}
    (h : ∀ c ∈ cs, c.IsSupported ∧ c.test.IsSelfContained d) :
    ∃ fs, conditionsLayout? cs = some fs ∧ ∀ anyCase,
      (split anyCase d.lexing (write d fs)).1.map some =
        (cs.map fun c => (testLayout? c.test).map (write d)) ∧
      (split anyCase d.lexing (write d fs)).2 = (cs.map Condition.conjunction).tail := by
  obtain ⟨fs, hfs, hreads⟩ := reads_conditions fun c hc =>
    Condition.wellFormed_of_isSelfContained (h c hc).1 (h c hc).2
  refine ⟨fs, hfs, fun anyCase => ?_⟩
  cases cs with
  | nil =>
    cases hfs
    exact ⟨rfl, rfl⟩
  | cons c cs =>
    have hitems := items_write hreads.spaced hreads.closed
    rw [conditionsLayout?] at hfs
    split at hfs
    · next t rest ht hrest =>
      cases hfs
      obtain ⟨⟨-, hsupported⟩, hcontained⟩ := h c List.mem_cons_self
      obtain ⟨back, pieces, hsplit, hback, hwords, htexts⟩ :=
        splitItems_further anyCase (fun c' hc' => h c' (List.mem_cons_of_mem c hc')) hrest
      have hne : write d (t ++ rest) ≠ "" := by
        intro hempty
        have hhead := (tight_test hsupported hcontained ht).head
        rw [write_append, String.append_eq_empty_iff] at hempty
        rw [hempty.1] at hhead
        cases hhead
      have hcut : splitItems anyCase 0
          (Placeholder.items (lex d.lexing (write d (t ++ rest)).toList)) =
            ((write d t).toList ++ back, pieces) := by
        rw [hitems, List.flatMap_append,
          splitItems_append (passes_test hsupported hcontained ht anyCase), hsplit,
          text_flatMap_items]
      have hfirst := stripped_test hsupported hcontained ht (List.forall_mem_nil _) hback
      rw [split_of_cut hne hcut]
      refine ⟨?_, hwords⟩
      rw [List.map_cons, List.map_map, List.map_cons, ht, ← htexts]
      exact congrArg (some · :: _) hfirst
    · cases hfs

end TaggedSql.Sql
