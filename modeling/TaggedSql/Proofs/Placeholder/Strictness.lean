/-
  Strict and lenient compilation, and what is noticed on the way.

  1. **Remarks** (`notes_eq_remarks`) — the notes on a text are one for every placeholder whose tag
     asks for another type than the first site of its name, and one for every ambiguous token, in
     the order of the text.  The compiler knows only the sites it has passed; this is enough, since
     the first site of a name is among them or is the placeholder at hand.

  2. **The first ambiguous token** (`exists_of_firstAmbiguity?`) cuts the lexemes in two.  What is
     noticed in front of it does not depend on what follows (`notes_append`).

  3. **The statement** (`strict_agrees_with_lenient`) — strict compilation is lenient compilation
     that ends at that token, and is the same when there is none.
-/
import TaggedSql.Proofs.Placeholder.Faithful

namespace TaggedSql.Placeholder

open TaggedSql.Text

/-! ## Remarks -/

/-- The first of the sites that have a name. -/
def firstSite? (sites : List Site) (name : List Char) : Option Site :=
  sites.find? fun p => p.name = name

/-- What there is to remark about a lexeme at an offset of a text with the sites: a placeholder
    whose tag asks for another type than the first site of its name, or an ambiguous token. -/
def remark? (sites : List Site) : Nat × Lexeme → Option Note
  | (offset, .placeholder tag name) =>
    (firstSite? sites name).bind fun first =>
      if typeOfTag first.tag = typeOfTag tag then none
      else some (.retagged (String.ofList name) (typeOfTag tag) offset (typeOfTag first.tag))
  | (_, .ambiguous word name) => some (.passedThrough (String.ofList (word ++ ':' :: name)))
  | _ => none

/-- The type known for a name is the one that the first site of the name asks for. -/
theorem lookup_parameter (sites : List Site) (name : List Char) :
    (sites.map Site.parameter).lookup (String.ofList name) =
      (firstSite? sites name).map fun p => typeOfTag p.tag := by
  induction sites with
  | nil => rfl
  | cons p sites ih =>
    rw [List.map_cons, Site.parameter, List.lookup_cons, firstSite?, List.find?_cons]
    by_cases h : p.name = name
    · simp [h]
    · have hne : (String.ofList name == String.ofList p.name) = false := by
        simpa [String.ofList_inj] using fun heq => h heq.symm
      simpa [hne, h, firstSite?] using ih

/-- A lexeme in front of which the parameters `known` were met: the compiler remarks on it as one
    that knows all parameters of the text does. -/
theorem noteOf?_eq_remark? {sites : List Site} {known later : List (String × BindType)}
    {offset : Nat} {l : Lexeme}
    (h : sites.map Site.parameter = known ++ (l.parameter?.toList ++ later)) :
    noteOf? known offset l = remark? sites (offset, l) := by
  cases l with
  | placeholder tag name =>
    have hlookup := lookup_parameter sites name
    rw [h, List.lookup_append] at hlookup
    simp only [noteOf?, remark?]
    cases hknown : known.lookup (String.ofList name) with
    | none =>
      -- the placeholder is the first site of its name, so the types agree
      rw [hknown] at hlookup
      simp only [Lexeme.parameter?, Option.toList_some, List.cons_append, List.lookup_cons_self,
        Option.none_or] at hlookup
      obtain ⟨first, hfirst, htype⟩ := Option.map_eq_some_iff.mp hlookup.symm
      rw [hfirst]
      simp [htype]
    | some kept =>
      rw [hknown, Option.some_or] at hlookup
      obtain ⟨first, hfirst, htype⟩ := Option.map_eq_some_iff.mp hlookup.symm
      rw [hfirst, ← htype]
      rfl
  | _ => rfl

/-- **Remarks.**  The notes on lexemes, in front of which the parameters `known` were met, are the
    remarks on them. -/
theorem notes_eq_remarks {sites : List Site} {ls : List Lexeme} :
    ∀ {known : List (String × BindType)} (offset : Nat),
      sites.map Site.parameter = known ++ parameters ls →
        notes known offset ls = (placed offset ls).filterMap (remark? sites) := by
  induction ls with
  | nil => intro known offset _; rfl
  | cons l ls ih =>
    intro known offset h
    rw [parameters_cons] at h
    have hrest := ih (offset + l.text.length) (h.trans (List.append_assoc ..).symm)
    rw [notes, placed, noteOf?_eq_remark? h, hrest]
    cases hr : remark? sites (offset, l) <;> simp [hr]

/-! ## The first ambiguous token -/

/-- The notes on lexemes are those on the front ones, then those on the others. -/
theorem notes_append (known : List (String × BindType)) (offset : Nat) (ls ms : List Lexeme) :
    notes known offset (ls ++ ms) =
      notes known offset ls ++
        notes (known ++ parameters ls) (offset + (ls.flatMap Lexeme.text).length) ms := by
  induction ls generalizing known offset with
  | nil => simp [notes, parameters]
  | cons l ls ih =>
    rw [List.cons_append, notes, ih, notes, parameters_cons, List.flatMap_cons, List.length_append,
      List.append_assoc, List.append_assoc, Nat.add_assoc]

theorem placed_append (offset : Nat) (ls ms : List Lexeme) :
    placed offset (ls ++ ms) =
      placed offset ls ++ placed (offset + (ls.flatMap Lexeme.text).length) ms := by
  induction ls generalizing offset with
  | nil => rfl
  | cons l ls ih =>
    rw [List.cons_append, placed, ih, placed, List.flatMap_cons, List.length_append, Nat.add_assoc,
      List.cons_append]

/-- A token was copied only where there is an ambiguous lexeme. -/
theorem passedThrough_mem_notes {token : String} {ls : List Lexeme} :
    ∀ {known : List (String × BindType)} {offset : Nat},
      .passedThrough token ∈ notes known offset ls → ∃ l ∈ ls, l.isAmbiguous := by
  induction ls with
  | nil => intro known offset h; cases h
  | cons l ls ih =>
    intro known offset h
    rw [notes, List.mem_append] at h
    rcases h with h | h
    · refine ⟨l, List.mem_cons_self, ?_⟩
      cases l with
      | ambiguous word name => rfl
      | placeholder tag name =>
        simp only [noteOf?, Option.mem_toList] at h
        split at h
        · cases h
        · split at h <;> cases h
      | _ => cases h
    · obtain ⟨m, hm, ha⟩ := ih h
      exact ⟨m, List.mem_cons_of_mem _ hm, ha⟩

/-- No token is noted where none is ambiguous. -/
theorem passedThrough_not_mem_notes {ls : List Lexeme} (h : ∀ l ∈ ls, l.isAmbiguous = false)
    (known : List (String × BindType)) (offset : Nat) (token : String) :
    .passedThrough token ∉ notes known offset ls := by
  intro htoken
  obtain ⟨l, hl, hamb⟩ := passedThrough_mem_notes htoken
  rw [h l hl] at hamb
  cases hamb

theorem firstAmbiguity?_cons {l : Lexeme} (h : l.isAmbiguous = false) (offset : Nat)
    (ls : List Lexeme) :
    firstAmbiguity? offset (l :: ls) = firstAmbiguity? (offset + l.text.length) ls := by
  cases l with
  | ambiguous word name => cases h
  | _ => rfl

/-- **The first ambiguous token** stands behind lexemes that are not ambiguous, at the offset that
    their texts end at. -/
theorem exists_of_firstAmbiguity? {ls : List Lexeme} {a : Ambiguity} :
    ∀ {offset : Nat}, firstAmbiguity? offset ls = some a →
      ∃ before after, ls = before ++ .ambiguous a.word.toList a.name.toList :: after ∧
        (∀ l ∈ before, l.isAmbiguous = false) ∧
        a.position = offset + (before.flatMap Lexeme.text).length := by
  induction ls with
  | nil => intro offset h; cases h
  | cons l ls ih =>
    intro offset h
    cases hl : l.isAmbiguous with
    | true =>
      cases l with
      | ambiguous word name =>
        cases h
        exact ⟨[], ls, by simp, by simp, rfl⟩
      | _ => cases hl
    | false =>
      rw [firstAmbiguity?_cons hl] at h
      obtain ⟨before, after, rfl, hbefore, hposition⟩ := ih h
      refine ⟨l :: before, after, rfl, List.forall_mem_cons.mpr ⟨hl, hbefore⟩, ?_⟩
      rw [hposition, List.flatMap_cons, List.length_append, Nat.add_assoc]

/-- No ambiguous token stands in front of the first one. -/
theorem position_le_of_firstAmbiguity? {ls : List Lexeme} {a : Ambiguity}
    (h : firstAmbiguity? 0 ls = some a) :
    (a.position, .ambiguous a.word.toList a.name.toList) ∈ placed 0 ls ∧
      ∀ q ∈ placed 0 ls, q.2.isAmbiguous → a.position ≤ q.1 := by
  obtain ⟨before, after, hcut, hbefore, hposition⟩ := exists_of_firstAmbiguity? h
  rw [hcut, placed_append, ← hposition]
  refine ⟨List.mem_append_right _ (by rw [placed]; exact List.mem_cons_self), ?_⟩
  intro q hq hamb
  rcases List.mem_append.mp hq with hq | hq
  · have hmem : q.2 ∈ before := map_snd_placed before 0 ▸ List.mem_map_of_mem hq
    rw [hbefore q.2 hmem] at hamb
    cases hamb
  · exact le_of_mem_placed hq

/-- What a refused token is reported as is what stands in the text. -/
theorem ofList_text_ambiguous (a : Ambiguity) :
    String.ofList (Lexeme.ambiguous a.word.toList a.name.toList).text = a.token := by
  rw [← String.toList_inj, String.toList_ofList]
  simp [Ambiguity.token, Lexeme.text]

/-- **Strict compilation ends at the first ambiguous token**, with what was noticed in front of
    it. -/
theorem compile_strict_of_ambiguous {lexing : LexOptions} {sql : String} {a : Ambiguity}
    {before after : List Lexeme}
    (hls : lex lexing sql.toList = before ++ .ambiguous a.word.toList a.name.toList :: after)
    (hbefore : ∀ l ∈ before, l.isAmbiguous = false)
    (ha : firstAmbiguity? 0 (lex lexing sql.toList) = some a) (marker : String) :
    compile ⟨marker, true, lexing⟩ sql = ⟨notes [] 0 before, .error a⟩ := by
  have hcut : (lex lexing sql.toList).takeWhile (fun l => !l.isAmbiguous) = before := by
    rw [hls, List.takeWhile_append_of_pos (by simpa using hbefore)]
    simp [Lexeme.isAmbiguous]
  simp only [compile, ha, ite_true, hcut]

/-- Without ambiguous tokens, strict compilation is lenient compilation. -/
theorem compile_strict_of_no_ambiguous {lexing : LexOptions} {sql : String}
    (ha : firstAmbiguity? 0 (lex lexing sql.toList) = none) (marker : String) :
    compile ⟨marker, true, lexing⟩ sql = compile ⟨marker, false, lexing⟩ sql := by
  simp only [compile, ha, ite_self]

/-- The note on an ambiguous token stands behind those on what is in front of it. -/
theorem notes_of_ambiguous (before after : List Lexeme) (a : Ambiguity) :
    ∃ later, notes [] 0 (before ++ .ambiguous a.word.toList a.name.toList :: after) =
      notes [] 0 before ++ .passedThrough a.token :: later := by
  rw [notes_append, notes, ← ofList_text_ambiguous]
  exact ⟨_, rfl⟩

/-! ## The statement -/

/-- Lenient compilation notes what there is to remark, and counts the sites and their names. -/
theorem compile_lenient_eq {lexing : LexOptions} {sql : String} {ls : List Lexeme}
    (h : lex lexing sql.toList = ls) (marker : String) :
    compile ⟨marker, false, lexing⟩ sql =
      ⟨notes [] 0 ls ++ [.summary (sitesOf (placed 0 ls)).length
        ((sitesOf (placed 0 ls)).map fun p => String.ofList p.name).eraseDups.length],
        .ok (compiled marker ls)⟩ := by
  have hnames : (parameters ls).map Prod.fst =
      (sitesOf (placed 0 ls)).map fun p => String.ofList p.name := by
    rw [parameters_eq_map_sitesOf ls 0, List.map_map]
    rfl
  have hcount : ((parameters ls).map Prod.fst).length = (sitesOf (placed 0 ls)).length := by
    rw [hnames, List.length_map]
  have hdistinct : (keepFirst (parameters ls)).length =
      ((sitesOf (placed 0 ls)).map fun p => String.ofList p.name).eraseDups.length := by
    rw [← hnames, ← map_fst_keepFirst, List.length_map]
  rw [← hcount, ← hdistinct, ← h]
  rfl

/-- **Strict and lenient compilation agree.**  Lenient compilation notes, in the order of the text,
    every placeholder whose tag asks for another type than the first site of its name, with its
    offset and both types, and every ambiguous token, and at the end how many placeholders and how
    many distinct names there are.  When no ambiguous token was noted, strict compilation has the
    same outcome and the same notes.  Otherwise it fails; the error names the leftmost ambiguous
    token and its offset, and the notes are those that lenient compilation takes in front of the
    note on this token. -/
theorem strict_agrees_with_lenient (marker : String) (lexing : LexOptions) (sql : String) :
    let lenient := compile ⟨marker, false, lexing⟩ sql
    let strict := compile ⟨marker, true, lexing⟩ sql
    ∃ (ls : List Lexeme) (sites : List Site) (c : Compiled),
      Scan lexing none sql.toList ls ∧
      (sites.Pairwise fun p q => p.offset < q.offset) ∧
      (∀ p, p ∈ sites ↔ (p.offset, .placeholder p.tag p.name) ∈ placed 0 ls) ∧
      lenient.outcome = .ok c ∧
      lenient.notes = (placed 0 ls).filterMap (remark? sites) ++
        [.summary sites.length (sites.map fun p => String.ofList p.name).eraseDups.length] ∧
      ((strict.outcome = .ok c ∧ strict.notes = lenient.notes ∧
          ∀ token, .passedThrough token ∉ lenient.notes) ∨
        ∃ a,
          strict.outcome = .error a ∧
          (a.position, .ambiguous a.word.toList a.name.toList) ∈ placed 0 ls ∧
          (∀ q ∈ placed 0 ls, q.2.isAmbiguous → a.position ≤ q.1) ∧
          (∃ front back, sql.toList = front ++ a.token.toList ++ back ∧
            a.position = front.length) ∧
          (∃ later, lenient.notes = strict.notes ++ .passedThrough a.token :: later) ∧
          ∀ token, .passedThrough token ∉ strict.notes) := by
  intro lenient strict
  generalize hls : lex lexing sql.toList = ls
  have hlenient : lenient = _ := compile_lenient_eq hls marker
  refine ⟨ls, sitesOf (placed 0 ls), compiled marker ls, hls ▸ scan_lexemes _ _ _,
    pairwise_sitesOf (pairwise_placed (fun l hl => text_ne_nil (hls ▸ hl)) 0),
    fun p => mem_sitesOf, by rw [hlenient], ?_, ?_⟩
  · rw [hlenient]
    exact congrArg (· ++ _) (notes_eq_remarks 0 (parameters_eq_map_sitesOf ls 0).symm)
  cases ha : firstAmbiguity? 0 ls with
  | none =>
    have hstrict : strict = lenient := compile_strict_of_no_ambiguous (hls ▸ ha) marker
    refine .inl ⟨by rw [hstrict, hlenient], by rw [hstrict], fun token htoken => ?_⟩
    rw [hlenient, List.mem_append] at htoken
    rcases htoken with htoken | htoken
    · exact passedThrough_not_mem_notes (firstAmbiguity?_eq_none_iff.mp ha) [] 0 token htoken
    · simp at htoken
  | some a =>
    obtain ⟨before, after, hcut, hbefore, hposition⟩ := exists_of_firstAmbiguity? ha
    rw [Nat.zero_add] at hposition
    have hstrict : strict = ⟨notes [] 0 before, .error a⟩ :=
      compile_strict_of_ambiguous (hls.trans hcut) hbefore (hls ▸ ha) marker
    obtain ⟨hmem, hleftmost⟩ := position_le_of_firstAmbiguity? ha
    obtain ⟨later, hlater⟩ := notes_of_ambiguous before after a
    refine .inr ⟨a, by rw [hstrict], hmem, hleftmost, ?_, ?_, ?_⟩
    · refine ⟨before.flatMap Lexeme.text, after.flatMap Lexeme.text, ?_, hposition⟩
      rw [← text_lexemes lexing none sql.toList, ← lex, hls, hcut, ← ofList_text_ambiguous,
        String.toList_ofList, List.flatMap_append, List.flatMap_cons, List.append_assoc]
    · rw [hlenient, hstrict, hcut, hlater, List.append_assoc]
      exact ⟨_, rfl⟩
    · rw [hstrict]
      exact passedThrough_not_mem_notes hbefore [] 0

end TaggedSql.Placeholder
