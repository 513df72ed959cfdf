/-
  Raw conditions beside generated names.

  A raw condition shares one namespace with the names that are generated: it may bind names of the
  form `param_0` itself, and it may mention a name that was generated earlier, as long as it binds
  it to an equal value.  When the SQL of every raw condition is closed and mentions parameters of
  its own call only, then nothing gets mixed up (`raw_conditions_keep_apart`):

    1. every value is stored under a name of its own, and is bound to it, or to an equal value, in
       the end; so is every parameter of a raw condition;
    2. the compiled names are those of the sites in the order in which they are written, so that
       each marker and each placeholder of a raw condition compiles in its place;
    3. the type of a stored value is the one that was inferred from it, whatever tag a raw condition
       gives its name;
    4. every compiled name has a value.

  The interleaving of the calls does not matter, nor does it that assignments are written in front
  of conditions: what carries the proof is that a generated name is new where it is mentioned
  (`pairwise_sitesOf`).
-/
import TaggedSql.Proofs.Query.Sites

namespace TaggedSql.Query

open TaggedSql.Placeholder TaggedSql.Sql

theorem Opening.mentionsOwn {o : Opening} (d : Dialect) : ∀ c ∈ o.calls, c.MentionsOwn d := by
  intro c hc
  cases o with
  | update table values =>
    rw [List.mem_singleton.mp hc]
    trivial
  | _ => cases hc

/-- What a rendered query and its history have to do with each other. -/
structure KeepsApart (d : Dialect) (h : List Taken) (r : Rendered) : Prop where
  /-- Every call has stored what it supplies, under generated names of its own. -/
  values : ∀ t ∈ h, t.stored.map Prod.snd = t.call.supplied
  generated : ∀ t ∈ h, ∀ p ∈ t.stored, ∃ k, p.1 = parameterName k
  nodup : (h.flatMap fun t => t.stored.map Prod.fst).Nodup
  /-- What was stored or brought along is bound, or a value that is equal to it. -/
  bound : ∀ t ∈ h, ∀ p ∈ t.parameters, ∃ w, r.parameters.lookup p.1 = some w ∧ Agrees p.2 w
  /-- The text can be compiled, and every compilation of it yields the sites. -/
  compiles : ∀ marker, ∃ c, (compile ⟨marker, false, d.lexing⟩ r.sql).outcome = .ok c
  names : ∀ marker strict c, (compile ⟨marker, strict, d.lexing⟩ r.sql).outcome = .ok c →
    c.names = (sitesOf d h).map Site.name
  types : ∀ marker strict c, (compile ⟨marker, strict, d.lexing⟩ r.sql).outcome = .ok c →
    ∀ p, .stored p ∈ sitesOf d h → c.types.lookup p.1 = some (.infer p.2)
  keys : ∀ marker strict c, (compile ⟨marker, strict, d.lexing⟩ r.sql).outcome = .ok c →
    ∀ name ∈ c.names, name ∈ r.parameters.map Prod.fst

/-- **Raw conditions keep apart from generated names.** -/
theorem raw_conditions_keep_apart {d : Dialect} {o : Opening} {calls : List Call} {b : Builder}
    {r : Rendered} (hf : o.isFiltered) (ho : o.identifiers.all isName)
    (hn : ∀ c ∈ calls, c.namesOnly) (hc : ∀ c ∈ calls, c.IsClosed d)
    (hm : ∀ c ∈ calls, c.MentionsOwn d) (hrun : Builder.Takes (.start d o.draft) calls b)
    (hbuild : b.build.1 = .ok r) :
    ∃ h, h.map Taken.call = o.calls ++ calls ∧ KeepsApart d h r := by
  obtain ⟨h, hcalls, haccounts, hfiltered, -, hsql, hentries⟩ :=
    exists_rendered hf ho hn hc hrun hbuild
  have hown : ∀ t ∈ h, t.IsOwn d := fun t ht =>
    Taken.isOwn_of_mentionsOwn (forall_calls hcalls (Opening.mentionsOwn d) hm t ht)
  have hparameters := parameters_render haccounts hfiltered hsql
  -- strict or not, what is compiled is compiled from the same lexemes
  have hnames : ∀ marker strict c, (compile ⟨marker, strict, d.lexing⟩ r.sql).outcome = .ok c →
      c.names = (sitesOf d h).map Site.name := by
    intro marker strict c hcompile
    rw [eq_compiled_of_outcome hcompile, compiled, hparameters, List.map_map]
    refine List.map_congr_left fun s _ => ?_
    cases s <;> rfl
  refine ⟨h, hcalls, haccounts.values, haccounts.generated, haccounts.nodup_stored, ?_,
    fun marker => ⟨_, compile_lenient rfl r.sql⟩, hnames, ?_, ?_⟩
  · rw [hentries]
    exact haccounts.bound
  · intro marker strict c hcompile p hp
    rw [eq_compiled_of_outcome hcompile, compiled, lookup_keepFirst, hparameters]
    exact lookup_sitesOf haccounts hown hp
  · intro marker strict c hcompile name hname
    rw [hnames marker strict c hcompile] at hname
    obtain ⟨s, hs, rfl⟩ := List.mem_map.mp hname
    rw [hentries]
    exact bound_of_mem_sitesOf haccounts hown hs

/-- A raw condition that binds `param_1` itself, between a value stored before it, as `param_0`, and
    one stored after it, as `param_2`. -/
theorem raw_condition_between_values :
    ∃ b r h, Builder.Takes (.start .ansi (Opening.update (.name "t") [("a", .int 1)]).draft)
        [.whereRaw ":param_1" [("param_1", .int 2)],
          .compare .and (.name "c") (.text "=") (some (.int 3))] b ∧
      b.build.1 = .ok r ∧ r.parameters.map Prod.fst = ["param_0", "param_1", "param_2"] ∧
      h.map Taken.call = [.setValues [("a", .int 1)],
        .whereRaw ":param_1" [("param_1", .int 2)],
        .compare .and (.name "c") (.text "=") (some (.int 3))] ∧
      KeepsApart .ansi h r := by
  have hrun : ∃ b r, Builder.Takes
      (.start .ansi (Opening.update (.name "t") [("a", .int 1)]).draft)
      [.whereRaw ":param_1" [("param_1", .int 2)],
        .compare .and (.name "c") (.text "=") (some (.int 3))] b ∧
      b.build.1 = .ok r ∧ r.parameters.map Prod.fst = ["param_0", "param_1", "param_2"] :=
    ⟨_, _, .cons rfl (.cons rfl (.nil _)), rfl, rfl⟩
  obtain ⟨b, r, htakes, hbuild, hparameters⟩ := hrun
  have hclosed : Closed Dialect.ansi.lexing ":param_1".toList := by decide
  have hown : ∀ p ∈ Placeholder.parameters (lex Dialect.ansi.lexing ":param_1".toList),
      p.1 ∈ [("param_1", Value.int 2)].map Prod.fst := by
    have htoken : token? Dialect.ansi.lexing none ":param_1".toList =
      some (.placeholder none ['p', 'a', 'r', 'a', 'm', '_', '1'], []) := rfl
    rw [lex, lexemes_of_token htoken, lexemes_nil]
    decide
  obtain ⟨h, hcalls, hkeeps⟩ := raw_conditions_keep_apart (d := .ansi)
    (o := .update (.name "t") [("a", .int 1)]) rfl rfl (by decide)
    (by exact List.forall_mem_cons.mpr ⟨hclosed, List.forall_mem_singleton.mpr trivial⟩)
    (by exact List.forall_mem_cons.mpr ⟨hown, List.forall_mem_singleton.mpr trivial⟩) htakes hbuild
  exact ⟨b, r, h, htakes, hbuild, hparameters, hcalls, hkeeps⟩

end TaggedSql.Query
