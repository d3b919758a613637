import NodeApi.Proofs.Schema.Coherence
import NodeApi.Proofs.Schema.Expansion

/-!
# What names say in full

An entry may be written by its name, as it is used, or as it is defined; and it may have been
described before or after the names inside of it were registered.  In full all of this says the
same: the outline of the name, with every name in it said in full.

Main results:

- Theorem `expand_usage_of_get?`: an entry says in full what a reference to it says.
- Theorem `expand_usage_meaning`: so does every answer.
- Theorem `expand_definition_fill`: a filled-in outline says what the bare outline says.
- Theorem `get?_after_cases`: where the entries of a run come from.
- Theorem `expansion_perm`: in what order names are resolved does not matter for what the entries
  say.
-/

namespace NodeApi

open Schema

namespace Registry

/-! ## Usage and definition -/

section
variable {r : Registry} (hcoherent : r.Coherent) (hdescends : r.Descends)
include hcoherent hdescends

/-- An entry says in full what a reference to it says. -/
theorem expand_usage_of_get? {key : String} {schema : Schema} (hget : r.get? key = some schema) :
    r.expand schema.usage = r.expand (.schemaRef key) := by
  cases schema with
  | primitive name type =>
    rw [hdescends.expand_schemaRef_of_get? hget, usage, definition]
    by_cases hinline : name ∈ inlineNames
    · rw [if_pos hinline]
    · rw [if_neg hinline]
      -- a copy of a builtin type keeps the name of the type, and is used by the name of that entry
      rcases hcoherent.backs hget Occurs.here (Or.inl rfl) with ⟨own, hown, hentry⟩
      have heq : name = own := Option.some.inj hown
      rw [← heq] at hentry
      rw [hdescends.expand_schemaRef_of_get? hentry, definition]
  | reference name =>
    by_cases hself : name = key
    · rw [usage, hself]
    · rw [hdescends.expand_schemaRef_of_get? hget, definition, if_neg hself, usage]
  | list name item =>
    have hname : name = some key := hcoherent.arrayName hget rfl
    rw [hname, usage]
  | tuple name elements =>
    have hname : name = some key := hcoherent.arrayName hget rfl
    rw [hname, usage]
  | object properties required =>
    rw [hdescends.expand_schemaRef_of_get? hget, usage, definition]

/-- What stands for a name says in full what a reference to the name says. -/
theorem expand_usage_of_stands {name : String} {schema : Schema} (h : r.Stands name schema) :
    r.expand schema.usage = r.expand (.schemaRef name) := by
  rcases h with rfl | hget
  · rw [usage_reference]
  · exact expand_usage_of_get? hcoherent hdescends hget

/-- What a name means when it is resolved says in full what a reference to the name says later
on. -/
theorem expand_usage_meaning {earlier : Registry} (hearlier : earlier.Coherent) (site : Site)
    (name : String) (hextends : r.Extends (earlier.resolved site name)) :
    r.expand (earlier.meaning site name).schema.usage = r.expand (.schemaRef name) := by
  cases hname : earlier.get? name with
  | some schema =>
    rw [resolved_of_get? site hname] at hextends
    rw [meaning_of_get? site hname]
    exact expand_usage_of_get? hcoherent hdescends (hextends hname)
  | none =>
    rw [meaning_schema_of_get?_eq_none site hname]
    have hget : r.get? name =
        some ((earlier.fill site (TypeName.outline site name)).named name) :=
      hextends (get?_resolved_self site hname)
    rcases hearlier.fill_cases site (TypeName.outline site name) with hnameless | ⟨hother, _⟩
    · rw [hnameless.usage_eq_definition name, hdescends.expand_schemaRef_of_get? hget,
        definition_named]
    · rw [named_of_isArray_eq_false hother] at hget
      exact expand_usage_of_get? hcoherent hdescends hget

end

end Registry

/-! ## Outlines in full -/

/-- What an outline of a key defines, with every name in it as a reference. -/
def TypeName.Outline.definition (key : String) : TypeName.Outline → Json
  | .list item => listJson (.schemaRef item)
  | .tuple elements => listJson (.array (elements.map .schemaRef))
  | .name core => if core = key then .object [] else .schemaRef core

namespace Registry

/-- A filled-in outline says in full what the bare outline says. -/
theorem expand_definition_fill {r earlier : Registry} (hcoherent : r.Coherent)
    (hdescends : r.Descends) (hextends : r.Extends earlier) (site : Site) {key : String}
    (hkey : earlier.get? key = none) (outline : TypeName.Outline) :
    r.expand ((earlier.fill site outline).definition key) = r.expand (outline.definition key) := by
  cases outline with
  | list item =>
    have hitem := (earlier.itemSchema_stands site item).mono hextends
    rw [fill, definition, TypeName.Outline.definition, expand_listJson, expand_listJson,
      expand_usage_of_stands hcoherent hdescends hitem]
  | tuple elements =>
    rw [fill, definition, TypeName.Outline.definition, expand_listJson, expand_listJson,
      expand_array, expand_array, usageAll_eq_map]
    simp only [List.map_map]
    congr 2
    apply List.map_congr_left
    intro element _
    have helement := (earlier.schemaOf_stands element).mono hextends
    exact expand_usage_of_stands hcoherent hdescends helement
  | name core =>
    rcases earlier.leaf_cases core with hleaf | ⟨primitive, type, hleaf, hget⟩
    · rw [fill, hleaf, definition, TypeName.Outline.definition]
    · have hne : core ≠ key := by
        intro heq
        rw [heq, hkey] at hget
        simp at hget
      rw [fill, hleaf, TypeName.Outline.definition, if_neg hne,
        hdescends.expand_schemaRef_of_get? (hextends hget), definition, definition]

/-! ## Where entries come from -/

/-- An entry that was described at a site, from what was registered at the time. -/
def Described (r : Registry) (site : Site) (key : String) (schema : Schema) : Prop :=
  ∃ earlier : Registry, earlier.get? key = none ∧ r.Extends earlier ∧
    schema = (earlier.fill site (TypeName.outline site key)).named key

/-- An entry of a run was there before, or it was described when its name was first resolved. -/
theorem get?_after_cases {r : Registry} {queries : List Query} {key : String} {schema : Schema}
    (h : (r.after queries).get? key = some schema) :
    r.get? key = some schema ∨ (r.get? key = none ∧
      ∃ q ∈ queries, q.name = key ∧ (r.after queries).Described q.site key schema) := by
  rcases exists_resolved_of_get?_after h with hold | ⟨earlier, q, later, rfl, hname, hnew, hschema⟩
  · exact Or.inl hold
  · right
    have hextends : (r.after (earlier ++ q :: later)).Extends (r.after earlier) := by
      rw [after_append]
      exact extends_after _ _
    refine ⟨?_, q, List.mem_append_right earlier List.mem_cons_self, hname, _, hnew, hextends,
      hschema⟩
    by_contra hold
    rcases Option.ne_none_iff_exists'.1 hold with ⟨old, hold⟩
    rw [r.extends_after earlier hold] at hnew
    exact absurd hnew (Option.some_ne_none old)

/-- The names of a run are those that were there before and those that were resolved. -/
theorem get?_after_ne_none_iff {r : Registry} {queries : List Query} {key : String} :
    (r.after queries).get? key ≠ none ↔ r.get? key ≠ none ∨ ∃ q ∈ queries, q.name = key := by
  constructor
  · intro h
    rcases Option.ne_none_iff_exists'.1 h with ⟨schema, hschema⟩
    rcases get?_after_cases hschema with hold | ⟨_, q, hq, hname, _⟩
    · left
      rw [hold]
      simp
    · exact Or.inr ⟨q, hq, hname⟩
  · rintro (h | ⟨q, hq, rfl⟩)
    · rcases Option.ne_none_iff_exists'.1 h with ⟨schema, hschema⟩
      rw [r.extends_after queries hschema]
      simp
    · have hsome := r.isSome_get?_after hq
      intro hnone
      rw [hnone] at hsome
      simp at hsome

/-- Runs of the same resolutions register the same names. -/
theorem get?_after_ne_none_congr (r : Registry) {queries queries' : List Query}
    (hmem : ∀ q, q ∈ queries' ↔ q ∈ queries) (key : String) :
    (r.after queries).get? key ≠ none ↔ (r.after queries').get? key ≠ none := by
  simp only [get?_after_ne_none_iff, hmem]

/-! ## The order of resolutions -/

/-- Two registries in which all proper parts of a key say the same let an outline of the key say the
same. -/
theorem expand_outline_congr {r r' : Registry} {key : String} {outline : TypeName.Outline}
    (hinside : outline.Inside key)
    (hparts : ∀ name, TypeName.ProperPart name key →
      r.expand (.schemaRef name) = r'.expand (.schemaRef name)) :
    r.expand (outline.definition key) = r'.expand (outline.definition key) := by
  cases outline with
  | list item =>
    rw [TypeName.Outline.definition, expand_listJson, expand_listJson, hparts item hinside]
  | tuple elements =>
    rw [TypeName.Outline.definition, expand_listJson, expand_listJson, expand_array, expand_array]
    simp only [List.map_map]
    congr 2
    apply List.map_congr_left
    intro element helement
    exact hparts element (hinside element helement)
  | name core =>
    rw [TypeName.Outline.definition]
    by_cases hself : core = key
    · rw [if_pos hself, expand_object_nil, expand_object_nil]
    · rw [if_neg hself]
      exact hparts core (TypeName.PartOf.proper_of_ne hinside hself)

/-- What a reference says in full at the end of a run of the builtin types: an outline in full if
the name was resolved in the run, the type itself if it is a builtin type. -/
theorem expand_schemaRef_after {queries : List Query} {key : String}
    (h : (builtin.after queries).get? key ≠ none) :
    (∃ type, builtin.get? key = some (.primitive key type) ∧
      (builtin.after queries).expand (.schemaRef key) = typeJson type) ∨
    (builtin.get? key = none ∧ ∃ q ∈ queries, q.name = key ∧
      (builtin.after queries).expand (.schemaRef key) =
        (builtin.after queries).expand ((TypeName.outline q.site key).definition key)) := by
  have hcoherent : (builtin.after queries).Coherent := coherent_after coherent_builtin queries
  have hdescends : (builtin.after queries).Descends := descends_after descends_builtin queries
  rcases Option.ne_none_iff_exists'.1 h with ⟨schema, hget⟩
  rw [hdescends.expand_schemaRef_of_get? hget]
  rcases get?_after_cases hget with hbuiltin | ⟨hnone, q, hq, hname, earlier, hnew, hextends, rfl⟩
  · rcases get?_builtin hbuiltin with ⟨type, rfl⟩
    left
    exact ⟨type, hbuiltin, by rw [definition, expand_typeJson]⟩
  · right
    refine ⟨hnone, q, hq, hname, ?_⟩
    rw [definition_named]
    exact expand_definition_fill hcoherent hdescends hextends q.site hnew _

/-- Two runs that resolve the same names at the same sites let every name say the same. -/
theorem expand_schemaRef_eq {queries queries' : List Query}
    (hsite : ∀ a ∈ queries, ∀ b ∈ queries, a.name = b.name → a.site = b.site)
    (hmem : ∀ q, q ∈ queries' ↔ q ∈ queries) (key : String) :
    (builtin.after queries).expand (.schemaRef key) =
      (builtin.after queries').expand (.schemaRef key) := by
  induction hlength : key.length using Nat.strongRecOn generalizing key with
  | ind length ih =>
    have hkeys := builtin.get?_after_ne_none_congr hmem key
    by_cases hnone : (builtin.after queries).get? key = none
    · have hnone' : (builtin.after queries').get? key = none := by
        by_contra hentry
        exact hkeys.2 hentry hnone
      rw [expand_schemaRef_of_get?_eq_none hnone, expand_schemaRef_of_get?_eq_none hnone']
    · have hmeans := expand_schemaRef_after hnone
      have hmeans' := expand_schemaRef_after (hkeys.1 hnone)
      rcases hmeans with ⟨type, hbuiltin, hmeans⟩ | ⟨hnew, q, hq, hname, hmeans⟩
      · rcases hmeans' with ⟨type', hbuiltin', hmeans'⟩ | ⟨hnew, _⟩
        · rw [hbuiltin] at hbuiltin'
          have htype : type = type' := by simpa using hbuiltin'
          rw [hmeans, hmeans', htype]
        · rw [hnew] at hbuiltin
          exact absurd hbuiltin.symm (Option.some_ne_none _)
      · rcases hmeans' with ⟨type', hbuiltin', _⟩ | ⟨_, q', hq', hname', hmeans'⟩
        · rw [hnew] at hbuiltin'
          exact absurd hbuiltin'.symm (Option.some_ne_none _)
        · have hsame : q.site = q'.site :=
            hsite q hq q' ((hmem q').1 hq') (hname.trans hname'.symm)
          rw [hmeans, hmeans', ← hsame]
          -- both are the outline of the key, in which only shorter names stand
          apply expand_outline_congr (TypeName.outline_inside q.site key)
          intro part hpart
          have hshorter : part.length < length := hlength ▸ hpart.2
          exact ih part.length hshorter part rfl

/-- In what order names are resolved does not matter for what the entries say.  Runs of the same
resolutions in two orders register the same names, and the definition of every name expands to the
same value in both registries. -/
theorem expansion_perm (queries queries' : List Query)
    (hsite : ∀ a ∈ queries, ∀ b ∈ queries, a.name = b.name → a.site = b.site)
    (hperm : queries.Perm queries') :
    let r := ((Session.ofRegistry builtin).resolveAll queries).2.registry
    let r' := ((Session.ofRegistry builtin).resolveAll queries').2.registry
    (∀ key, r.contains key = r'.contains key) ∧
      ∀ key schema schema', r.get? key = some schema → r'.get? key = some schema' →
        ∃ e, r.ExpandsTo (schema.definition key) e ∧ r'.ExpandsTo (schema'.definition key) e := by
  dsimp only
  rw [Session.resolveAll_registry, Session.resolveAll_registry]
  change (∀ key, (builtin.after queries).contains key = (builtin.after queries').contains key) ∧ _
  have hmem : ∀ q, q ∈ queries' ↔ q ∈ queries := fun q => hperm.mem_iff.symm
  constructor
  · intro key
    rw [contains_eq_isSome, contains_eq_isSome, Bool.eq_iff_iff, Option.isSome_iff_ne_none,
      Option.isSome_iff_ne_none]
    exact builtin.get?_after_ne_none_congr hmem key
  · intro key schema schema' hget hget'
    have hdescends : (builtin.after queries).Descends := descends_after descends_builtin queries
    have hdescends' : (builtin.after queries').Descends := descends_after descends_builtin queries'
    refine ⟨(builtin.after queries).expand (.schemaRef key), ?_, ?_⟩
    · rw [hdescends.expand_schemaRef_of_get? hget]
      exact hdescends.expandsTo_expand _
    · rw [expand_schemaRef_eq hsite hmem key, hdescends'.expand_schemaRef_of_get? hget']
      exact hdescends'.expandsTo_expand _

/-- A list of lists that is resolved before its inner list takes a reference for its items, and one
that is resolved after it takes a copy of the inner list.  The registries differ, but not in what
they say. -/
theorem expansion_listOfLists :
    let inner : Query := ⟨.rpc, "Vec<u8>"⟩
    let outer : Query := ⟨.call, "Vec<Vec<u8>>"⟩
    let r := ((Session.ofRegistry builtin).resolveAll [inner, outer]).2.registry
    let r' := ((Session.ofRegistry builtin).resolveAll [outer, inner]).2.registry
    (∀ a ∈ [inner, outer], ∀ b ∈ [inner, outer], a.name = b.name → a.site = b.site) ∧
      [inner, outer].Perm [outer, inner] ∧ r ≠ r' ∧
      (∀ key, r.contains key = r'.contains key) ∧
      ∀ key schema schema', r.get? key = some schema → r'.get? key = some schema' →
        ∃ e, r.ExpandsTo (schema.definition key) e ∧ r'.ExpandsTo (schema'.definition key) e := by
  intro inner outer r r'
  have hsite : ∀ a ∈ [inner, outer], ∀ b ∈ [inner, outer], a.name = b.name → a.site = b.site := by
    decide
  have hperm : [inner, outer].Perm [outer, inner] := List.Perm.swap outer inner []
  exact ⟨hsite, hperm, by decide +kernel, expansion_perm _ _ hsite hperm⟩

end Registry
end NodeApi
