import NodeApi.Proofs.Schema.Form
import NodeApi.Proofs.Schema.Run

/-!
# Definitions refer to shorter names

In a run that begins with the builtin types, every name that an entry is written with stands inside
of the key of the entry, however often the entry has been copied.  The names in the definition of a
key are moreover shorter than the key, since the key itself is never among them.

Main results:

- Theorem `mem_toJson_iff`: the written schemas are the definitions of the entries.
- Theorem `Descends.refs_of_stands`: what stands for a name is written with parts of this name.
- Theorem `descends_resolved`: a resolution keeps the names inside of their keys.
- Theorem `descends_after`: so does every run.
-/

namespace NodeApi

open NodeApi.TypeName (PartOf ProperPart)

/-! ## What names are defined as -/

namespace Registry

/-- What a name is defined as. -/
def definition? (r : Registry) (name : String) : Option Json :=
  (r.get? name).map (·.definition name)

theorem definition?_of_get? {r : Registry} {name : String} {schema : Schema}
    (h : r.get? name = some schema) : r.definition? name = some (schema.definition name) := by
  rw [definition?, h, Option.map_some]

theorem definition?_of_get?_eq_none {r : Registry} {name : String} (h : r.get? name = none) :
    r.definition? name = none := by
  rw [definition?, h, Option.map_none]

/-- The written schemas are the definitions of the entries. -/
theorem mem_toJson_iff {r : Registry} {members : List (String × Json)}
    (h : r.toJson = .object members) {key : String} {j : Json} :
    (key, j) ∈ members ↔ r.definition? key = some j := by
  rw [toJson, Json.object.injEq] at h
  subst h
  rw [List.mem_map, definition?, Option.map_eq_some_iff]
  constructor
  · rintro ⟨⟨name, schema⟩, hmem, heq⟩
    rcases Prod.mk.inj heq with ⟨rfl, rfl⟩
    exact ⟨schema, (Table.mem_entries_iff _).1 (r.sorted_perm.mem_iff.1 hmem), rfl⟩
  · rintro ⟨schema, hget, rfl⟩
    exact ⟨(key, schema), r.sorted_perm.mem_iff.2 ((Table.mem_entries_iff _).2 hget), rfl⟩

end Registry

/-! ## Names inside of their keys -/

namespace Schema

/-- An entry is used by names inside of its key and defined by names that are also shorter. -/
structure RefersInside (key : String) (schema : Schema) : Prop where
  usage : ∀ name ∈ schema.usage.refs, PartOf name key
  definition : ∀ name ∈ (schema.definition key).refs, ProperPart name key

theorem refersInside_primitive (key : String) (type : JsonType) :
    RefersInside key (.primitive key type) where
  usage := by
    intro name h
    rw [refs_usage_primitive h]
    exact PartOf.refl key
  definition := by
    intro name h
    rw [Schema.definition, refs_typeJson] at h
    exact absurd h List.not_mem_nil

/-- A reference to a name inside of a key refers to no other name. -/
theorem refersInside_reference {name key : String} (h : PartOf name key) :
    RefersInside key (.reference name) := by
  constructor
  · intro other hother
    rw [usage_reference, Json.refs_schemaRef] at hother
    rwa [List.mem_singleton.1 hother]
  · intro other hother
    rw [Schema.definition] at hother
    by_cases hself : name = key
    · -- a name that stands for itself is defined without any reference
      rw [if_pos hself] at hother
      simp [Json.refs, Json.refName?] at hother
    · rw [if_neg hself, Json.refs_schemaRef] at hother
      rw [List.mem_singleton.1 hother]
      exact h.proper_of_ne hself

/-- A list or tuple that takes the name of its key refers inside of it if its definition does. -/
theorem Nameless.refersInside_named {schema : Schema} (h : schema.Nameless) {key : String}
    (hdefinition : ∀ name ∈ (schema.definition key).refs, ProperPart name key) :
    RefersInside key (schema.named key) := by
  constructor
  · intro name hname
    rw [h.usage_named, Json.refs_schemaRef] at hname
    rw [List.mem_singleton.1 hname]
    exact PartOf.refl key
  · intro name hname
    rw [definition_named] at hname
    exact hdefinition name hname

end Schema

open Schema

/-! ## Descending registries -/

namespace Registry

/-- Every entry refers to names inside of its key. -/
def Descends (r : Registry) : Prop :=
  ∀ ⦃key : String⦄ ⦃schema : Schema⦄, r.get? key = some schema → schema.RefersInside key

/-- What stands for a name is written with parts of this name. -/
theorem Descends.refs_of_stands {r : Registry} (h : r.Descends) {name part : String}
    {schema : Schema} (hstands : r.Stands name schema) (hpart : part ∈ schema.usage.refs) :
    PartOf part name := by
  rcases hstands with rfl | hget
  · rw [usage_reference, Json.refs_schemaRef] at hpart
    rw [List.mem_singleton.1 hpart]
    exact PartOf.refl name
  · exact (h hget).usage part hpart

/-- A filled-in outline of names inside of a key refers to names inside of this key. -/
theorem Descends.refersInside_fill {r : Registry} (h : r.Descends) (site : Site) {key : String}
    {outline : TypeName.Outline} (hinside : outline.Inside key) :
    RefersInside key ((r.fill site outline).named key) := by
  cases outline with
  | list item =>
    have hnameless : (r.fill site (.list item)).Nameless := ⟨rfl, rfl⟩
    apply hnameless.refersInside_named
    intro name hname
    rw [fill, definition, refs_listJson] at hname
    exact (h.refs_of_stands (r.itemSchema_stands site item) hname).trans_proper hinside
  | tuple elements =>
    have hnameless : (r.fill site (.tuple elements)).Nameless := ⟨rfl, rfl⟩
    apply hnameless.refersInside_named
    intro name hname
    rw [fill, definition, refs_listJson, usageAll_eq_map, Json.refs_array] at hname
    simp only [List.mem_flatMap, List.mem_map] at hname
    rcases hname with ⟨_, ⟨_, ⟨element, helement, rfl⟩, rfl⟩, hname⟩
    exact (h.refs_of_stands (r.schemaOf_stands element) hname).trans_proper
      (hinside element helement)
  | name core =>
    have hcore : PartOf core key := hinside
    rcases r.leaf_cases core with hleaf | ⟨primitive, type, hleaf, hget⟩
    · rw [fill, hleaf]
      exact refersInside_reference hcore
    · rw [fill, hleaf]
      constructor
      · intro name hname
        exact ((h hget).usage name hname).trans hcore
      · intro name hname
        rw [definition_named, definition, refs_typeJson] at hname
        exact absurd hname List.not_mem_nil

theorem descends_builtin : Descends builtin := by
  intro key schema h
  rcases get?_builtin h with ⟨type, rfl⟩
  exact refersInside_primitive key type

/-- A resolution keeps the names inside of their keys. -/
theorem descends_resolved {r : Registry} (h : r.Descends) (site : Site) (name : String) :
    (r.resolved site name).Descends := by
  intro key schema hget
  rcases get?_resolved_cases hget with hold | ⟨rfl, _, rfl⟩
  · exact h hold
  · exact h.refersInside_fill site (TypeName.outline_inside site key)

theorem descends_after {r : Registry} (h : r.Descends) (queries : List Query) :
    (r.after queries).Descends := by
  apply after_induction (P := Descends)
  · intro r site name hr
    exact descends_resolved hr site name
  · exact h

/-- What a name is defined as refers to shorter names. -/
theorem Descends.refs_definition? {r : Registry} (h : r.Descends) {key name : String} {j : Json}
    (hj : r.definition? key = some j) (hname : name ∈ j.refs) : ProperPart name key := by
  rw [definition?, Option.map_eq_some_iff] at hj
  rcases hj with ⟨schema, hget, rfl⟩
  exact (h hget).definition name hname

end Registry
end NodeApi
