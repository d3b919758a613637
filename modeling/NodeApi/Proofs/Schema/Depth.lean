import NodeApi.Proofs.Json.RoundTrip
import NodeApi.Proofs.Schema.Form
import NodeApi.Proofs.Schema.Run

/-!
# How schemas are written

Any schema is written as a value of the right form to be read back.  In a run that begins with the
builtin types it is also written flat: a list or tuple may be made of copies of other lists, and
these of copies again, but each copy has a name and is written by it.

Main results:

- Theorem `exact_usage`: what a schema is used by has no key twice.
- Theorem `shallow_resolved`: a resolution keeps the entries flat.
- Theorem `Shallow.depth_meaning`: what a parameter shows of its type is at most three levels deep.
-/

namespace NodeApi

/-! ## Parts of schemas -/

namespace Json

theorem depth_strings_le (texts : List String) : (array (texts.map .string)).depth ≤ 1 := by
  rw [depth_array_le_iff]
  intro element helement
  rcases List.mem_map.1 helement with ⟨text, _, rfl⟩
  exact Nat.le_refl 0

theorem exact_strings (texts : List String) : Exact (array (texts.map .string)) := by
  refine .array fun element helement => ?_
  rcases List.mem_map.1 helement with ⟨text, _, rfl⟩
  exact .string text

theorem depth_schemaRef (name : String) : (schemaRef name).depth = 1 :=
  rfl

theorem exact_schemaRef (name : String) : Exact (schemaRef name) := by
  refine .object (by simp [Entries.keys]) ?_
  intro member hmember
  rw [List.mem_singleton.1 hmember]
  exact .string _

end Json

open Json (Exact)

namespace Schema

/-! ## Schemas as values -/

theorem depth_typeJson (type : JsonType) : (typeJson type).depth = 1 :=
  rfl

theorem depth_listJson (items : Json) : (listJson items).depth = items.depth + 1 := by
  simp [listJson, Json.depth, Json.depthMembers]

theorem exact_typeJson (type : JsonType) : Exact (typeJson type) := by
  refine .object (by simp [Entries.keys]) ?_
  intro member hmember
  rw [List.mem_singleton.1 hmember]
  exact .string _

theorem exact_listJson {items : Json} (h : Exact items) : Exact (listJson items) := by
  refine .object (by simp [Entries.keys]) ?_
  simp only [List.forall_mem_cons]
  exact ⟨.string _, h, by simp⟩

theorem exact_objectJson {properties : Json} (h : Exact properties) (required : List String) :
    Exact (objectJson properties required) := by
  refine .object (by simp [Entries.keys]) ?_
  simp only [List.forall_mem_cons]
  exact ⟨.string _, h, Json.exact_strings required, by simp⟩

/-- What holds of a schema if it holds of all that it is made of holds of every schema. -/
@[elab_as_elim]
theorem children_induction {P : Schema → Prop}
    (h : ∀ schema : Schema, (∀ child ∈ schema.children, P child) → P schema) (schema : Schema) :
    P schema := by
  refine @Schema.rec P (fun elements => ∀ element ∈ elements, P element)
    (fun properties => ∀ property ∈ properties, P property.2) (fun property => P property.2)
    ?_ ?_ ?_ ?_ ?_ ?_ ?_ ?_ ?_ ?_ schema
  · exact fun name type => h _ (by simp [children])
  · exact fun name => h _ (by simp [children])
  · exact fun name item hitem => h _ (by simpa [children] using hitem)
  · exact fun name elements helements => h _ helements
  · intro properties required hproperties
    apply h
    intro child hchild
    rcases List.mem_map.1 hchild with ⟨property, hproperty, rfl⟩
    exact hproperties property hproperty
  · simp
  · exact fun element elements helement helements => List.forall_mem_cons.2 ⟨helement, helements⟩
  · simp
  · exact fun property properties hproperty hproperties =>
      List.forall_mem_cons.2 ⟨hproperty, hproperties⟩
  · exact fun key schema hschema => hschema

theorem exact_usageAll {schemas : List Schema} (h : ∀ schema ∈ schemas, Exact schema.usage) :
    Exact (.array (usageAll schemas)) := by
  refine .array fun element helement => ?_
  rw [usageAll_eq_map] at helement
  rcases List.mem_map.1 helement with ⟨schema, hschema, rfl⟩
  exact h schema hschema

theorem exact_usageProperties {properties : List (String × Schema)}
    (h : ∀ schema ∈ properties.map (·.2), Exact schema.usage) :
    Exact (.ofMembers (usageProperties properties)) := by
  refine Json.exact_ofMembers fun member hmember => ?_
  rw [usageProperties_eq_map] at hmember
  rcases List.mem_map.1 hmember with ⟨property, hproperty, rfl⟩
  exact h property.2 (List.mem_map_of_mem hproperty)

/-- What a schema is used by has the right form to be read back. -/
theorem exact_usage (schema : Schema) : Exact schema.usage := by
  induction schema using children_induction with
  | h schema ih =>
    cases schema with
    | primitive name type =>
      rw [usage]
      split
      · exact exact_typeJson type
      · exact Json.exact_schemaRef name
    | reference name => exact Json.exact_schemaRef name
    | list name item =>
      cases name with
      | none => exact exact_listJson (ih item List.mem_cons_self)
      | some name => exact Json.exact_schemaRef name
    | tuple name elements =>
      cases name with
      | none => exact exact_listJson (exact_usageAll ih)
      | some name => exact Json.exact_schemaRef name
    | object properties required =>
      exact exact_objectJson (exact_usageProperties ih) required

/-- What a schema defines has the right form to be read back. -/
theorem exact_definition (key : String) (schema : Schema) : Exact (schema.definition key) := by
  cases schema with
  | primitive name type => exact exact_typeJson type
  | reference name =>
    rw [definition]
    split
    · exact .object (by simp [Entries.keys]) (by simp)
    · exact Json.exact_schemaRef name
  | list name item => exact exact_listJson (exact_usage item)
  | tuple name elements => exact exact_listJson (exact_usageAll fun schema _ => exact_usage schema)
  | object properties required =>
    exact exact_objectJson (exact_usageProperties fun schema _ => exact_usage schema) required

/-! ## Flat schemas -/

/-- A schema that is used without going deeper, and is defined by such schemas at most. -/
structure Shallow (schema : Schema) : Prop where
  usage : schema.usage.depth ≤ 1
  definition : ∀ key, (schema.definition key).depth ≤ 3

theorem shallow_primitive (name : String) (type : JsonType) : Shallow (primitive name type) where
  usage := by
    rw [Schema.usage]
    split
    · exact Nat.le_of_eq (depth_typeJson type)
    · exact Nat.le_of_eq (Json.depth_schemaRef name)
  definition key := by
    rw [Schema.definition, depth_typeJson]
    omega

theorem shallow_reference (name : String) : Shallow (reference name) where
  usage := Nat.le_of_eq (Json.depth_schemaRef name)
  definition key := by
    rw [Schema.definition]
    split
    · simp [Json.depth, Json.depthMembers]
    · rw [Json.depth_schemaRef]
      omega

/-- A list or tuple is flat under its name if what it is made of is used without going deeper. -/
theorem Nameless.shallow_named {schema : Schema} (h : schema.Nameless)
    (hchildren : ∀ child ∈ schema.children, child.usage.depth ≤ 1) (key : String) :
    Shallow (schema.named key) where
  usage := by
    rw [h.usage_named]
    exact Nat.le_of_eq (Json.depth_schemaRef key)
  definition other := by
    rw [definition_named]
    rcases h.cases with ⟨item, rfl⟩ | ⟨elements, rfl⟩
    · have hitem := hchildren item List.mem_cons_self
      rw [Schema.definition, depth_listJson]
      omega
    · have helements : (Json.array (usageAll elements)).depth ≤ 1 + 1 := by
        rw [Json.depth_array_le_iff, usageAll_eq_map]
        intro element helement
        rcases List.mem_map.1 helement with ⟨schema, hschema, rfl⟩
        exact hchildren schema hschema
      rw [Schema.definition, depth_listJson]
      omega

end Schema

open Schema

namespace Registry

/-- Every entry is flat. -/
def Shallow (r : Registry) : Prop :=
  ∀ ⦃key : String⦄ ⦃schema : Schema⦄, r.get? key = some schema → schema.Shallow

/-- What stands for a name is used without going deeper. -/
theorem Shallow.depth_of_stands {r : Registry} (h : r.Shallow) {name : String} {schema : Schema}
    (hstands : r.Stands name schema) : schema.usage.depth ≤ 1 := by
  rcases hstands with rfl | hget
  · exact (shallow_reference name).usage
  · exact (h hget).usage

/-- A filled-in outline is flat itself, or it is a list or tuple that is flat under a name. -/
theorem Shallow.fill_cases {r : Registry} (h : r.Shallow) (site : Site)
    (outline : TypeName.Outline) :
    (r.fill site outline).Shallow ∧ (r.fill site outline).isArray = false ∨
      (r.fill site outline).Nameless ∧ ∀ key, ((r.fill site outline).named key).Shallow := by
  cases outline with
  | list item =>
    right
    have hnameless : (r.fill site (.list item)).Nameless := ⟨rfl, rfl⟩
    refine ⟨hnameless, hnameless.shallow_named ?_⟩
    intro child hchild
    rw [fill, children, List.mem_singleton] at hchild
    rw [hchild]
    exact h.depth_of_stands (r.itemSchema_stands site item)
  | tuple elements =>
    right
    have hnameless : (r.fill site (.tuple elements)).Nameless := ⟨rfl, rfl⟩
    refine ⟨hnameless, hnameless.shallow_named ?_⟩
    intro child hchild
    rw [fill, children, List.mem_map] at hchild
    rcases hchild with ⟨element, _, rfl⟩
    exact h.depth_of_stands (r.schemaOf_stands element)
  | name core =>
    left
    rcases r.leaf_cases core with hleaf | ⟨primitive, type, hleaf, _⟩
    · rw [fill, hleaf]
      exact ⟨shallow_reference core, rfl⟩
    · rw [fill, hleaf]
      exact ⟨shallow_primitive primitive type, rfl⟩

theorem shallow_builtin : Shallow builtin := by
  intro key schema h
  rcases get?_builtin h with ⟨type, rfl⟩
  exact shallow_primitive key type

/-- A resolution keeps the entries flat. -/
theorem shallow_resolved {r : Registry} (h : r.Shallow) (site : Site) (name : String) :
    (r.resolved site name).Shallow := by
  intro key schema hget
  rcases get?_resolved_cases hget with hold | ⟨rfl, _, rfl⟩
  · exact h hold
  · rcases h.fill_cases site (TypeName.outline site key) with ⟨hshallow, hother⟩ | ⟨_, hnamed⟩
    · rwa [named_of_isArray_eq_false hother]
    · exact hnamed key

theorem shallow_after {r : Registry} (h : r.Shallow) (queries : List Query) :
    (r.after queries).Shallow := by
  apply after_induction (P := Shallow)
  · intro r site name hr
    exact shallow_resolved hr site name
  · exact h

/-- An answer is used by no more than three levels: those of a tuple, its elements and their
names. -/
theorem Shallow.depth_meaning {r : Registry} (h : r.Shallow) (site : Site) (name : String) :
    (r.meaning site name).schema.usage.depth ≤ 3 := by
  cases hname : r.get? name with
  | some schema =>
    have husage := (h hname).usage
    rw [meaning_of_get? site hname]
    dsimp only
    omega
  | none =>
    rw [meaning_schema_of_get?_eq_none site hname]
    rcases h.fill_cases site (TypeName.outline site name) with ⟨hshallow, _⟩ | ⟨hnameless, hnamed⟩
    · have husage := hshallow.usage
      omega
    · have hdefinition := (hnamed name).definition name
      rwa [definition_named, ← hnameless.usage_eq_definition] at hdefinition

end Registry
end NodeApi
