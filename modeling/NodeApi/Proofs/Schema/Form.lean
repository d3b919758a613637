import NodeApi.Proofs.Json.References

/-!
# Forms of schemas

A schema is made of other schemas, and those may have names of their own.  A list or tuple has no
name before it is registered; until then it is written out where it is used, and afterwards it is
written by its name.

Main results:

- Theorem `eq_of_occurs`: nothing stands inside of a builtin type or a reference.
- Theorem `Nameless.usage_eq_definition`: a list or tuple without a name is used as it is defined.
- Theorem `usage_of_name?`: with a name it is used by this name.
- Theorem `name?_of_usage`: what is used by a name has this name.
-/

namespace NodeApi
namespace Schema

/-! ## What a schema is made of -/

/-- The schemas that a schema is made of. -/
def children : Schema → List Schema
  | primitive _ _ => []
  | reference _ => []
  | list _ item => [item]
  | tuple _ elements => elements
  | object properties _ => properties.map (·.2)

/-- A schema stands somewhere inside of another one, or is the whole of it. -/
inductive Occurs (node : Schema) : Schema → Prop where
  | here : Occurs node node
  | inside {child schema : Schema} :
      child ∈ schema.children → Occurs node child → Occurs node schema

/-- Nothing stands inside of a schema that is made of none. -/
theorem eq_of_occurs {node schema : Schema} (hleaf : schema.children = [])
    (h : Occurs node schema) : node = schema := by
  cases h with
  | here => rfl
  | inside hchild _ =>
    rw [hleaf] at hchild
    exact absurd hchild List.not_mem_nil

@[simp]
theorem children_named (key : String) (schema : Schema) :
    (schema.named key).children = schema.children := by
  cases schema with
  | list name item => cases name <;> rfl
  | tuple name elements => cases name <;> rfl
  | _ => rfl

/-! ## Lists and tuples -/

/-- Whether a schema is that of a list or tuple. -/
def isArray : Schema → Bool
  | list _ _ => true
  | tuple _ _ => true
  | _ => false

/-- A list or tuple that has no name. -/
def Nameless (schema : Schema) : Prop :=
  schema.isArray = true ∧ schema.name? = none

@[simp]
theorem isArray_named (key : String) (schema : Schema) :
    (schema.named key).isArray = schema.isArray := by
  cases schema with
  | list name item => cases name <;> rfl
  | tuple name elements => cases name <;> rfl
  | _ => rfl

theorem named_of_isArray_eq_false {schema : Schema} (h : schema.isArray = false) (key : String) :
    schema.named key = schema := by
  cases schema with
  | list name item => simp [isArray] at h
  | tuple name elements => simp [isArray] at h
  | _ => rfl

theorem Nameless.cases {schema : Schema} (h : schema.Nameless) :
    (∃ item, schema = list none item) ∨ ∃ elements, schema = tuple none elements := by
  rcases h with ⟨harray, hname⟩
  cases schema with
  | list name item =>
    rw [name?] at hname
    exact Or.inl ⟨item, by rw [hname]⟩
  | tuple name elements =>
    rw [name?] at hname
    exact Or.inr ⟨elements, by rw [hname]⟩
  | _ => simp [isArray] at harray

theorem Nameless.name?_named {schema : Schema} (h : schema.Nameless) (key : String) :
    (schema.named key).name? = some key := by
  rcases h.cases with ⟨item, rfl⟩ | ⟨elements, rfl⟩
  · rfl
  · rfl

/-- A list or tuple without a name is used as it is defined. -/
theorem Nameless.usage_eq_definition {schema : Schema} (h : schema.Nameless) (key : String) :
    schema.usage = schema.definition key := by
  rcases h.cases with ⟨item, rfl⟩ | ⟨elements, rfl⟩
  · rw [usage, definition]
  · rw [usage, definition]

/-- A list or tuple with a name is used by this name. -/
theorem usage_of_name? {schema : Schema} {key : String} (harray : schema.isArray = true)
    (hname : schema.name? = some key) : schema.usage = .schemaRef key := by
  cases schema with
  | list name item =>
    rw [name?] at hname
    rw [hname, usage]
  | tuple name elements =>
    rw [name?] at hname
    rw [hname, usage]
  | _ => simp [isArray] at harray

/-- A list or tuple that takes a name is used by this name. -/
theorem Nameless.usage_named {schema : Schema} (h : schema.Nameless) (key : String) :
    (schema.named key).usage = .schemaRef key := by
  have harray : (schema.named key).isArray = true := (isArray_named key schema).trans h.1
  exact usage_of_name? harray (h.name?_named key)

/-- A list or tuple is not defined by a reference. -/
theorem definition_ne_schemaRef {schema : Schema} (harray : schema.isArray = true)
    (key name : String) : schema.definition key ≠ .schemaRef name := by
  cases schema with
  | list _ item => simp [definition, listJson, Json.schemaRef]
  | tuple _ elements => simp [definition, listJson, Json.schemaRef]
  | _ => simp [isArray] at harray

/-! ## Names in use -/

/-- What is used by a name has this name. -/
theorem name?_of_usage {node : Schema} {name : String} (h : node.usage = .schemaRef name) :
    node.name? = some name := by
  cases node with
  | primitive other type =>
    by_cases hinline : other ∈ inlineNames
    · simp [usage, hinline, typeJson, Json.schemaRef] at h
    · simp only [usage, hinline, if_false] at h
      rw [name?, Json.schemaRef_inj h]
  | reference other =>
    simp only [usage] at h
    rw [name?, Json.schemaRef_inj h]
  | list other item =>
    cases other with
    | none => simp [usage, listJson, Json.schemaRef] at h
    | some other =>
      simp only [usage] at h
      rw [name?, Json.schemaRef_inj h]
  | tuple other elements =>
    cases other with
    | none => simp [usage, listJson, Json.schemaRef] at h
    | some other =>
      simp only [usage] at h
      rw [name?, Json.schemaRef_inj h]
  | object properties required => simp [usage, objectJson, Json.schemaRef] at h

/-- A builtin type is used by no name but its own. -/
theorem refs_usage_primitive {primitive name : String} {type : JsonType}
    (h : name ∈ (Schema.primitive primitive type).usage.refs) : name = primitive := by
  rw [usage] at h
  by_cases hinline : primitive ∈ inlineNames
  · rw [if_pos hinline] at h
    simp at h
  · rw [if_neg hinline] at h
    simpa using h

end Schema
end NodeApi
