import NodeApi.Json.Basic
import NodeApi.Schema.Basic

/-!
# Schemas as JSON

A schema is written in two ways.  Where a type is used it is written by a reference to its name, if
it has one; where a name is defined it is written out, one level deep.

Main results:

- Theorem `usage_reference`: a type that is known by name only is used by that name.
- Theorem `definition_named`: naming a schema does not change what it defines.
-/

namespace NodeApi

/-- Where the definition of a name is found in the document. -/
def schemaPath (name : String) : String :=
  "#/components/schemas/" ++ name

/-- A reference to the definition of a name. -/
def Json.schemaRef (name : String) : Json :=
  .object [("$ref", .string (schemaPath name))]

namespace Schema

/-- The builtin types that are written out where they are used. -/
def inlineNames : List String :=
  ["string", "bool"]

/-- A schema that allows the values of a JSON type. -/
def typeJson (type : JsonType) : Json :=
  .object [("type", .string type.name)]

/-- A schema that allows lists. -/
def listJson (items : Json) : Json :=
  .object [("type", .string "array"), ("items", items)]

/-- A schema that allows objects. -/
def objectJson (properties : Json) (required : List String) : Json :=
  .object [("type", .string "object"), ("properties", properties),
    ("required", .array (required.map .string))]

mutual

/-- A schema where its type is used. -/
def usage : Schema → Json
  | primitive name type => if name ∈ inlineNames then typeJson type else .schemaRef name
  | reference name => .schemaRef name
  | list (some name) _ => .schemaRef name
  | tuple (some name) _ => .schemaRef name
  | list none item => listJson (usage item)
  | tuple none elements => listJson (.array (usageAll elements))
  | object properties required => objectJson (.ofMembers (usageProperties properties)) required

/-- Several schemas where their types are used. -/
def usageAll : List Schema → List Json
  | [] => []
  | schema :: rest => usage schema :: usageAll rest

/-- The properties of an object where their types are used. -/
def usageProperties : List (String × Schema) → List (String × Json)
  | [] => []
  | (key, schema) :: rest => (key, usage schema) :: usageProperties rest

end

/-- A schema where it defines the name `key`. -/
def definition (key : String) : Schema → Json
  | primitive _ type => typeJson type
  | reference name => if name = key then .object [] else .schemaRef name
  | list _ item => listJson (usage item)
  | tuple _ elements => listJson (.array (usageAll elements))
  | object properties required => objectJson (.ofMembers (usageProperties properties)) required

theorem usageAll_eq_map (schemas : List Schema) : usageAll schemas = schemas.map usage := by
  induction schemas with
  | nil => rfl
  | cons schema rest ih => simp [usageAll, ih]

theorem usageProperties_eq_map (properties : List (String × Schema)) :
    usageProperties properties = properties.map fun (key, schema) => (key, usage schema) := by
  induction properties with
  | nil => rfl
  | cons property rest ih => simp [usageProperties, ih]

@[simp]
theorem usage_reference (name : String) : usage (reference name) = .schemaRef name := by
  simp [usage]

/-- Naming a schema does not change what it defines. -/
@[simp]
theorem definition_named (key name : String) (schema : Schema) :
    definition key (schema.named name) = definition key schema := by
  cases schema with
  | list n _ => cases n <;> rfl
  | tuple n _ => cases n <;> rfl
  | _ => rfl

end Schema
end NodeApi
