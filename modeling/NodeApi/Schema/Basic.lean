import NodeApi.Table

/-!
# Schemas

A schema says how a value of a type is written in JSON.  Beyond the builtin types nothing is known
of a type but its name, so most schemas are references.

Main results:

- Definition `Schema.name?`: the name by which a schema can be referred to.
- Definition `Schema.named`: a list or tuple without a name takes the one it is registered under.
-/

namespace NodeApi

/-- The JSON types of the builtin types. -/
inductive JsonType where
  | string
  | integer
  | number
  | boolean
deriving DecidableEq

/-- The name of a JSON type in a schema. -/
def JsonType.name : JsonType → String
  | string => "string"
  | integer => "integer"
  | number => "number"
  | boolean => "boolean"

/-- How a value of a type is written in JSON. -/
inductive Schema where
  /-- A builtin type. -/
  | primitive (name : String) (type : JsonType)
  /-- A type of which only the name is known. -/
  | reference (name : String)
  /-- A list of any length.  It has a name once it is registered. -/
  | list (name : Option String) (item : Schema)
  /-- A list of fixed length. -/
  | tuple (name : Option String) (elements : List Schema)
  /-- An object, with its properties in ascending order of their keys. -/
  | object (properties : List (String × Schema)) (required : List String)
deriving Inhabited

namespace Schema

mutual

/-- Equality of schemas is decided along their structure. -/
def decEq : (a b : Schema) → Decidable (a = b)
  | primitive a s, primitive b t => decidable_of_iff (a = b ∧ s = t) (by simp)
  | reference a, reference b => decidable_of_iff (a = b) (by simp)
  | list a s, list b t =>
    match decEq s t with
    | isTrue h => decidable_of_iff (a = b) (by simp [h])
    | isFalse h => isFalse (by simp [h])
  | tuple a ss, tuple b ts =>
    match decEqAll ss ts with
    | isTrue h => decidable_of_iff (a = b) (by simp [h])
    | isFalse h => isFalse (by simp [h])
  | object ps rs, object qs ss =>
    match decEqProperties ps qs with
    | isTrue h => decidable_of_iff (rs = ss) (by simp [h])
    | isFalse h => isFalse (by simp [h])
  | primitive .., reference _ | primitive .., list .. | primitive .., tuple ..
  | primitive .., object ..
  | reference _, primitive .. | reference _, list .. | reference _, tuple ..
  | reference _, object ..
  | list .., primitive .. | list .., reference _ | list .., tuple .. | list .., object ..
  | tuple .., primitive .. | tuple .., reference _ | tuple .., list .. | tuple .., object ..
  | object .., primitive .. | object .., reference _ | object .., list ..
  | object .., tuple .. => isFalse (by simp)

/-- Equality of element lists. -/
def decEqAll : (as bs : List Schema) → Decidable (as = bs)
  | [], [] => isTrue rfl
  | [], _ :: _ | _ :: _, [] => isFalse (by simp)
  | a :: as, b :: bs =>
    match decEq a b, decEqAll as bs with
    | isTrue h, isTrue hs => isTrue (by rw [h, hs])
    | isFalse h, _ => isFalse (by simp [h])
    | _, isFalse hs => isFalse (by simp [hs])

/-- Equality of property lists. -/
def decEqProperties : (as bs : List (String × Schema)) → Decidable (as = bs)
  | [], [] => isTrue rfl
  | [], _ :: _ | _ :: _, [] => isFalse (by simp)
  | (k, a) :: as, (l, b) :: bs =>
    match decEq a b, decEqProperties as bs with
    | isTrue h, isTrue hs => decidable_of_iff (k = l) (by simp [h, hs])
    | isFalse h, _ => isFalse (by simp [h])
    | _, isFalse hs => isFalse (by simp [hs])

end

instance : DecidableEq Schema :=
  decEq

/-- An object schema with the given properties; of two with one key, the last counts. -/
def ofProperties (properties : List (String × Schema)) (required : List String) : Schema :=
  object (Table.ofList properties).entries required

/-- The name by which a schema can be referred to. -/
def name? : Schema → Option String
  | primitive name _ => some name
  | reference name => some name
  | list name _ => name
  | tuple name _ => name
  | object _ _ => none

/-- Whether the schema is that of a builtin type. -/
def isPrimitive : Schema → Bool
  | primitive _ _ => true
  | _ => false

/-- The schema as it is registered under a key: a list or tuple without a name takes the key. -/
def named (key : String) : Schema → Schema
  | list none item => list (some key) item
  | tuple none elements => tuple (some key) elements
  | schema => schema

end Schema
end NodeApi
