import NodeApi.Schema.Written
import NodeApi.Text.CaseMaps

/-!
# The registry of schemas

The registry holds one schema for each name.  A name that is registered keeps its schema for good.

Main results:

- Theorem `get?_register`: registering a name gives it a schema if it had none, and touches no
  other name.
- Theorem `register_of_contains`: a name that is there is not registered again.
- Theorem `sorted_perm`: the sorted listing holds every entry once.
-/

namespace NodeApi

/-- One schema for each registered name. -/
structure Registry where
  entries : Table String Schema
deriving DecidableEq

namespace Registry

/-- The builtin types. -/
def builtinTypes : List (String × JsonType) :=
  [("bool", .boolean), ("string", .string), ("Text", .string), ("Bytes", .string),
    ("u8", .integer), ("u16", .integer), ("u32", .integer), ("u64", .integer), ("u128", .integer),
    ("i8", .integer), ("i16", .integer), ("i32", .integer), ("i64", .integer), ("i128", .integer),
    ("f32", .number), ("f64", .number)]

/-- The registry without any name. -/
def empty : Registry :=
  ⟨.empty⟩

/-- The registry of the builtin types. -/
def builtin : Registry :=
  ⟨.ofList (builtinTypes.map fun (name, type) => (name, .primitive name type))⟩

instance : Inhabited Registry :=
  ⟨builtin⟩

/-- The schema of a name. -/
def get? (r : Registry) (name : String) : Option Schema :=
  r.entries.get? name

/-- Whether a name is registered. -/
def contains (r : Registry) (name : String) : Bool :=
  r.entries.contains name

/-- The number of names. -/
def size (r : Registry) : Nat :=
  r.entries.size

/-- Whether no name is registered. -/
def isEmpty (r : Registry) : Bool :=
  r.entries.isEmpty

/-- Registers a name, unless it is there already; and tells whether it was new. -/
def register (r : Registry) (name : String) (schema : Schema) : Bool × Registry :=
  (!r.contains name, ⟨r.entries.insertNew name schema⟩)

/-- The schema of a name, or a reference to it. -/
def schemaOf (r : Registry) (name : String) : Schema :=
  (r.get? name).getD (.reference name)

/-- The order of names in a document: by their small letters, then by themselves. -/
def nameLE (a b : String) : Bool :=
  let (x, y) := (Text.lowercase a, Text.lowercase b)
  x < y || (x == y && a ≤ b)

/-- The entries in the order of a document. -/
def sorted (r : Registry) : List (String × Schema) :=
  r.entries.entries.mergeSort fun a b => nameLE a.1 b.1

/-- The definitions of all names. -/
def toJson (r : Registry) : Json :=
  .object (r.sorted.map fun (name, schema) => (name, schema.definition name))

@[simp]
theorem get?_empty (name : String) : empty.get? name = none :=
  rfl

theorem contains_eq_isSome (r : Registry) (name : String) :
    r.contains name = (r.get? name).isSome :=
  rfl

/-- Registering a name gives it a schema if it had none, and touches no other name. -/
theorem get?_register (r : Registry) (name : String) (schema : Schema) (key : String) :
    (r.register name schema).2.get? key =
      if key = name then some ((r.get? name).getD schema) else r.get? key :=
  Table.get?_insertNew _ _ _ _

/-- A name that is there is not registered again. -/
theorem register_of_contains {r : Registry} {name : String} (schema : Schema)
    (h : r.contains name = true) : r.register name schema = (false, r) := by
  have h' : r.entries.contains name = true := h
  simp [register, h, Table.insertNew, h']

/-- The sorted listing holds every entry once. -/
theorem sorted_perm (r : Registry) : r.sorted.Perm r.entries.entries :=
  List.mergeSort_perm _ _

end Registry
end NodeApi
