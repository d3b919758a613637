import NodeApi.Notice
import NodeApi.Schema.Registry
import NodeApi.TypeName.Tuple

/-!
# Resolving type names

A type name is resolved against a registry.  A name that is registered has its registered schema;
any other name is taken apart, and the schema found for it is registered under the whole name.
Names inside of it are looked up but never registered.

Main results:

- Theorem `resolve_of_get?`: a name that is registered is resolved without any effect.
- Theorem `resolve_of_get?_eq_none`: any other name is found a schema for and registered with it.
-/

namespace NodeApi

/-- Where a type name stands.  What is known of the names inside of it is used for call fields
only. -/
inductive Site where
  | rpc
  | call
deriving DecidableEq

/-- What a type name means where it stands. -/
@[ext]
structure Resolution where
  required : Bool
  schema : Schema
deriving DecidableEq

/-- A wrapper taken off a name, if there is one: whether it was there, and the name without it. -/
def TypeName.peel (wrapper : TypeName.Wrapper) (name : String) : Bool × String :=
  match TypeName.unwrap? wrapper.name name with
  | some inner => (true, inner)
  | none => (false, name)

namespace Registry

/-- The schema of the items of a list. -/
def itemSchema (r : Registry) : Site → String → Schema
  | .rpc, name => .reference name
  | .call, name => r.schemaOf name

/-- The schema of a name that is not taken apart, and the notice that nothing is known of it. -/
def leaf (r : Registry) (name : String) : Schema × List Notice :=
  match r.get? name with
  | some (.primitive primitive type) => (.primitive primitive type, [])
  | _ => (.reference name, [.unknownType name])

/-- What a name means that is not registered itself.  An option and a compact form need not be
given; what is inside of a list or a tuple is written as its items. -/
def describe (r : Registry) (site : Site) (name : String) : Resolution × List Notice :=
  let (optional, body) := TypeName.peel .option name
  match TypeName.unwrap? TypeName.Wrapper.vec.name body with
  | some element =>
    let (compact, _) := TypeName.peel .compact element
    (⟨!(optional || compact), .list none (r.itemSchema site element)⟩, [])
  | none =>
    let (compact, core) := TypeName.peel .compact body
    match site, TypeName.tuple? core with
    | .call, some elements => (⟨!(optional || compact), .tuple none (elements.map r.schemaOf)⟩, [])
    | _, _ =>
      let (schema, notices) := r.leaf core
      (⟨!(optional || compact), schema⟩, notices)

end Registry

/-- A run: the registry as it has become, and what was worth telling so far. -/
structure Session where
  registry : Registry
  notices : List Notice

namespace Session

/-- A run that begins with a registry. -/
def ofRegistry (r : Registry) : Session :=
  ⟨r, []⟩

instance : Inhabited Session :=
  ⟨ofRegistry .builtin⟩

/-- The run with one more notice. -/
def tell (s : Session) (notice : Notice) : Session :=
  { s with notices := s.notices ++ [notice] }

/-- The run after a registration, and whether the name was new. -/
def register (s : Session) (name : String) (schema : Schema) : Bool × Session :=
  let (new, registry) := s.registry.register name schema
  (new, { s with registry })

/-- What a name means.  A registered name is always required. -/
def resolve (s : Session) (site : Site) (name : String) : Resolution × Session :=
  match s.registry.get? name with
  | some schema => (⟨true, schema⟩, s)
  | none =>
    let (resolution, notices) := s.registry.describe site name
    (resolution,
      { registry := (s.registry.register name (resolution.schema.named name)).2
        notices := s.notices ++ notices })

/-- Does something with every element of a list in turn. -/
def mapEach {α β : Type} (f : Session → α → β × Session) : Session → List α → List β × Session
  | s, [] => ([], s)
  | s, x :: xs =>
    let (y, s) := f s x
    let (ys, s) := mapEach f s xs
    (y :: ys, s)

/-- A name that is registered is resolved without any effect. -/
theorem resolve_of_get? {s : Session} {name : String} {schema : Schema} (site : Site)
    (h : s.registry.get? name = some schema) : s.resolve site name = (⟨true, schema⟩, s) := by
  simp [resolve, h]

/-- A name that is not registered is described and registered. -/
theorem resolve_of_get?_eq_none {s : Session} {name : String} (site : Site)
    (h : s.registry.get? name = none) :
    s.resolve site name =
      ((s.registry.describe site name).1,
        { registry := (s.registry.register name
            ((s.registry.describe site name).1.schema.named name)).2
          notices := s.notices ++ (s.registry.describe site name).2 }) := by
  simp [resolve, h]

@[simp]
theorem mapEach_nil {α β : Type} (f : Session → α → β × Session) (s : Session) :
    mapEach f s [] = ([], s) :=
  rfl

theorem mapEach_cons {α β : Type} (f : Session → α → β × Session) (s : Session) (x : α)
    (xs : List α) :
    mapEach f s (x :: xs) =
      ((f s x).1 :: (mapEach f (f s x).2 xs).1, (mapEach f (f s x).2 xs).2) :=
  rfl

end Session
end NodeApi
