import NodeApi.Json.Printer
import NodeApi.Proofs.Schema.Run
import NodeApi.Rpc.Methods

/-!
# Operations on a registry

A name is registered with any schema at all, or it is resolved, for itself or as the type of a
parameter.  Whatever is done is about one name: it gives this name a schema if it had none and
touches no other name.

Main results:

- Theorem `perform_registry`: every operation registers the name it is about.
- Theorem `perform_of_get?`: an operation on a registered name answers its schema and changes
  nothing.
- Theorem `get?_performAll_iff`: the entries of a run are the old ones and those that were registered
  when their names were new.
- Theorem `get?_performAll_ne_none_iff`: the names of a run are the old ones and those that the
  operations are about.
-/

namespace NodeApi

/-! ## Operations and their answers -/

/-- What is done with a registry. -/
inductive Operation where
  /-- Registers a name with a schema. -/
  | register (name : String) (schema : Schema)
  /-- Resolves a type name where it stands. -/
  | resolve (site : Site) (name : String)
  /-- Describes a parameter of a method. -/
  | describe (param : Rpc.Param)

/-- What an operation answers. -/
inductive Answer where
  /-- Whether the name was new. -/
  | registered (new : Bool)
  | resolved (resolution : Resolution)
  | described (param : ParamEntry)
deriving DecidableEq

/-- The schema of an answer as it is written where it is used. -/
def Answer.usageText? : Answer → Option String
  | registered _ => none
  | resolved resolution => some resolution.schema.usage.compact
  | described param => some param.schema.usage.compact

namespace Operation

/-- The name that an operation is about. -/
def name : Operation → String
  | register name _ => name
  | resolve _ name => name
  | describe param => param.type

/-- The schema that an operation has for its name if the name is new. -/
def schema (r : Registry) : Operation → Schema
  | register _ schema => schema
  | resolve site name => (r.fill site (TypeName.outline site name)).named name
  | describe param => (r.fill .rpc (TypeName.outline .rpc param.type)).named param.type

/-- What an operation answers if its name has a schema. -/
def reply (schema : Schema) : Operation → Answer
  | register _ _ => .registered false
  | resolve _ _ => .resolved ⟨true, schema⟩
  | describe param => .described (.ofResolution param.name param.type ⟨!param.isOptional, schema⟩)

/-- What an operation on a known name writes is the schema of this name, if it writes anything. -/
theorem usageText?_reply {schema : Schema} {op : Operation} {text : String}
    (h : (op.reply schema).usageText? = some text) : text = schema.usage.compact := by
  cases op with
  | register _ _ => exact absurd h.symm (Option.some_ne_none text)
  | resolve _ _ => exact (Option.some.inj h).symm
  | describe _ => exact (Option.some.inj h).symm

end Operation

namespace Session

/-- Does one thing with a registry. -/
def perform (s : Session) : Operation → Answer × Session
  | .register name schema =>
    let (new, s) := s.register name schema
    (.registered new, s)
  | .resolve site name =>
    let (resolution, s) := s.resolve site name
    (.resolved resolution, s)
  | .describe param =>
    let (entry, s) := Rpc.describeParam s param
    (.described entry, s)

/-- Does one thing after the other. -/
def performAll (s : Session) (ops : List Operation) : List Answer × Session :=
  s.mapEach perform ops

end Session

/-! ## One operation -/

theorem Registry.resolved_eq_register (r : Registry) (site : Site) (name : String) :
    r.resolved site name =
      (r.register name ((r.fill site (TypeName.outline site name)).named name)).2 := by
  cases h : r.get? name with
  | some schema =>
    have hcontains : r.contains name = true := by simp [contains_eq_isSome, h]
    rw [resolved_of_get? site h, register_of_contains _ hcontains]
  | none => rw [resolved, meaning_schema_of_get?_eq_none site h]

namespace Session

/-- Every operation registers the name it is about, with what it has for a new name. -/
theorem perform_registry (s : Session) (op : Operation) :
    (s.perform op).2.registry = (s.registry.register op.name (op.schema s.registry)).2 := by
  cases op with
  | register name schema => rfl
  | resolve site name =>
    exact (s.resolve_registry site name).trans (s.registry.resolved_eq_register site name)
  | describe param =>
    exact (s.resolve_registry .rpc param.type).trans
      (s.registry.resolved_eq_register .rpc param.type)

/-- An operation gives its name a schema if it had none, and touches no other name. -/
theorem get?_perform (s : Session) (op : Operation) (key : String) :
    (s.perform op).2.registry.get? key =
      if key = op.name then some ((s.registry.get? op.name).getD (op.schema s.registry))
      else s.registry.get? key := by
  rw [perform_registry, Registry.get?_register]

/-- An operation on a registered name answers its schema and changes nothing. -/
theorem perform_of_get? {s : Session} {op : Operation} {schema : Schema}
    (h : s.registry.get? op.name = some schema) : s.perform op = (op.reply schema, s) := by
  cases op with
  | register name new =>
    have hcontains : s.registry.contains name = true := by
      rw [Registry.contains_eq_isSome]
      exact Option.isSome_of_eq_some h
    simp only [perform, register, Registry.register_of_contains new hcontains, Operation.reply]
  | resolve site name =>
    have hresolve : s.resolve site name = (⟨true, schema⟩, s) := resolve_of_get? site h
    simp only [perform, hresolve, Operation.reply]
  | describe param =>
    have hresolve : s.resolve .rpc param.type = (⟨true, schema⟩, s) := resolve_of_get? .rpc h
    simp only [perform, Rpc.describeParam, hresolve, Operation.reply, Bool.true_and]

/-! ## Runs of operations -/

theorem mapEach_append {α β : Type} (f : Session → α → β × Session) (s : Session)
    (xs ys : List α) :
    s.mapEach f (xs ++ ys) =
      ((s.mapEach f xs).1 ++ ((s.mapEach f xs).2.mapEach f ys).1,
        ((s.mapEach f xs).2.mapEach f ys).2) := by
  induction xs generalizing s with
  | nil => rfl
  | cons x xs ih => rw [List.cons_append, mapEach_cons, mapEach_cons, ih, List.cons_append]

/-- A run in two halves. -/
theorem performAll_append (s : Session) (earlier later : List Operation) :
    (s.performAll (earlier ++ later)).2 = ((s.performAll earlier).2.performAll later).2 := by
  rw [performAll, mapEach_append]
  rfl

/-- A run with an operation in the middle. -/
theorem performAll_append_cons (s : Session) (earlier later : List Operation) (op : Operation) :
    (s.performAll (earlier ++ op :: later)).2 =
      (((s.performAll earlier).2.perform op).2.performAll later).2 :=
  s.performAll_append earlier (op :: later)

/-- An operation registered an entry of a run: it was about the name of the entry when this name was
new. -/
def Registers (s : Session) (ops : List Operation) (key : String) (schema : Schema) : Prop :=
  ∃ (earlier : List Operation) (op : Operation) (later : List Operation),
    ops = earlier ++ op :: later ∧ op.name = key ∧
      (s.performAll earlier).2.registry.get? key = none ∧
      op.schema (s.performAll earlier).2.registry = schema

/-- The first operation of a run registers its name if it is new; and what the rest of the run
registers, the run registers. -/
theorem registers_cons_iff {s : Session} {op : Operation} {ops : List Operation} {key : String}
    {schema : Schema} :
    s.Registers (op :: ops) key schema ↔
      (op.name = key ∧ s.registry.get? key = none ∧ op.schema s.registry = schema) ∨
        (s.perform op).2.Registers ops key schema := by
  constructor
  · rintro ⟨earlier, other, later, heq, hrest⟩
    rcases List.cons_eq_append_iff.1 heq with ⟨rfl, hcons⟩ | ⟨earlier, rfl, rfl⟩
    · rcases List.cons.inj hcons with ⟨rfl, rfl⟩
      exact Or.inl hrest
    · exact Or.inr ⟨earlier, other, later, rfl, hrest⟩
  · rintro (hrest | ⟨earlier, other, later, rfl, hrest⟩)
    · exact ⟨[], op, ops, rfl, hrest⟩
    · exact ⟨op :: earlier, other, later, rfl, hrest⟩

/-- The entries of a run are those that were there before, and those that were registered when their
names were new. -/
theorem get?_performAll_iff {s : Session} {ops : List Operation} {key : String}
    {schema : Schema} :
    (s.performAll ops).2.registry.get? key = some schema ↔
      s.registry.get? key = some schema ∨ s.Registers ops key schema := by
  induction ops generalizing s with
  | nil =>
    refine ⟨Or.inl, ?_⟩
    rintro (h | ⟨earlier, op, later, heq, _⟩)
    · exact h
    · simp at heq
  | cons op ops ih =>
    have hstep : (s.perform op).2.registry.get? key = some schema ↔
        s.registry.get? key = some schema ∨
          (op.name = key ∧ s.registry.get? key = none ∧ op.schema s.registry = schema) := by
      rw [get?_perform]
      by_cases hkey : key = op.name
      · rw [if_pos hkey, ← hkey]
        cases s.registry.get? key <;> simp
      · simp [hkey, Ne.symm hkey]
    rw [registers_cons_iff, ← or_assoc, ← hstep]
    exact ih

/-- Nothing that is registered is lost or changed in a run. -/
theorem extends_performAll (s : Session) (ops : List Operation) :
    (s.performAll ops).2.registry.Extends s.registry :=
  fun _ _ h => get?_performAll_iff.2 (Or.inl h)

/-- The names of a run are those that were there before and those that the operations are about. -/
theorem get?_performAll_ne_none_iff {s : Session} {ops : List Operation} {key : String} :
    (s.performAll ops).2.registry.get? key ≠ none ↔
      s.registry.get? key ≠ none ∨ ∃ op ∈ ops, op.name = key := by
  induction ops generalizing s with
  | nil => simp [performAll]
  | cons op ops ih =>
    have hstep : (s.perform op).2.registry.get? key ≠ none ↔
        s.registry.get? key ≠ none ∨ op.name = key := by
      rw [get?_perform]
      by_cases hkey : key = op.name
      · simp [hkey]
      · simp [hkey, Ne.symm hkey]
    simp only [List.mem_cons, exists_eq_or_imp]
    rw [← or_assoc, ← hstep]
    exact ih

end Session
end NodeApi
