import NodeApi.Proofs.Schema.Coherence
import NodeApi.Proofs.Schema.Operations

/-!
# Names of lists and tuples

A list or tuple that is found for a type name takes this name when it is registered, and is written
by it from then on.  One that is registered directly is taken as it is.  Without a name, or with the
name of another key, it would be written out again and again or by the wrong name.

Main results:

- Theorem `Registers.arrayNamed_or`: a list or tuple that was registered in a run has the name of its
  key, unless it was registered directly.
- Theorem `arraysNamed_performAll_iff`: all lists and tuples of a run are written by the names of their
  keys exactly if those that are registered directly have these names.
- Theorem `not_arraysNamed_register`: a list without a name can be registered, and stays without.
-/

namespace NodeApi

open Schema

/-- A list or tuple has the name of a key, if a schema is one. -/
def Schema.ArrayNamed (key : String) (schema : Schema) : Prop :=
  schema.isArray = true → schema.name? = some key

/-- A name that is resolved has a list or tuple named after it. -/
theorem Operation.arrayNamed_or (r : Registry) (op : Operation) :
    (op.schema r).ArrayNamed op.name ∨ op = .register op.name (op.schema r) := by
  cases op with
  | register _ _ => exact Or.inr rfl
  | resolve site name => exact Or.inl Registry.name?_named_fill
  | describe param => exact Or.inl Registry.name?_named_fill

namespace Session

/-- A list or tuple that was registered in a run has the name of its key, unless it was registered
directly. -/
theorem Registers.arrayNamed_or {s : Session} {ops : List Operation} {key : String}
    {schema : Schema} (h : s.Registers ops key schema) :
    schema.ArrayNamed key ∨ ∃ earlier later, ops = earlier ++ .register key schema :: later ∧
      (s.performAll earlier).2.registry.get? key = none := by
  rcases h with ⟨earlier, op, later, rfl, rfl, hnew, rfl⟩
  rcases op.arrayNamed_or (s.performAll earlier).2.registry with hnamed | hop
  · exact Or.inl hnamed
  · exact Or.inr ⟨earlier, later, by rw [← hop], hnew⟩

/-- All lists and tuples of a run are written by the names of their keys exactly if those that are
registered directly, under a name that is new, have the names of their keys. -/
theorem arraysNamed_performAll_iff (start : Registry)
    (hstart : start = .builtin ∨ start = .empty) (ops : List Operation) :
    (∀ key schema, ((ofRegistry start).performAll ops).2.registry.get? key = some schema →
      schema.isArray = true → schema.name? = some key ∧ schema.usage = .schemaRef key) ↔
    ∀ earlier name schema later, ops = earlier ++ .register name schema :: later →
      ((ofRegistry start).performAll earlier).2.registry.get? name = none →
        schema.isArray = true → schema.name? = some name := by
  have hcoherent : start.Coherent := by
    rcases hstart with rfl | rfl
    · exact Registry.coherent_builtin
    · exact Registry.coherent_empty
  constructor
  · rintro h earlier name schema later rfl hnew harray
    have hget : ((ofRegistry start).performAll
        (earlier ++ .register name schema :: later)).2.registry.get? name = some schema :=
      get?_performAll_iff.2 (Or.inr ⟨earlier, _, later, rfl, rfl, hnew, rfl⟩)
    exact (h name schema hget harray).1
  · intro h key schema hget harray
    have hname : schema.name? = some key := by
      rcases get?_performAll_iff.1 hget with hold | hregisters
      · exact hcoherent.arrayName hold harray
      · rcases hregisters.arrayNamed_or with hnamed | ⟨earlier, later, heq, hnew⟩
        · exact hnamed harray
        · exact h earlier key schema later heq hnew harray
    exact ⟨hname, usage_of_name? harray hname⟩

/-- A list of words is registered with its name, and a list of these lists is found for a call. -/
theorem arraysNamed_words :
    let words : Schema := .list (some "Words") (.primitive "string" .string)
    let ops : List Operation := [.register "Words" words, .resolve .call "Vec<Words>"]
    let r := ((ofRegistry .empty).performAll ops).2.registry
    r.get? "Vec<Words>" = some (.list (some "Vec<Words>") words) ∧
      ∀ key schema, r.get? key = some schema → schema.isArray = true →
        schema.name? = some key ∧ schema.usage = .schemaRef key := by
  intro words ops r
  have hget : r.get? "Vec<Words>" = some (.list (some "Vec<Words>") words) := by decide +kernel
  refine ⟨hget, (arraysNamed_performAll_iff .empty (Or.inr rfl) ops).2 ?_⟩
  intro earlier name schema later heq _ _
  have hmem : Operation.register name schema ∈ ops := by
    rw [heq]
    exact List.mem_append_right earlier List.mem_cons_self
  have hwords : name = "Words" ∧ schema = words := by simpa [ops] using hmem
  rw [hwords.1, hwords.2]
  rfl

/-- A list that is registered without a name is never given one.  It is written out wherever it is
used. -/
theorem not_arraysNamed_register :
    let words : Schema := .list none (.primitive "string" .string)
    let s := ((ofRegistry .empty).performAll [.register "Words" words]).2
    s.registry.get? "Words" = some words ∧ (s.resolve .call "Words").1 = ⟨true, words⟩ ∧
      words.usage = listJson (typeJson .string) ∧
      ¬∀ (ops : List Operation) (key : String) (schema : Schema),
        ((ofRegistry .empty).performAll ops).2.registry.get? key = some schema →
          schema.isArray = true → schema.name? = some key := by
  intro words s
  have hget : s.registry.get? "Words" = some words := by decide +kernel
  refine ⟨hget, ?_, by decide +kernel, ?_⟩
  · rw [resolve_of_get? .call hget]
  · intro h
    have hname := h [.register "Words" words] "Words" words hget rfl
    exact absurd hname.symm (Option.some_ne_none "Words")

end Session
end NodeApi
