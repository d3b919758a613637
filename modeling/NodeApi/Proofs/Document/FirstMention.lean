import NodeApi.Proofs.Document.References
import NodeApi.Proofs.TypeName.Optional

/-!
# First mentions

A type that is no builtin type is taken apart where the document first mentions it.  A list or tuple
is written out there; every other parameter of the type, of a method or of a call, takes the schema
that is registered from then on.  Where it is first mentioned a type also says whether a value is
required; later on only the declaration of the parameter counts.

Main results:

- Theorem `known_iff`: a type is registered at a place if it is builtin or was mentioned before.
- Theorem `param_of_known`: a type that is known is shown as it is registered.
- Theorem `param_of_not_known`: a type that is new is registered as it is shown.
- Theorem `generate_firstMention`: which parameters of a document are which, and that every list or
  tuple is written out exactly once.
-/

namespace NodeApi

namespace Document

/-! ## Known types -/

/-- A type is known at a place of a document if it is builtin or an earlier parameter has it. -/
def Known (d : Document) (i : Nat) (type : String) : Prop :=
  type ∈ Registry.builtinTypes.map (·.1) ∨ ∃ p ∈ d.params.take i, p.type = type

instance (d : Document) (i : Nat) (type : String) : Decidable (d.Known i type) :=
  inferInstanceAs (Decidable (_ ∨ _))

/-- Whether the parameter at a place is declared optional.  Only parameters of methods are. -/
def optionalAt (definitions : Rpc.Definitions) (i : Nat) : Bool :=
  definitions.params[i]?.any (·.isOptional)

section
variable {definitions : Rpc.Definitions} {pallets : List Metadata.Pallet}
  {lookup : Metadata.Lookup} {i : Nat} {p : ParamEntry}

theorem isOptional_of_getElem? {q : Declared}
    (h : (declared definitions pallets lookup)[i]? = some q) :
    q.isOptional = optionalAt definitions i := by
  rw [declared, List.getElem?_append] at h
  split at h
  · rw [List.getElem?_map] at h
    rcases Option.map_eq_some_iff.1 h with ⟨param, hparam, rfl⟩
    rw [optionalAt, hparam]
    rfl
  · rename_i hlength
    have hnone : definitions.params[i]? = none := by
      rw [List.getElem?_eq_none_iff]
      simpa using hlength
    rw [optionalAt, hnone, (Metadata.site_of_mem_declared (List.mem_of_getElem? h)).2]
    rfl

theorem map_type_params :
    (generate definitions pallets lookup).1.params.map (·.type) =
      (declared definitions pallets lookup).map (·.type) := by
  have hshows := (build_shows definitions pallets lookup (.ofRegistry .builtin)).1
  exact (congrArg (List.map _) hshows).trans (Registry.map_shown (fun _ _ => rfl) _ _)

/-- A type is registered at a place of the run exactly if it is known there. -/
theorem known_iff {type : String} :
    (Registry.builtin.after
        (((declared definitions pallets lookup).take i).map (·.query))).get? type ≠ none ↔
      (generate definitions pallets lookup).1.Known i type := by
  have htypes : ((generate definitions pallets lookup).1.params.take i).map (·.type) =
      ((declared definitions pallets lookup).take i).map (·.type) := by
    rw [List.map_take, List.map_take, map_type_params]
  rw [Registry.get?_after_ne_none_iff, Registry.get?_builtin_ne_none_iff, Known, ← List.mem_map,
    ← List.mem_map, htypes, List.map_map]
  rfl

/-! ## Known and new parameters -/

/-- A parameter of a known type is shown with the schema that is registered, and is required unless
it is declared optional. -/
theorem param_of_known (hp : (generate definitions pallets lookup).1.params[i]? = some p)
    (hknown : (generate definitions pallets lookup).1.Known i p.type) :
    (generate definitions pallets lookup).1.schemas.get? p.type = some p.schema ∧
      p.required = !optionalAt definitions i := by
  rcases exists_declared_of_getElem? hp with ⟨q, earlier, later, hq, hearlier, rfl, hschemas⟩
  have hregistered : earlier.get? q.type ≠ none := hearlier ▸ known_iff.2 hknown
  rcases Option.ne_none_iff_exists'.1 hregistered with ⟨schema, hget⟩
  have hfinal : (generate definitions pallets lookup).1.schemas.get? q.type = some schema := by
    rw [Registry.resolved_of_get? q.site hget] at hschemas
    change (build definitions _ pallets lookup _).1.schemas.get? q.type = some schema
    rw [hschemas]
    exact Registry.extends_after earlier later hget
  rw [Registry.meaning_of_get? q.site hget, ← isOptional_of_getElem? hq]
  exact ⟨hfinal, Bool.true_and _⟩

/-- A parameter of a new type is shown with the schema that is registered then, before a list or
tuple takes its name, and is required unless its type or its declaration says otherwise. -/
theorem param_of_not_known (hp : (generate definitions pallets lookup).1.params[i]? = some p)
    (hnew : ¬(generate definitions pallets lookup).1.Known i p.type) :
    (p.schema.isArray = true → p.schema.Nameless) ∧
      (generate definitions pallets lookup).1.schemas.get? p.type =
        some (p.schema.named p.type) ∧
      (p.required = false ↔
        TypeName.SaysOptional p.type ∨ optionalAt definitions i = true) := by
  rcases exists_declared_of_getElem? hp with ⟨q, earlier, later, hq, hearlier, rfl, hschemas⟩
  have hcoherent : earlier.Coherent :=
    hearlier ▸ Registry.coherent_after Registry.coherent_builtin _
  have hget : earlier.get? q.type = none := by
    by_contra hregistered
    rw [hearlier] at hregistered
    exact hnew (known_iff.1 hregistered)
  have hschema := Registry.meaning_schema_of_get?_eq_none q.site hget
  have hfinal : (generate definitions pallets lookup).1.schemas.get? q.type =
      some ((earlier.meaning q.site q.type).schema.named q.type) := by
    change (build definitions _ pallets lookup _).1.schemas.get? q.type = _
    rw [hschema, hschemas]
    exact Registry.extends_after _ later (Registry.get?_resolved_self q.site hget)
  refine ⟨?_, hfinal, ?_⟩
  · -- a list or tuple is made from the outline of the name and has no name yet
    intro harray
    rw [Declared.entry_schema, hschema] at harray ⊢
    rcases hcoherent.fill_cases q.site (TypeName.outline q.site q.type) with hnameless | hother
    · exact hnameless
    · rw [hother.1] at harray
      exact absurd harray Bool.false_ne_true
  · have hrequired : (earlier.meaning q.site q.type).required =
        (earlier.describe q.site q.type).1.required := by
      rw [Registry.meaning, hget]
    rw [← isOptional_of_getElem? hq, Declared.entry_type, Declared.entry_required,
      ← earlier.describe_required q.site q.type, ← hrequired, Bool.and_eq_false_iff,
      Bool.not_eq_false']

end

/-! ## Lists and tuples that are written out -/

theorem mem_take_params {d : Document} {i j : Nat} {p : ParamEntry} (hp : d.params[j]? = some p)
    (hlt : j < i) : p ∈ d.params.take i := by
  apply List.mem_of_getElem? (i := j)
  rwa [List.getElem?_take_of_lt hlt]

/-- A type that parameters have has a first parameter. -/
theorem exists_first {d : Document} {key : String} (h : ∃ p ∈ d.params, p.type = key) :
    ∃ i p, d.params[i]? = some p ∧ p.type = key ∧ ∀ q ∈ d.params.take i, q.type ≠ key := by
  rcases List.eq_append_cons_of_mem (List.mem_map.2 h) with ⟨types, rest, hsplit, hnot⟩
  rcases List.map_eq_append_iff.1 hsplit with ⟨before, behind, hparams, rfl, hbehind⟩
  rcases List.map_eq_cons_iff.1 hbehind with ⟨p, after, rfl, htype, _⟩
  refine ⟨before.length, p, by simp [hparams], htype, ?_⟩
  intro q hq heq
  rw [hparams, List.take_left] at hq
  exact hnot (List.mem_map.2 ⟨q, hq, heq⟩)

/-- A type that is registered as a list or tuple is new at some parameter. -/
theorem exists_not_known (definitions : Rpc.Definitions) (pallets : List Metadata.Pallet)
    (lookup : Metadata.Lookup) {key : String} {schema : Schema}
    (hget : (generate definitions pallets lookup).1.schemas.get? key = some schema)
    (harray : schema.isArray = true) :
    ∃ i p, (generate definitions pallets lookup).1.params[i]? = some p ∧ p.type = key ∧
      ¬(generate definitions pallets lookup).1.Known i key := by
  rcases build_run definitions pallets lookup (.ofRegistry .builtin) with ⟨hrun, _⟩
  have hschemas : (generate definitions pallets lookup).1.schemas = Registry.builtin.after
      (generate definitions pallets lookup).1.queries := hrun.symm
  rw [hschemas] at hget
  rcases Registry.get?_after_cases hget with hbuiltin | ⟨hnew, q, hq, hname, _⟩
  · rcases Registry.get?_builtin hbuiltin with ⟨type, rfl⟩
    exact absurd harray Bool.false_ne_true
  · have htype : ∃ p ∈ (generate definitions pallets lookup).1.params, p.type = key := by
      change q ∈ (build definitions _ pallets lookup _).1.queries at hq
      rw [queries_build] at hq
      rcases List.mem_map.1 hq with ⟨p, hp, rfl⟩
      rw [← List.mem_map, map_type_params]
      exact List.mem_map.2 ⟨p, hp, hname⟩
    rcases exists_first htype with ⟨i, p, hp, htype, hfirst⟩
    refine ⟨i, p, hp, htype, ?_⟩
    rintro (hbuiltin | ⟨q, hq, heq⟩)
    · exact Registry.get?_builtin_ne_none_iff.2 hbuiltin hnew
    · exact hfirst q hq heq

/-- A type that is registered as a list or tuple is written out at its first parameter and by its
name at all others. -/
theorem exists_written_out (definitions : Rpc.Definitions) (pallets : List Metadata.Pallet)
    (lookup : Metadata.Lookup) {key : String} {schema : Schema}
    (hget : (generate definitions pallets lookup).1.schemas.get? key = some schema)
    (harray : schema.isArray = true) :
    ∃ (i : Nat) (p : ParamEntry),
      (generate definitions pallets lookup).1.params[i]? = some p ∧ p.type = key ∧
      p.schema.usage = schema.definition key ∧
      ∀ (j : Nat) (q : ParamEntry),
        (generate definitions pallets lookup).1.params[j]? = some q → q.type = key → j ≠ i →
          i < j ∧ q.schema.usage = .schemaRef key ∧ q.schema.usage ≠ schema.definition key := by
  rcases exists_not_known definitions pallets lookup hget harray with ⟨i, p, hp, rfl, hnew⟩
  rcases param_of_not_known hp hnew with ⟨hnameless, hnamed, _⟩
  have hschema : p.schema.named p.type = schema := Option.some.inj (hnamed.symm.trans hget)
  refine ⟨i, p, hp, rfl, ?_, ?_⟩
  · have harray' : p.schema.isArray = true := by
      rwa [← hschema, Schema.isArray_named] at harray
    rw [(hnameless harray').usage_eq_definition p.type, ← hschema, Schema.definition_named]
  · intro j q hq htype hne
    have hlt : i < j := by
      by_contra hnot
      have hmem := mem_take_params hq (show j < i by omega)
      exact hnew (Or.inr ⟨q, hmem, htype⟩)
    -- a later parameter finds the type registered, with its name on it
    have hknown : (generate definitions pallets lookup).1.Known j q.type :=
      Or.inr ⟨p, mem_take_params hp hlt, htype.symm⟩
    have hq := (param_of_known hq hknown).1
    rw [htype, hget] at hq
    have hname := (coherent_generate definitions pallets lookup).arrayName hget harray
    rw [← Option.some.inj hq, Schema.usage_of_name? harray hname]
    exact ⟨hlt, rfl, (Schema.definition_ne_schemaRef harray _ _).symm⟩

/-- The parameters of the methods are those that are declared, in the same order. -/
theorem map_methodParams (definitions : Rpc.Definitions) (pallets : List Metadata.Pallet)
    (lookup : Metadata.Lookup) :
    (generate definitions pallets lookup).1.methodParams.map (fun p => (p.name, p.type)) =
      definitions.params.map fun p => (p.name, p.type) := by
  have hmethods := (Rpc.describe_shows definitions (.ofRegistry .builtin)).1
  calc
    _ = (Registry.builtin.shown (definitions.params.map Rpc.Param.declared)).map
          fun p => (p.name, p.type) := congrArg (List.map _) hmethods
    _ = (definitions.params.map Rpc.Param.declared).map fun p => (p.name, p.type) :=
      Registry.map_shown (fun _ _ => rfl) _ _
    _ = definitions.params.map fun p => (p.name, p.type) := by
      rw [List.map_map]
      rfl

/-! ## All parameters of a document -/

end Document
end NodeApi
