import Mathlib.Data.List.Forall2
import NodeApi.Proofs.Table
import NodeApi.Proofs.TypeName.Outline

/-!
# Runs of resolutions

What a name means when it is resolved, and what the registry becomes, depend on the registry alone
and not on the notices of the run.  A registry only grows: whatever it holds it holds after every
later resolution.

Main results:

- Theorem `describe_schema`: a new name is described by filling in the outline of the name.
- Theorems `resolve_fst` and `resolve_registry`: a resolution read off the registry.
- Theorems `answers_append` and `after_append`: a run in two halves.
- Theorem `getElem?_answers`: an answer comes from the registry as it is when it is given.
- Theorem `extends_after`: nothing that is registered is lost or changed in a run.
-/

namespace NodeApi

/-! ## The builtin types -/

/-- A builtin type has its own name. -/
theorem Registry.get?_builtin {key : String} {schema : Schema}
    (h : Registry.builtin.get? key = some schema) : ∃ type, schema = .primitive key type := by
  rcases List.mem_map.1 (Table.mem_of_get?_ofList h) with ⟨⟨name, type⟩, _, heq⟩
  rcases Prod.mk.inj heq with ⟨rfl, rfl⟩
  exact ⟨type, rfl⟩

/-- The names that are registered from the beginning are those of the builtin types. -/
theorem Registry.get?_builtin_ne_none_iff {key : String} :
    builtin.get? key ≠ none ↔ key ∈ builtinTypes.map (·.1) := by
  constructor
  · intro h
    rcases Option.ne_none_iff_exists'.1 h with ⟨schema, hschema⟩
    rcases List.mem_map.1 (Table.mem_of_get?_ofList hschema) with ⟨⟨name, type⟩, hmem, heq⟩
    rcases Prod.mk.inj heq with ⟨rfl, _⟩
    exact List.mem_map_of_mem hmem
  · revert key
    decide +kernel

/-! ## Descriptions -/

namespace Registry

/-- The schema of an outline: the names in it are filled in from the registry. -/
def fill (r : Registry) (site : Site) : TypeName.Outline → Schema
  | .list item => .list none (r.itemSchema site item)
  | .tuple elements => .tuple none (elements.map r.schemaOf)
  | .name core => (r.leaf core).1

/-- A new name is described by filling in the outline of the name. -/
theorem describe_schema (r : Registry) (site : Site) (name : String) :
    (r.describe site name).1.schema = r.fill site (TypeName.outline site name) := by
  unfold describe TypeName.outline
  dsimp only
  cases hitem : TypeName.unwrap? TypeName.Wrapper.vec.name (TypeName.peel .option name).2 with
  | some item => rfl
  | none =>
    dsimp only
    cases site with
    | rpc => rfl
    | call =>
      cases TypeName.tuple? (TypeName.peel .compact (TypeName.peel .option name).2).2 with
      | some elements => rfl
      | none => rfl

/-- A schema that stands for a name: the registered one, or a reference to the name. -/
def Stands (r : Registry) (name : String) (schema : Schema) : Prop :=
  schema = .reference name ∨ r.get? name = some schema

theorem schemaOf_stands (r : Registry) (name : String) : r.Stands name (r.schemaOf name) := by
  unfold schemaOf
  cases h : r.get? name with
  | none => exact Or.inl rfl
  | some schema => exact Or.inr h

theorem itemSchema_stands (r : Registry) (site : Site) (name : String) :
    r.Stands name (r.itemSchema site name) := by
  cases site with
  | rpc => exact Or.inl rfl
  | call => exact r.schemaOf_stands name

/-- What is not taken apart is a registered builtin type, or is known by its name only. -/
theorem leaf_cases (r : Registry) (name : String) :
    (r.leaf name).1 = .reference name ∨
      ∃ primitive type, (r.leaf name).1 = .primitive primitive type ∧
        r.get? name = some (.primitive primitive type) := by
  unfold leaf
  split
  · rename_i primitive type h
    exact Or.inr ⟨primitive, type, rfl, h⟩
  · exact Or.inl rfl

/-! ## Resolutions of a registry -/

/-- What a name means. -/
def meaning (r : Registry) (site : Site) (name : String) : Resolution :=
  match r.get? name with
  | some schema => ⟨true, schema⟩
  | none => (r.describe site name).1

/-- The registry after a name has been resolved. -/
def resolved (r : Registry) (site : Site) (name : String) : Registry :=
  (r.register name ((r.meaning site name).schema.named name)).2

theorem meaning_of_get? {r : Registry} {name : String} {schema : Schema} (site : Site)
    (h : r.get? name = some schema) : r.meaning site name = ⟨true, schema⟩ := by
  simp [meaning, h]

theorem resolved_of_get? {r : Registry} {name : String} {schema : Schema} (site : Site)
    (h : r.get? name = some schema) : r.resolved site name = r := by
  have hcontains : r.contains name = true := by simp [contains_eq_isSome, h]
  rw [resolved, register_of_contains _ hcontains]

/-- A name that is not registered means its filled-in outline. -/
theorem meaning_schema_of_get?_eq_none {r : Registry} {name : String} (site : Site)
    (h : r.get? name = none) :
    (r.meaning site name).schema = r.fill site (TypeName.outline site name) := by
  rw [← describe_schema]
  simp [meaning, h]

/-- The schemas after a name has been resolved: that of the name is new, all others are old. -/
theorem get?_resolved (r : Registry) (site : Site) (name key : String) :
    (r.resolved site name).get? key =
      if key = name then
        some ((r.get? name).getD ((r.fill site (TypeName.outline site name)).named name))
      else r.get? key := by
  rw [resolved, get?_register]
  cases h : r.get? name with
  | none => simp [meaning_schema_of_get?_eq_none site h]
  | some schema => simp

/-- An entry after a resolution was there before, or it is the entry of a new name. -/
theorem get?_resolved_cases {r : Registry} {site : Site} {name key : String} {schema : Schema}
    (h : (r.resolved site name).get? key = some schema) :
    r.get? key = some schema ∨ (key = name ∧ r.get? name = none ∧
      schema = (r.fill site (TypeName.outline site name)).named name) := by
  rw [get?_resolved] at h
  by_cases hkey : key = name
  · rw [if_pos hkey] at h
    cases hname : r.get? name with
    | some old =>
      rw [hname] at h
      rw [hkey, hname]
      exact Or.inl h
    | none =>
      rw [hname] at h
      exact Or.inr ⟨hkey, rfl, (Option.some.inj h).symm⟩
  · rw [if_neg hkey] at h
    exact Or.inl h

/-- A name that has been resolved is registered. -/
theorem isSome_get?_resolved (r : Registry) (site : Site) (name : String) :
    ((r.resolved site name).get? name).isSome = true := by
  rw [get?_resolved, if_pos rfl, Option.isSome_some]

/-- A new name is registered with its filled-in outline. -/
theorem get?_resolved_self {r : Registry} {name : String} (site : Site) (h : r.get? name = none) :
    (r.resolved site name).get? name =
      some ((r.fill site (TypeName.outline site name)).named name) := by
  rw [get?_resolved, if_pos rfl, h]
  rfl

end Registry

namespace Session

/-- What a resolution answers depends on the registry only. -/
theorem resolve_fst (s : Session) (site : Site) (name : String) :
    (s.resolve site name).1 = s.registry.meaning site name := by
  cases h : s.registry.get? name with
  | some schema => rw [resolve_of_get? site h, Registry.meaning_of_get? site h]
  | none => simp [resolve_of_get?_eq_none site h, Registry.meaning, h]

/-- What becomes of the registry depends on the registry only. -/
theorem resolve_registry (s : Session) (site : Site) (name : String) :
    (s.resolve site name).2.registry = s.registry.resolved site name := by
  cases h : s.registry.get? name with
  | some schema => rw [resolve_of_get? site h, Registry.resolved_of_get? site h]
  | none => simp [resolve_of_get?_eq_none site h, Registry.resolved, Registry.meaning, h]

theorem mapEach_map {α β γ : Type} (f : Session → β → γ × Session) (g : α → β) (s : Session)
    (xs : List α) : s.mapEach f (xs.map g) = s.mapEach (fun s x => f s (g x)) xs := by
  induction xs generalizing s with
  | nil => rfl
  | cons x xs ih => rw [List.map_cons, mapEach_cons, mapEach_cons, ih]

/-- Each element of a list is answered by one thing, in the order of the list. -/
theorem forall₂_mapEach {α β : Type} {f : Session → α → β × Session} {R : α → β → Prop}
    (h : ∀ s x, R x (f s x).1) (s : Session) (xs : List α) :
    List.Forall₂ R xs (s.mapEach f xs).1 := by
  induction xs generalizing s with
  | nil => exact .nil
  | cons x xs ih => exact .cons (h s x) (ih (f s x).2)

end Session

/-! ## Runs -/

/-- A type name where it stands. -/
structure Query where
  site : Site
  name : String
deriving DecidableEq

/-- Resolves type names one after the other. -/
def Session.resolveAll (s : Session) (queries : List Query) : List Resolution × Session :=
  s.mapEach (fun s q => s.resolve q.site q.name) queries

namespace Registry

/-- What names mean that are resolved one after the other. -/
def answers (r : Registry) : List Query → List Resolution
  | [] => []
  | q :: queries => r.meaning q.site q.name :: (r.resolved q.site q.name).answers queries

/-- The registry after names have been resolved one after the other. -/
def after (r : Registry) : List Query → Registry
  | [] => r
  | q :: queries => (r.resolved q.site q.name).after queries

theorem answers_append (r : Registry) (earlier later : List Query) :
    r.answers (earlier ++ later) = r.answers earlier ++ (r.after earlier).answers later := by
  induction earlier generalizing r with
  | nil => rfl
  | cons q earlier ih =>
    simp only [List.cons_append, answers, after]
    rw [ih]

theorem after_append (r : Registry) (earlier later : List Query) :
    r.after (earlier ++ later) = (r.after earlier).after later := by
  induction earlier generalizing r with
  | nil => rfl
  | cons q earlier ih => exact ih (r.resolved q.site q.name)

theorem length_answers (r : Registry) (queries : List Query) :
    (r.answers queries).length = queries.length := by
  induction queries generalizing r with
  | nil => rfl
  | cons q queries ih => simp [answers, ih]

/-- The answer at a place of a run comes from the registry as it is at this place. -/
theorem getElem?_answers (r : Registry) (queries : List Query) (i : Nat) :
    (r.answers queries)[i]? =
      queries[i]?.map fun q => (r.after (queries.take i)).meaning q.site q.name := by
  induction queries generalizing r i with
  | nil => rfl
  | cons q queries ih =>
    cases i with
    | zero => rfl
    | succ i => exact ih (r.resolved q.site q.name) i

/-- A run is split at one of its resolutions. -/
theorem after_of_getElem? {r : Registry} {queries : List Query} {i : Nat} {q : Query}
    (h : queries[i]? = some q) :
    r.after queries =
      ((r.after (queries.take i)).resolved q.site q.name).after (queries.drop (i + 1)) := by
  rcases List.getElem?_eq_some_iff.1 h with ⟨hlt, rfl⟩
  calc
    r.after queries = r.after (queries.take i ++ queries.drop i) := by
      rw [List.take_append_drop]
    _ = (r.after (queries.take i)).after (queries.drop i) := after_append r _ _
    _ = _ := by
      rw [List.drop_eq_getElem_cons hlt]
      rfl

/-- An entry of a run was there before, or it was registered when its name was first resolved. -/
theorem exists_resolved_of_get?_after {r : Registry} {queries : List Query} {key : String}
    {schema : Schema} (h : (r.after queries).get? key = some schema) :
    r.get? key = some schema ∨
      ∃ (earlier : List Query) (q : Query) (later : List Query),
        queries = earlier ++ q :: later ∧ q.name = key ∧ (r.after earlier).get? key = none ∧
        schema = ((r.after earlier).fill q.site (TypeName.outline q.site key)).named key := by
  induction queries generalizing r with
  | nil => exact Or.inl h
  | cons q queries ih =>
    rcases ih h with hget | ⟨earlier, other, later, rfl, hrest⟩
    · rcases get?_resolved_cases hget with hold | ⟨rfl, hnew, hschema⟩
      · exact Or.inl hold
      · exact Or.inr ⟨[], q, queries, rfl, rfl, hnew, hschema⟩
    · exact Or.inr ⟨q :: earlier, other, later, rfl, hrest⟩

/-- What every resolution keeps, a run keeps. -/
theorem after_induction {P : Registry → Prop}
    (step : ∀ (r : Registry) (site : Site) (name : String), P r → P (r.resolved site name))
    {r : Registry} (h : P r) (queries : List Query) : P (r.after queries) := by
  induction queries generalizing r with
  | nil => exact h
  | cons q queries ih => exact ih (step r q.site q.name h)

end Registry

namespace Session

theorem resolveAll_registry (s : Session) (queries : List Query) :
    (s.resolveAll queries).2.registry = s.registry.after queries := by
  induction queries generalizing s with
  | nil => rfl
  | cons q queries ih =>
    simp only [resolveAll, mapEach_cons] at ih ⊢
    rw [ih, resolve_registry]
    rfl

end Session

/-! ## Growth -/

namespace Registry

/-- A registry that holds all that another one holds. -/
def Extends (later earlier : Registry) : Prop :=
  ∀ ⦃name : String⦄ ⦃schema : Schema⦄,
    earlier.get? name = some schema → later.get? name = some schema

theorem Extends.refl (r : Registry) : r.Extends r :=
  fun _ _ h => h

theorem Extends.trans {a b c : Registry} (hcb : c.Extends b) (hba : b.Extends a) : c.Extends a :=
  fun _ _ h => hcb (hba h)

theorem Extends.isSome_get? {later earlier : Registry} (h : later.Extends earlier) {name : String}
    (hsome : (earlier.get? name).isSome = true) : (later.get? name).isSome = true := by
  rcases Option.isSome_iff_exists.1 hsome with ⟨schema, hschema⟩
  rw [h hschema, Option.isSome_some]

/-- Resolving a name loses and changes nothing. -/
theorem extends_resolved (r : Registry) (site : Site) (name : String) :
    (r.resolved site name).Extends r := by
  intro key schema h
  rw [get?_resolved]
  by_cases hkey : key = name
  · subst hkey
    simp [h]
  · simp [hkey, h]

/-- Nothing that is registered is lost or changed in a run. -/
theorem extends_after (r : Registry) (queries : List Query) : (r.after queries).Extends r := by
  apply after_induction (P := fun later => later.Extends r)
  · intro later site name h
    exact (extends_resolved later site name).trans h
  · exact Extends.refl r

/-- What a name has stood for it stands for after growth. -/
theorem Stands.mono {earlier later : Registry} (h : later.Extends earlier) {name : String}
    {schema : Schema} (hstands : earlier.Stands name schema) : later.Stands name schema := by
  rcases hstands with hreference | hget
  · exact Or.inl hreference
  · exact Or.inr (h hget)

/-- A resolved name is registered from then on. -/
theorem isSome_get?_after (r : Registry) {queries : List Query} {q : Query} (h : q ∈ queries) :
    ((r.after queries).get? q.name).isSome = true := by
  rcases List.append_of_mem h with ⟨earlier, later, rfl⟩
  rw [after_append]
  apply (extends_after _ later).isSome_get?
  exact isSome_get?_resolved _ q.site q.name

end Registry
end NodeApi
