import Mathlib.Data.List.MinMax
import Mathlib.Logic.Function.Iterate
import NodeApi.Proofs.Schema.Descent

/-!
# Expanding references

What a value says in full is found by replacing the references to entries by the definitions of the
entries, again and again, until none is left.  Definitions refer to shorter names, so this ends.

Main results:

- Theorem `ExpandsTo.unique`: a value expands to one value at most.
- Theorem `expandsTo_expand`: as many rounds as the longest name has characters, and one more, are
  enough for every value.
- Theorem `expand_schemaRef_of_get?`: a reference to an entry says what the entry is defined as.
-/

namespace NodeApi

open Schema

namespace Registry

/-! ## Rounds of expansion -/

/-- The value with every reference to an entry replaced once. -/
def expandOnce (r : Registry) (j : Json) : Json :=
  j.replaceRefs fun name => (r.definition? name).getD (.schemaRef name)

/-- A value that refers to no entry. -/
def Expanded (r : Registry) (j : Json) : Prop :=
  ∀ name ∈ j.refs, r.get? name = none

/-- What a value becomes when references to entries are replaced until none is left. -/
def ExpandsTo (r : Registry) (j e : Json) : Prop :=
  (∃ rounds : Nat, r.expandOnce^[rounds] j = e) ∧ r.Expanded e

theorem expandOnce_of_expanded {r : Registry} {j : Json} (h : r.Expanded j) :
    r.expandOnce j = j := by
  calc
    r.expandOnce j = j.replaceRefs Json.schemaRef := by
      apply Json.replaceRefs_congr
      intro name hname
      rw [definition?_of_get?_eq_none (h name hname), Option.getD_none]
    _ = j := Json.replaceRefs_schemaRef j

/-- A value expands to one value at most. -/
theorem ExpandsTo.unique {r : Registry} {j e e' : Json} (h : r.ExpandsTo j e)
    (h' : r.ExpandsTo j e') : e = e' := by
  rcases h with ⟨⟨rounds, rfl⟩, hexpanded⟩
  rcases h' with ⟨⟨rounds', rfl⟩, hexpanded'⟩
  have hfixed := Function.iterate_fixed (expandOnce_of_expanded hexpanded) rounds'
  have hfixed' := Function.iterate_fixed (expandOnce_of_expanded hexpanded') rounds
  calc
    r.expandOnce^[rounds] j = r.expandOnce^[rounds'] (r.expandOnce^[rounds] j) := hfixed.symm
    _ = r.expandOnce^[rounds' + rounds] j := (Function.iterate_add_apply _ _ _ j).symm
    _ = r.expandOnce^[rounds + rounds'] j := by rw [Nat.add_comm]
    _ = r.expandOnce^[rounds] (r.expandOnce^[rounds'] j) := Function.iterate_add_apply _ _ _ j
    _ = r.expandOnce^[rounds'] j := hfixed'

/-- After a round the references to entries are those in definitions of entries referred to
before. -/
theorem mem_refs_expandOnce {r : Registry} {j : Json} {name : String}
    (hname : name ∈ (r.expandOnce j).refs) (hentry : r.get? name ≠ none) :
    ∃ old ∈ j.refs, ∃ value, r.definition? old = some value ∧ name ∈ value.refs := by
  have hvalues : ∀ old text,
      (r.definition? old).getD (.schemaRef old) ≠ Json.string text := by
    intro old text
    cases hget : r.get? old with
    | none =>
      rw [definition?_of_get?_eq_none hget]
      simp [Json.schemaRef]
    | some schema =>
      rw [definition?_of_get? hget]
      exact definition_ne_string old schema text
  rcases Json.mem_refs_replaceRefs hvalues hname with ⟨old, hold, hmem⟩
  refine ⟨old, hold, ?_⟩
  cases hget : r.get? old with
  | none =>
    rw [definition?_of_get?_eq_none hget, Option.getD_none, Json.refs_schemaRef] at hmem
    have heq : name = old := List.mem_singleton.1 hmem
    rw [heq] at hentry
    exact absurd hget hentry
  | some schema =>
    rw [definition?_of_get? hget] at hmem ⊢
    exact ⟨_, rfl, hmem⟩

/-- A value whose references to entries are shorter than a bound is expanded by as many rounds. -/
theorem Descends.expanded_iterate {r : Registry} (h : r.Descends) {rounds : Nat} {j : Json}
    (hj : ∀ name ∈ j.refs, r.get? name ≠ none → name.length < rounds) :
    r.Expanded (r.expandOnce^[rounds] j) := by
  induction rounds generalizing j with
  | zero =>
    intro name hname
    by_contra hentry
    exact Nat.not_lt_zero _ (hj name hname hentry)
  | succ rounds ih =>
    rw [Function.iterate_succ_apply]
    apply ih
    intro name hname hentry
    rcases mem_refs_expandOnce hname hentry with ⟨old, hold, value, hvalue, hmem⟩
    have hlt := (h.refs_definition? hvalue hmem).2
    have hold' : r.get? old ≠ none := by
      intro hnone
      rw [definition?_of_get?_eq_none hnone] at hvalue
      exact absurd hvalue.symm (Option.some_ne_none value)
    have hbound := hj old hold hold'
    omega

/-! ## Full expansion -/

/-- The number of characters of the longest registered name. -/
def longest (r : Registry) : Nat :=
  (r.entries.keys.map String.length).foldr max 0

theorem length_le_longest {r : Registry} {name : String} (h : r.get? name ≠ none) :
    name.length ≤ r.longest := by
  rcases Option.ne_none_iff_exists'.1 h with ⟨schema, hschema⟩
  have hmem : name.length ∈ r.entries.keys.map String.length := by
    apply List.mem_map_of_mem
    exact List.mem_map.2 ⟨(name, schema), (Table.mem_entries_iff _).2 hschema, rfl⟩
  exact List.le_max_of_le' 0 hmem (Nat.le_refl name.length)

/-- The value with all references to entries replaced, also those that come in on the way. -/
def expand (r : Registry) (j : Json) : Json :=
  r.expandOnce^[r.longest + 1] j

theorem Descends.expanded_expand {r : Registry} (h : r.Descends) (j : Json) :
    r.Expanded (r.expand j) := by
  apply h.expanded_iterate
  intro name _ hentry
  exact Nat.lt_succ_of_le (length_le_longest hentry)

/-- Full expansion leaves no reference to an entry. -/
theorem Descends.expandsTo_expand {r : Registry} (h : r.Descends) (j : Json) :
    r.ExpandsTo j (r.expand j) :=
  ⟨⟨r.longest + 1, rfl⟩, h.expanded_expand j⟩

theorem expand_typeJson (r : Registry) (type : JsonType) :
    r.expand (typeJson type) = typeJson type :=
  Function.iterate_fixed (replaceRefs_typeJson _ type) _

theorem expand_object_nil (r : Registry) : r.expand (.object []) = .object [] :=
  Function.iterate_fixed (Json.replaceRefs_object _ rfl) _

theorem expand_listJson (r : Registry) (items : Json) :
    r.expand (listJson items) = listJson (r.expand items) := by
  have hcommute : Function.Semiconj listJson r.expandOnce r.expandOnce := by
    intro j
    exact (replaceRefs_listJson _ j).symm
  exact (hcommute.iterate_right (r.longest + 1) items).symm

theorem expand_array (r : Registry) (elements : List Json) :
    r.expand (.array elements) = .array (elements.map r.expand) := by
  unfold expand
  generalize r.longest + 1 = rounds
  induction rounds generalizing elements with
  | zero => simp
  | succ rounds ih =>
    have hround : r.expandOnce (.array elements) = .array (elements.map r.expandOnce) :=
      Json.replaceRefs_array _ elements
    rw [Function.iterate_succ_apply, hround, ih, List.map_map]
    rfl

/-- A reference to a name that is not registered stays. -/
theorem expand_schemaRef_of_get?_eq_none {r : Registry} {name : String} (h : r.get? name = none) :
    r.expand (.schemaRef name) = .schemaRef name := by
  apply Function.iterate_fixed
  apply expandOnce_of_expanded
  intro other hother
  rw [Json.refs_schemaRef] at hother
  rw [List.mem_singleton.1 hother, h]

/-- A reference to an entry says what the entry is defined as. -/
theorem Descends.expand_schemaRef_of_get? {r : Registry} (h : r.Descends) {name : String}
    {schema : Schema} (hget : r.get? name = some schema) :
    r.expand (.schemaRef name) = r.expand (schema.definition name) := by
  have hround : r.expandOnce (.schemaRef name) = schema.definition name := by
    simp [expandOnce, definition?, hget]
  calc
    r.expand (.schemaRef name) = r.expandOnce (r.expand (.schemaRef name)) :=
      (expandOnce_of_expanded (h.expanded_expand _)).symm
    _ = r.expandOnce^[r.longest + 1] (r.expandOnce (.schemaRef name)) :=
      Function.Commute.iterate_right (Function.Commute.refl r.expandOnce) _ _
    _ = r.expand (schema.definition name) := by rw [hround, expand]

end Registry
end NodeApi
