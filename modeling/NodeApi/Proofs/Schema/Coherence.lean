import NodeApi.Proofs.Schema.Form
import NodeApi.Proofs.Schema.Run

/-!
# Coherent registries

Schemas are copied out of the registry into other schemas, and where they are used they are written
by their name.  In a coherent registry such a name always leads back to the schema it was written
for: every builtin type and every list or tuple, however deep it stands inside of an entry, is the
entry of its own name.

Main results:

- Theorem `coherent_resolved`: a resolution keeps the registry coherent.
- Theorem `Coherent.backs_meaning_children`: what stands inside of an answer is registered.
- Theorem `coherent_resolveAll`: runs that begin with a coherent registry stay coherent, and what
  they answer stays registered for good.
-/

namespace NodeApi

open Schema

namespace Registry

/-! ## Coherence -/

/-- A builtin type, list or tuple is the entry of its own name. -/
def Backs (r : Registry) (node : Schema) : Prop :=
  node.isPrimitive = true ∨ node.isArray = true →
    ∃ name, node.name? = some name ∧ r.get? name = some node

/-- Every schema inside of an entry is the entry of its own name, and a list or tuple that is an
entry has the name of its key. -/
structure Coherent (r : Registry) : Prop where
  backs : ∀ {key : String} {schema node : Schema},
    r.get? key = some schema → Occurs node schema → r.Backs node
  arrayName : ∀ {key : String} {schema : Schema},
    r.get? key = some schema → schema.isArray = true → schema.name? = some key

theorem backs_reference (r : Registry) (name : String) : r.Backs (.reference name) := by
  intro hkind
  simp [isPrimitive, isArray] at hkind

/-- An entry that has the name of its key is the entry of its own name. -/
theorem backs_of_name? {r : Registry} {schema : Schema} {name : String}
    (hname : schema.name? = some name) (hget : r.get? name = some schema) : r.Backs schema :=
  fun _ => ⟨name, hname, hget⟩

theorem Backs.mono {earlier later : Registry} (h : later.Extends earlier) {node : Schema}
    (hbacks : earlier.Backs node) : later.Backs node := by
  intro hkind
  rcases hbacks hkind with ⟨name, hname, hget⟩
  exact ⟨name, hname, h hget⟩

/-- A schema that is written by a name is a reference or the entry of this name. -/
theorem Backs.get?_of_usage {r : Registry} {node : Schema} {name : String}
    (hbacks : r.Backs node) (husage : node.usage = .schemaRef name) :
    node = .reference name ∨ r.get? name = some node := by
  have hname := name?_of_usage husage
  by_cases hkind : node.isPrimitive = true ∨ node.isArray = true
  · right
    rcases hbacks hkind with ⟨own, hown, hget⟩
    have heq : own = name := Option.some.inj (hown.symm.trans hname)
    rwa [heq] at hget
  · left
    cases node with
    | reference other => rw [Option.some.inj hname]
    | object properties required => simp [name?] at hname
    | _ => simp [isPrimitive, isArray] at hkind

/-- What stands for a name in a coherent registry is registered, and all that is inside of it. -/
theorem Coherent.backs_of_stands {r : Registry} (h : r.Coherent) {name : String}
    {schema node : Schema} (hstands : r.Stands name schema) (hnode : Occurs node schema) :
    r.Backs node := by
  rcases hstands with rfl | hget
  · rw [eq_of_occurs rfl hnode]
    exact r.backs_reference name
  · exact h.backs hget hnode

/-- What is filled into an outline is registered, and all that is inside of it. -/
theorem Coherent.backs_fill_children {r : Registry} (h : r.Coherent) (site : Site)
    (outline : TypeName.Outline) {child node : Schema}
    (hchild : child ∈ (r.fill site outline).children) (hnode : Occurs node child) :
    r.Backs node := by
  cases outline with
  | list item =>
    have hitem : child = r.itemSchema site item := List.mem_singleton.1 hchild
    rw [hitem] at hnode
    exact h.backs_of_stands (r.itemSchema_stands site item) hnode
  | tuple elements =>
    rcases List.mem_map.1 hchild with ⟨element, _, rfl⟩
    exact h.backs_of_stands (r.schemaOf_stands element) hnode
  | name core =>
    -- a name that is not taken apart is described by a schema without children
    rcases r.leaf_cases core with hleaf | ⟨primitive, type, hleaf, _⟩
    · simp [fill, hleaf, children] at hchild
    · simp [fill, hleaf, children] at hchild

/-- A filled-in outline is a list or tuple without a name, or it is registered itself and is no
list or tuple. -/
theorem Coherent.fill_cases {r : Registry} (h : r.Coherent) (site : Site)
    (outline : TypeName.Outline) :
    (r.fill site outline).Nameless ∨
      ((r.fill site outline).isArray = false ∧ r.Backs (r.fill site outline)) := by
  cases outline with
  | list item => exact Or.inl ⟨rfl, rfl⟩
  | tuple elements => exact Or.inl ⟨rfl, rfl⟩
  | name core =>
    right
    rcases r.leaf_cases core with hleaf | ⟨primitive, type, hleaf, hget⟩
    · rw [fill, hleaf]
      exact ⟨rfl, r.backs_reference core⟩
    · rw [fill, hleaf]
      exact ⟨rfl, h.backs hget Occurs.here⟩

/-- A list or tuple that is filled in takes the name of its key. -/
theorem name?_named_fill {r : Registry} {site : Site} {outline : TypeName.Outline} {key : String}
    (harray : ((r.fill site outline).named key).isArray = true) :
    ((r.fill site outline).named key).name? = some key := by
  rw [isArray_named] at harray
  cases outline with
  | list item => rfl
  | tuple elements => rfl
  | name core =>
    rcases r.leaf_cases core with hleaf | ⟨primitive, type, hleaf, _⟩
    · rw [fill, hleaf] at harray
      exact absurd harray Bool.false_ne_true
    · rw [fill, hleaf] at harray
      exact absurd harray Bool.false_ne_true

theorem coherent_empty : Coherent empty where
  backs h := by simp at h
  arrayName h := by simp at h

/-- The builtin types have their own names. -/
theorem coherent_builtin : Coherent builtin where
  backs := by
    intro key schema node h hnode
    rcases get?_builtin h with ⟨type, rfl⟩
    rw [eq_of_occurs rfl hnode]
    exact backs_of_name? rfl h
  arrayName := by
    intro key schema h harray
    rcases get?_builtin h with ⟨type, rfl⟩
    simp [isArray] at harray

/-! ## Coherence in a run -/

/-- The entry of a new name is registered under its own name, and all that is inside of it. -/
theorem Coherent.backs_new {r : Registry} (h : r.Coherent) (site : Site) {key : String}
    {schema : Schema} (hget : (r.resolved site key).get? key = some schema)
    (hschema : schema = (r.fill site (TypeName.outline site key)).named key) :
    (∀ node, Occurs node schema → (r.resolved site key).Backs node) ∧
      (schema.isArray = true → schema.name? = some key) := by
  have hextends := r.extends_resolved site key
  have hcases := h.fill_cases site (TypeName.outline site key)
  subst hschema
  constructor
  · intro node hnode
    cases hnode with
    | here =>
      rcases hcases with hnameless | ⟨hother, hbacks⟩
      · exact backs_of_name? (hnameless.name?_named key) hget
      · rw [named_of_isArray_eq_false hother]
        exact hbacks.mono hextends
    | inside hchild hnode =>
      rw [children_named] at hchild
      exact (h.backs_fill_children site _ hchild hnode).mono hextends
  · exact name?_named_fill

/-- A resolution keeps the registry coherent. -/
theorem coherent_resolved {r : Registry} (h : r.Coherent) (site : Site) (name : String) :
    (r.resolved site name).Coherent := by
  have hextends := r.extends_resolved site name
  constructor
  · intro key schema node hget hnode
    rcases get?_resolved_cases hget with hold | ⟨rfl, _, hschema⟩
    · exact (h.backs hold hnode).mono hextends
    · exact (h.backs_new site hget hschema).1 node hnode
  · intro key schema hget harray
    rcases get?_resolved_cases hget with hold | ⟨rfl, _, hschema⟩
    · exact h.arrayName hold harray
    · exact (h.backs_new site hget hschema).2 harray

theorem coherent_after {r : Registry} (h : r.Coherent) (queries : List Query) :
    (r.after queries).Coherent := by
  apply after_induction (P := Coherent)
  · intro r site name hr
    exact coherent_resolved hr site name
  · exact h

/-! ## Coherent answers -/

/-- What stands inside of an answer is registered. -/
theorem Coherent.backs_meaning_children {r : Registry} (h : r.Coherent) (site : Site)
    (name : String) {child node : Schema} (hchild : child ∈ (r.meaning site name).schema.children)
    (hnode : Occurs node child) : r.Backs node := by
  cases hname : r.get? name with
  | some schema =>
    rw [meaning_of_get? site hname] at hchild
    exact h.backs hname (Occurs.inside hchild hnode)
  | none =>
    rw [meaning_schema_of_get?_eq_none site hname] at hchild
    exact h.backs_fill_children site _ hchild hnode

/-- An answer is registered itself, unless it is the list or tuple of a new name. -/
theorem Coherent.meaning_cases {r : Registry} (h : r.Coherent) (site : Site) (name : String) :
    (r.Backs (r.meaning site name).schema ∧ ((r.meaning site name).schema.isArray = true →
        (r.meaning site name).schema.name? = some name)) ∨
      (r.get? name = none ∧ (r.meaning site name).schema.Nameless) := by
  cases hname : r.get? name with
  | some schema =>
    rw [meaning_of_get? site hname]
    exact Or.inl ⟨h.backs hname Occurs.here, h.arrayName hname⟩
  | none =>
    rw [meaning_schema_of_get?_eq_none site hname]
    rcases h.fill_cases site (TypeName.outline site name) with hnameless | ⟨hother, hbacks⟩
    · exact Or.inr ⟨rfl, hnameless⟩
    · left
      refine ⟨hbacks, ?_⟩
      intro harray
      rw [hother] at harray
      exact absurd harray Bool.false_ne_true

/-- Runs that begin with a coherent registry stay coherent.  What stands inside of an answer is
registered at once and for good, and so is the answer itself unless it is the list or tuple of a
new name.  A schema inside of an answer or an entry that is written by a name is thus the entry of
this name, if it is not a mere reference. -/
theorem coherent_resolveAll :
    builtin.Coherent ∧ empty.Coherent ∧
      ∀ s : Session, s.registry.Coherent →
        (∀ queries : List Query, (s.resolveAll queries).2.registry.Coherent) ∧
        ∀ (earlier : List Query) (q : Query) (later : List Query),
          let before := (s.resolveAll earlier).2
          let answer := (before.resolve q.site q.name).1.schema
          let after := (s.resolveAll (earlier ++ q :: later)).2.registry
          (∀ child ∈ answer.children, ∀ node, Occurs node child → after.Backs node) ∧
          ((after.Backs answer ∧ (answer.isArray = true → answer.name? = some q.name)) ∨
            (before.registry.get? q.name = none ∧ answer.Nameless)) ∧
          ∀ root, (root = answer ∨ ∃ key, after.get? key = some root) →
            ∀ node name, Occurs node root → node.usage = .schemaRef name →
              node = .reference name ∨ after.get? name = some node := by
  refine ⟨coherent_builtin, coherent_empty, fun s h => ⟨fun queries => ?_, ?_⟩⟩
  · rw [Session.resolveAll_registry]
    exact coherent_after h queries
  · intro earlier q later
    dsimp only
    rw [Session.resolve_fst, Session.resolveAll_registry, Session.resolveAll_registry]
    have hbefore : (s.registry.after earlier).Coherent := coherent_after h earlier
    have hafter : (s.registry.after (earlier ++ q :: later)).Coherent := coherent_after h _
    have hextends : (s.registry.after (earlier ++ q :: later)).Extends
        (s.registry.after earlier) := by
      rw [after_append]
      exact extends_after _ _
    have hchildren : ∀ child ∈ ((s.registry.after earlier).meaning q.site q.name).schema.children,
        ∀ node, Occurs node child → (s.registry.after (earlier ++ q :: later)).Backs node := by
      intro child hchild node hnode
      exact (hbefore.backs_meaning_children q.site q.name hchild hnode).mono hextends
    have hanswer := hbefore.meaning_cases q.site q.name
    refine ⟨hchildren, ?_, ?_⟩
    · rcases hanswer with ⟨hbacks, hname⟩ | hnew
      · exact Or.inl ⟨hbacks.mono hextends, hname⟩
      · exact Or.inr hnew
    · rintro root (rfl | ⟨key, hroot⟩) node name hnode husage
      · cases hnode with
        | here =>
          rcases hanswer with ⟨hbacks, _⟩ | ⟨_, hnameless⟩
          · exact (hbacks.mono hextends).get?_of_usage husage
          · have hnone := hnameless.2
            rw [name?_of_usage husage] at hnone
            exact absurd hnone (Option.some_ne_none name)
        | inside hchild hnode => exact (hchildren _ hchild node hnode).get?_of_usage husage
      · exact (hafter.backs hroot hnode).get?_of_usage husage

/-- The inner list of a list of lists is registered when the outer one is looked up again. -/
theorem coherent_listOfLists :
    let queries : List Query :=
      [⟨.call, "Vec<u32>"⟩, ⟨.call, "Vec<Vec<u32>>"⟩, ⟨.rpc, "Vec<Vec<u32>>"⟩]
    (Session.ofRegistry builtin).registry.Coherent ∧
      ((Session.ofRegistry builtin).resolveAll queries).2.registry.Coherent :=
  ⟨coherent_builtin,
    (coherent_resolveAll.2.2 (Session.ofRegistry builtin) coherent_builtin).1 _⟩

end Registry
end NodeApi
