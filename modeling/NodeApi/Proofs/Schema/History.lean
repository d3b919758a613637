import NodeApi.Proofs.Schema.Meaning
import NodeApi.Proofs.TypeName.Optional

/-!
# Names with a history

What a new type of a method parameter means does not depend on what was resolved before it, with one
exception.  An option or compact form that was resolved to a builtin type is registered as this type,
and is from then on taken for a builtin type inside of another option or compact form.

Main results:

- Theorem `get?_afterParams_iff`: a name is registered as a builtin type exactly if the history has
  settled it.
- Theorem `meaning_afterParams_eq_iff`: when a new name means after a history what it means at first.
- Theorem `resolve_after_history`: a new name means what it means at first, unless what is left of it
  is settled and no builtin type itself.
- Theorem `not_resolve_after_history`: an option of an option may be a builtin type or a reference.
-/

namespace NodeApi

open Registry

/-! ## Settled names -/

/-- The registry of the builtin types after types of method parameters have been resolved. -/
def afterParams (history : List String) : Registry :=
  builtin.after (history.map (Query.mk .rpc))

/-- A history settles a name as a builtin type.  The name is that of the type, or what was left of it
when it was first resolved was settled by then. -/
inductive SettledAs (type : String) : List String → String → Prop where
  | builtin {history : List String} :
      type ∈ builtinTypes.map (·.1) → SettledAs type history type
  | resolved {earlier later : List String} {name core : String} :
      name ∉ builtinTypes.map (·.1) → name ∉ earlier →
      TypeName.outline .rpc name = .name core → SettledAs type earlier core →
      SettledAs type (earlier ++ name :: later) name

/-- A builtin type is settled as itself only. -/
theorem SettledAs.eq_of_mem {type name : String} {history : List String}
    (h : SettledAs type history name) (hname : name ∈ builtinTypes.map (·.1)) : type = name := by
  cases h with
  | builtin _ => rfl
  | resolved hnot => exact absurd hname hnot

/-- A name is settled as a builtin type. -/
theorem SettledAs.exists_builtin {type name : String} {history : List String}
    (h : SettledAs type history name) :
    ∃ jsonType, Registry.builtin.get? type = some (.primitive type jsonType) := by
  induction h with
  | builtin htype =>
    rcases Option.ne_none_iff_exists'.1 (get?_builtin_ne_none_iff.2 htype) with ⟨schema, hget⟩
    rcases get?_builtin hget with ⟨jsonType, rfl⟩
    exact ⟨jsonType, hget⟩
  | resolved _ _ _ _ ih => exact ih

/-- Without a history only the builtin types are settled. -/
theorem SettledAs.mem_of_nil {type name : String} (h : SettledAs type [] name) :
    name ∈ builtinTypes.map (·.1) := by
  generalize hnil : ([] : List String) = history at h
  cases h with
  | builtin htype => exact htype
  | resolved => simp at hnil

theorem get?_afterParams_eq_none_iff {history : List String} {name : String} :
    (afterParams history).get? name = none ↔
      name ∉ builtinTypes.map (·.1) ∧ name ∉ history := by
  rw [← not_iff_not, ← ne_eq, afterParams, get?_after_ne_none_iff, get?_builtin_ne_none_iff]
  simp [or_iff_not_imp_left]

/-- What is left of a name is a registered builtin type, if the filled-in outline of the name is
one. -/
theorem exists_core_of_fill {r : Registry} {site : Site} {outline : TypeName.Outline}
    {key primitive : String} {type : JsonType}
    (h : (r.fill site outline).named key = .primitive primitive type) :
    ∃ core, outline = .name core ∧ r.get? core = some (.primitive primitive type) := by
  cases outline with
  | list item => simp [fill, Schema.named] at h
  | tuple elements => simp [fill, Schema.named] at h
  | name core =>
    refine ⟨core, rfl, ?_⟩
    rcases r.leaf_cases core with hleaf | ⟨other, otherType, hleaf, hget⟩
    · rw [fill, hleaf] at h
      simp [Schema.named] at h
    · rw [fill, hleaf] at h
      exact hget.trans (congrArg some h)

/-- A registered builtin type is not taken apart. -/
theorem leaf_of_primitive {r : Registry} {name primitive : String} {type : JsonType}
    (h : r.get? name = some (.primitive primitive type)) :
    (r.leaf name).1 = .primitive primitive type := by
  simp [leaf, h]

/-- A name is registered as a builtin type exactly if the history has settled it. -/
theorem get?_afterParams_iff {history : List String} {name primitive : String} {type : JsonType} :
    (afterParams history).get? name = some (.primitive primitive type) ↔
      SettledAs primitive history name ∧
        builtin.get? primitive = some (.primitive primitive type) := by
  constructor
  · induction hlength : history.length using Nat.strongRecOn generalizing history name with
    | ind length ih =>
      intro h
      rcases exists_resolved_of_get?_after h with
        hbuiltin | ⟨before, q, after, hsplit, rfl, hnew, hschema⟩
      · rcases get?_builtin hbuiltin with ⟨_, heq⟩
        rcases Schema.primitive.inj heq with ⟨rfl, rfl⟩
        refine ⟨.builtin ?_, hbuiltin⟩
        rw [← get?_builtin_ne_none_iff, hbuiltin]
        exact Option.some_ne_none _
      · -- the name was first resolved when the history was shorter
        rcases List.map_eq_append_iff.1 hsplit with ⟨earlier, rest, rfl, rfl, hrest⟩
        rcases List.map_eq_cons_iff.1 hrest with ⟨name, later, rfl, rfl, rfl⟩
        rcases exists_core_of_fill hschema.symm with ⟨core, hcore, hget⟩
        have hnone := get?_afterParams_eq_none_iff.1 hnew
        have hshorter : earlier.length < length := by
          rw [← hlength, List.length_append, List.length_cons]
          omega
        rcases ih earlier.length hshorter rfl hget with ⟨hsettled, htype⟩
        exact ⟨.resolved hnone.1 hnone.2 hcore hsettled, htype⟩
  · rintro ⟨hsettled, htype⟩
    induction hsettled with
    | builtin _ => exact builtin.extends_after _ htype
    | @resolved earlier later name core hnot hfirst hcore _ ih =>
      have hnew : (afterParams earlier).get? name = none :=
        get?_afterParams_eq_none_iff.2 ⟨hnot, hfirst⟩
      have hrun : afterParams (earlier ++ name :: later) =
          ((afterParams earlier).resolved .rpc name).after (later.map (Query.mk .rpc)) := by
        rw [afterParams, List.map_append, after_append]
        rfl
      have hself := get?_resolved_self .rpc hnew
      rw [hcore, fill, leaf_of_primitive ih] at hself
      rw [hrun]
      exact extends_after _ _ hself

/-! ## New names -/

/-- The names of the builtin types are not taken apart. -/
theorem outline_of_mem_builtinTypes {name : String} (h : name ∈ builtinTypes.map (·.1)) :
    TypeName.outline .rpc name = .name name := by
  revert name
  decide +kernel

/-- The type of a method parameter is never taken apart as a tuple. -/
theorem outline_rpc_cases (name : String) :
    (∃ item, TypeName.outline .rpc name = .list item) ∨
      ∃ core, TypeName.outline .rpc name = .name core := by
  unfold TypeName.outline
  dsimp only
  split
  · rename_i item _
    exact Or.inl ⟨item, rfl⟩
  · exact Or.inr ⟨_, rfl⟩

/-- What a history has settled is left as the builtin type. -/
theorem leaf_of_settledAs {history : List String} {core type : String} {jsonType : JsonType}
    (hsettled : SettledAs type history core)
    (htype : builtin.get? type = some (.primitive type jsonType)) :
    ((afterParams history).leaf core).1 = .primitive type jsonType :=
  leaf_of_primitive (get?_afterParams_iff.2 ⟨hsettled, htype⟩)

/-- What is left of a name after a history: the builtin type that the history has settled it as, or a
reference. -/
theorem leaf_afterParams_cases (history : List String) (core : String) :
    (∃ type jsonType, SettledAs type history core ∧
      builtin.get? type = some (.primitive type jsonType) ∧
      ((afterParams history).leaf core).1 = .primitive type jsonType) ∨
    ((∀ type, ¬SettledAs type history core) ∧
      ((afterParams history).leaf core).1 = .reference core) := by
  rcases (afterParams history).leaf_cases core with hleaf | ⟨type, jsonType, hleaf, hget⟩
  · right
    refine ⟨?_, hleaf⟩
    intro type hsettled
    rcases hsettled.exists_builtin with ⟨jsonType, htype⟩
    rw [leaf_of_settledAs hsettled htype] at hleaf
    exact Schema.noConfusion hleaf
  · left
    rcases get?_afterParams_iff.1 hget with ⟨hsettled, htype⟩
    exact ⟨type, jsonType, hsettled, htype, hleaf⟩

/-- Without a history everything but the builtin types is left as a reference. -/
theorem leaf_afterParams_nil {core : String} (h : core ∉ builtinTypes.map (·.1)) :
    ((afterParams []).leaf core).1 = .reference core := by
  rcases leaf_afterParams_cases [] core with ⟨_, _, hsettled, _⟩ | ⟨_, hleaf⟩
  · exact absurd hsettled.mem_of_nil h
  · exact hleaf

/-- A new name means its filled-in outline, also if it is the name of a builtin type. -/
theorem meaning_afterParams_schema {history : List String} {name : String}
    (hnew : name ∉ history) :
    ((afterParams history).meaning .rpc name).schema =
      (afterParams history).fill .rpc (TypeName.outline .rpc name) := by
  by_cases hname : name ∈ builtinTypes.map (·.1)
  · have hsettled : SettledAs name history name := .builtin hname
    rcases hsettled.exists_builtin with ⟨jsonType, htype⟩
    have hget := get?_afterParams_iff.2 ⟨hsettled, htype⟩
    rw [meaning_of_get? .rpc hget, outline_of_mem_builtinTypes hname, fill,
      leaf_of_primitive hget]
  · exact meaning_schema_of_get?_eq_none .rpc (get?_afterParams_eq_none_iff.2 ⟨hname, hnew⟩)

/-- Whether a new name is required can be read off the name. -/
theorem meaning_afterParams_required {history : List String} {name : String}
    (hnew : name ∉ history) :
    ((afterParams history).meaning .rpc name).required = (builtin.meaning .rpc name).required := by
  cases hbuiltin : builtin.get? name with
  | some schema =>
    have hget : (afterParams history).get? name = some schema :=
      builtin.extends_after _ hbuiltin
    rw [meaning_of_get? .rpc hbuiltin, meaning_of_get? .rpc hget]
  | none =>
    have hname : name ∉ builtinTypes.map (·.1) := by
      rw [← get?_builtin_ne_none_iff, hbuiltin]
      simp
    have hget := get?_afterParams_eq_none_iff.2 ⟨hname, hnew⟩
    rw [meaning, meaning, hget, hbuiltin]
    exact describe_required_congr _ .rpc name _ .rpc

/-- A new name is a builtin type exactly if what is left of it is settled. -/
theorem isPrimitive_meaning_afterParams_iff {history : List String} {name : String}
    (hnew : name ∉ history) :
    ((afterParams history).meaning .rpc name).schema.isPrimitive = true ↔
      ∃ core type, TypeName.outline .rpc name = .name core ∧ SettledAs type history core := by
  rw [meaning_afterParams_schema hnew]
  rcases outline_rpc_cases name with ⟨item, hitem⟩ | ⟨core, hcore⟩
  · rw [hitem]
    simp [fill, Schema.isPrimitive]
  · rw [hcore, fill]
    rcases leaf_afterParams_cases history core with
      ⟨type, jsonType, hsettled, _, hleaf⟩ | ⟨hnot, hleaf⟩
    · rw [hleaf]
      exact iff_of_true rfl ⟨core, type, rfl, hsettled⟩
    · rw [hleaf]
      refine iff_of_false Bool.false_ne_true ?_
      rintro ⟨other, type, hother, hsettled⟩
      rw [TypeName.Outline.name.inj hother] at hnot
      exact hnot type hsettled

/-- What is left of a name means after a history what it means at first, unless the history has
settled it. -/
theorem leaf_afterParams_eq_iff (history : List String) (core : String) :
    ((afterParams history).leaf core).1 = ((afterParams []).leaf core).1 ↔
      (core ∉ builtinTypes.map (·.1) → ∀ type, ¬SettledAs type history core) := by
  rcases leaf_afterParams_cases history core with
    ⟨type, jsonType, hsettled, htype, hnow⟩ | ⟨hnot, hnow⟩
  · by_cases hcore : core ∈ builtinTypes.map (·.1)
    · have hself := hsettled.eq_of_mem hcore
      subst hself
      rw [hnow, leaf_of_settledAs (.builtin hcore) htype]
      exact iff_of_true rfl (absurd hcore)
    · rw [hnow, leaf_afterParams_nil hcore]
      exact iff_of_false Schema.noConfusion fun h => h hcore type hsettled
  · have hcore : core ∉ builtinTypes.map (·.1) := fun h => hnot core (.builtin h)
    rw [hnow, leaf_afterParams_nil hcore]
    exact iff_of_true rfl fun _ => hnot

/-- A new name means after a history what it means at first, unless what is left of it is settled by
the history and is no builtin type itself. -/
theorem meaning_afterParams_eq_iff {history : List String} {name : String}
    (hnew : name ∉ history) :
    (afterParams history).meaning .rpc name = (afterParams []).meaning .rpc name ↔
      ∀ core, TypeName.outline .rpc name = .name core → core ∉ builtinTypes.map (·.1) →
        ∀ type, ¬SettledAs type history core := by
  have hschema : (afterParams history).meaning .rpc name = (afterParams []).meaning .rpc name ↔
      (afterParams history).fill .rpc (TypeName.outline .rpc name) =
        (afterParams []).fill .rpc (TypeName.outline .rpc name) := by
    rw [← meaning_afterParams_schema hnew, ← meaning_afterParams_schema List.not_mem_nil]
    exact ⟨congrArg Resolution.schema, Resolution.ext (meaning_afterParams_required hnew)⟩
  rw [hschema]
  rcases outline_rpc_cases name with ⟨item, hitem⟩ | ⟨core, hcore⟩
  · rw [hitem]
    exact iff_of_true rfl fun _ h => nomatch h
  · rw [hcore, fill, fill, leaf_afterParams_eq_iff]
    constructor
    · intro h other hother
      rw [← TypeName.Outline.name.inj hother]
      exact h
    · intro h
      exact h core rfl

/-! ## The same name with and without a history -/

/-- What the type of a method parameter means when it is resolved after others, in a run that begins
with the builtin types. -/
def meaningAfter (history : List String) (name : String) : Resolution :=
  (((Session.ofRegistry builtin).resolveAll (history.map (Query.mk .rpc))).2.resolve .rpc name).1

theorem meaningAfter_eq (history : List String) (name : String) :
    meaningAfter history name = (afterParams history).meaning .rpc name := by
  rw [meaningAfter, Session.resolve_fst, Session.resolveAll_registry]
  rfl

/-- A new name means what it means at first, unless what is left of it is settled by the history and
is no builtin type itself.  It is required or not as it is at first; and where it is a reference at
first it is then the builtin type. -/
theorem resolve_after_history (history : List String) (name : String) (hnew : name ∉ history) :
    (meaningAfter history name).required = (meaningAfter [] name).required ∧
      ((meaningAfter [] name).schema.isPrimitive = true ↔
        ∃ core, TypeName.outline .rpc name = .name core ∧ core ∈ builtinTypes.map (·.1)) ∧
      ((meaningAfter history name).schema.isPrimitive = true ↔
        ∃ core type, TypeName.outline .rpc name = .name core ∧ SettledAs type history core) ∧
      (meaningAfter history name = meaningAfter [] name ↔
        ∀ core, TypeName.outline .rpc name = .name core → core ∉ builtinTypes.map (·.1) →
          ∀ type, ¬SettledAs type history core) ∧
      ∀ core type, TypeName.outline .rpc name = .name core → core ∉ builtinTypes.map (·.1) →
        SettledAs type history core →
          (meaningAfter [] name).schema = .reference core ∧
            ∃ jsonType, builtin.get? type = some (.primitive type jsonType) ∧
              (meaningAfter history name).schema = .primitive type jsonType := by
  have hfresh : name ∉ [] := List.not_mem_nil
  simp only [meaningAfter_eq]
  refine ⟨meaning_afterParams_required hnew, ?_, isPrimitive_meaning_afterParams_iff hnew, ?_, ?_⟩
  · rw [isPrimitive_meaning_afterParams_iff hfresh]
    constructor
    · rintro ⟨core, type, hcore, hsettled⟩
      exact ⟨core, hcore, hsettled.mem_of_nil⟩
    · rintro ⟨core, hcore, hmem⟩
      exact ⟨core, core, hcore, .builtin hmem⟩
  · exact meaning_afterParams_eq_iff hnew
  · intro core type hcore hnot hsettled
    rcases hsettled.exists_builtin with ⟨jsonType, htype⟩
    rw [meaning_afterParams_schema hnew, meaning_afterParams_schema hfresh, hcore, fill, fill]
    exact ⟨leaf_afterParams_nil hnot, jsonType, htype, leaf_of_settledAs hsettled htype⟩

/-- A compact form that has been resolved to a builtin type makes no difference to an option of it,
since the option is taken apart down to the builtin type. -/
theorem resolve_after_history_compact :
    "Option<Compact<u32>>" ∉ ["Compact<u32>"] ∧
      meaningAfter ["Compact<u32>"] "Option<Compact<u32>>" =
        meaningAfter [] "Option<Compact<u32>>" ∧
      (meaningAfter [] "Option<Compact<u32>>").schema.isPrimitive = true := by
  have hnew : "Option<Compact<u32>>" ∉ ["Compact<u32>"] := by decide
  have houtline : TypeName.outline .rpc "Option<Compact<u32>>" = .name "u32" := by
    decide +kernel
  have hbuiltin : "u32" ∈ builtinTypes.map (·.1) := by decide
  rcases resolve_after_history ["Compact<u32>"] "Option<Compact<u32>>" hnew with
    ⟨_, hprimitive, _, hsame, _⟩
  refine ⟨hnew, hsame.2 ?_, hprimitive.2 ⟨"u32", houtline, hbuiltin⟩⟩
  intro core hcore hnot
  rw [houtline] at hcore
  rw [← TypeName.Outline.name.inj hcore] at hnot
  exact absurd hbuiltin hnot

/-- An option of an option is a reference to the inner one at first.  It is a builtin type when the
inner one has been resolved before. -/
theorem not_resolve_after_history :
    meaningAfter [] "Option<Option<u32>>" = ⟨false, .reference "Option<u32>"⟩ ∧
      meaningAfter ["Option<u32>"] "Option<Option<u32>>" = ⟨false, .primitive "u32" .integer⟩ ∧
      ¬∀ (history : List String) (name : String), name ∉ history →
        meaningAfter history name = meaningAfter [] name := by
  have hfirst : meaningAfter [] "Option<Option<u32>>" = ⟨false, .reference "Option<u32>"⟩ := by
    decide +kernel
  have hlater : meaningAfter ["Option<u32>"] "Option<Option<u32>>" =
      ⟨false, .primitive "u32" .integer⟩ := by
    decide +kernel
  refine ⟨hfirst, hlater, ?_⟩
  intro h
  have hsame := h ["Option<u32>"] "Option<Option<u32>>" (by decide)
  rw [hfirst, hlater] at hsame
  exact absurd (congrArg Resolution.schema hsame) (by decide)

end NodeApi
