import NodeApi.Proofs.Document.Lockstep
import NodeApi.Proofs.Schema.Meaning
import NodeApi.Proofs.TypeName.Optional

/-!
# What methods and calls know of each other

Methods and calls are described in one run, so that the types of methods are known when calls are
described.  This makes a difference to a call only if the type of one of its fields, or a name that
this type is taken apart into, is the type of a parameter of a method and no builtin type.  Calls make
no difference to methods at all.

Main results:

- Theorem `resolvesAlike_agreeOn`: the meaning of a call field depends on the names it consults only.
- Theorem `Metadata.describe_described`: the calls after methods that share no names with them.
- Theorem `Document.generate_independent`: methods that share no names with calls do not change them,
  and calls never change methods.
-/

namespace NodeApi

/-! ## Consulted names -/

namespace TypeName

/-- The names that a type name is taken apart into. -/
def Outline.names : Outline → List String
  | list item => [item]
  | tuple elements => elements
  | .name core => [core]

/-- The names that are looked up when the type of a call field is resolved: the name itself; and
without the option around it, the name of the items of a list; or without the compact form around
that, the names of the elements of a tuple, or else what is left. -/
def consulted (name : String) : List String :=
  name :: (outline .call name).names

end TypeName

namespace Registry

/-- Two registries agree on some names if they hold the same schemas for them. -/
def AgreeOn (names : String → Prop) (r r' : Registry) : Prop :=
  ∀ name, names name → r.get? name = r'.get? name

/-- The outline of the type of a call field is filled in the same by registries that agree on the
names in it. -/
theorem fill_congr {r r' : Registry} {outline : TypeName.Outline}
    (h : ∀ name ∈ outline.names, r.get? name = r'.get? name) :
    r.fill .call outline = r'.fill .call outline := by
  cases outline with
  | list item =>
    simp only [fill, itemSchema, schemaOf, h item List.mem_cons_self]
  | tuple elements =>
    rw [fill, fill]
    congr 1
    apply List.map_congr_left
    intro element helement
    rw [schemaOf, schemaOf, h element helement]
  | name core =>
    simp only [fill, leaf, h core List.mem_cons_self]

/-- The type of a call field means the same in registries that agree on the names it consults. -/
theorem meaning_congr {r r' : Registry} {type : String}
    (h : ∀ name ∈ TypeName.consulted type, r.get? name = r'.get? name) :
    r.meaning .call type = r'.meaning .call type := by
  have hself : r.get? type = r'.get? type := h type List.mem_cons_self
  have hinner : r.fill .call (TypeName.outline .call type) =
      r'.fill .call (TypeName.outline .call type) :=
    fill_congr fun name hname => h name (List.mem_cons_of_mem type hname)
  rw [meaning, meaning, hself]
  cases r'.get? type with
  | some schema => rfl
  | none =>
    apply Resolution.ext
    · exact r.describe_required_congr .call type r' .call
    · rw [describe_schema, describe_schema, hinner]

end Registry

/-- The meaning of a call field depends on the names it consults only, and resolving it keeps
registries in agreement. -/
theorem resolvesAlike_agreeOn {names : String → Prop} {type : String}
    (h : ∀ name ∈ TypeName.consulted type, names name) :
    ResolvesAlike (Registry.AgreeOn names) .call type := by
  intro r r' hagree
  have hmeaning : r.meaning .call type = r'.meaning .call type :=
    Registry.meaning_congr fun name hname => hagree name (h name hname)
  refine ⟨hmeaning, ?_⟩
  intro key hkey
  rw [Registry.resolved, Registry.resolved, Registry.get?_register, Registry.get?_register, hmeaning,
    hagree type (h type List.mem_cons_self), hagree key hkey]

/-! ## Documents -/

/-- The run of a document when all methods have been described and no calls yet. -/
def Rpc.described (definitions : Definitions) : Session :=
  (describe definitions .omitted (.ofRegistry .builtin)).2

/-- Without methods the calls are described with the builtin types only. -/
theorem Rpc.described_empty : described .empty = .ofRegistry .builtin :=
  rfl

theorem Rpc.described_shows (definitions : Definitions) :
    Registry.builtin.Shows (definitions.params.map Param.declared)
      ((describe definitions .omitted (.ofRegistry .builtin)).1.flatMap MethodEntry.params)
      (described definitions).registry :=
  describe_shows definitions (.ofRegistry .builtin)

/-- Describing the methods changes nothing for the builtin types, and nothing for names that are none
of the types of their parameters. -/
theorem Rpc.agreeOn_described {definitions : Definitions} {names : String → Prop}
    (h : ∀ p ∈ definitions.params, p.type ∉ Registry.builtinTypes.map (·.1) → ¬names p.type) :
    (described definitions).registry.AgreeOn names .builtin := by
  have hshows := described_shows definitions
  intro name hname
  cases hbuiltin : Registry.builtin.get? name with
  | some schema => exact hshows.extends hbuiltin
  | none =>
    by_contra hnew
    rw [hshows.2, ← ne_eq, Registry.get?_after_ne_none_iff] at hnew
    rcases hnew with hold | ⟨q, hq, rfl⟩
    · exact hold hbuiltin
    · rcases List.mem_map.1 hq with ⟨_, hdeclared, rfl⟩
      rcases List.mem_map.1 hdeclared with ⟨p, hp, rfl⟩
      apply h p hp _ hname
      rw [← Registry.get?_builtin_ne_none_iff]
      exact not_not_intro hbuiltin

/-- A name is consulted by a field of a call that is described. -/
def Metadata.Consulted (l : Lookup) (pallets : List Pallet) (name : String) : Prop :=
  ∃ field ∈ declared l pallets, name ∈ TypeName.consulted field.type

/-- Methods whose parameters have no types that are consulted make no difference to the calls. -/
theorem Metadata.describe_described {definitions : Rpc.Definitions} {l : Lookup}
    {pallets : List Pallet}
    (h : ∀ p ∈ definitions.params, p.type ∉ Registry.builtinTypes.map (·.1) →
      ¬Consulted l pallets p.type) :
    let calls := describe l pallets (Rpc.described definitions)
    let bare := describe l pallets (.ofRegistry .builtin)
    calls.1 = bare.1 ∧ calls.2.registry.AgreeOn (Consulted l pallets) bare.2.registry := by
  have hagree : (Rpc.described definitions).registry.AgreeOn (Consulted l pallets) .builtin :=
    Rpc.agreeOn_described h
  have hfields : ∀ field ∈ declared l pallets,
      ResolvesAlike (Registry.AgreeOn (Consulted l pallets)) .call field.type := by
    intro field hfield
    apply resolvesAlike_agreeOn
    intro name hname
    exact ⟨field, hfield, hname⟩
  exact describe_lockstep hfields _ (.ofRegistry .builtin) hagree

namespace Document

section
variable (definitions : Rpc.Definitions) (pallets : List Metadata.Pallet)
  (lookup : Metadata.Lookup)

/-- The methods of a document are described first. -/
theorem generate_methods :
    (generate definitions pallets lookup).1.methods =
      (Rpc.describe definitions .omitted (.ofRegistry .builtin)).1 :=
  rfl

/-- The calls of a document are described after its methods, in the same run. -/
theorem generate_calls :
    let d := (generate definitions pallets lookup).1
    let calls := Metadata.describe lookup pallets (Rpc.described definitions)
    d.extrinsics = calls.1 ∧ d.schemas = calls.2.registry :=
  ⟨rfl, rfl⟩

end

/-- Methods and calls share nothing but names.  Methods make no difference to the calls, nor to the
schemas of the types of their fields, if no type of a method parameter other than the builtin types
is consulted by a field.  Calls make no difference to the methods, nor to the schemas of the types of
their parameters. -/
theorem generate_independent (definitions : Rpc.Definitions) (pallets : List Metadata.Pallet)
    (lookup : Metadata.Lookup) :
    let d := (generate definitions pallets lookup).1
    ((∀ p ∈ definitions.params, p.type ∉ Registry.builtinTypes.map (·.1) →
        ∀ field ∈ Metadata.declared lookup pallets, p.type ∉ TypeName.consulted field.type) →
      let bare := (generate .empty pallets lookup).1
      d.extrinsics = bare.extrinsics ∧
        ∀ field ∈ Metadata.declared lookup pallets, ∃ schema,
          d.schemas.get? field.type = some schema ∧
            bare.schemas.get? field.type = some schema) ∧
    ∀ (pallets' : List Metadata.Pallet) (lookup' : Metadata.Lookup),
      let d' := (generate definitions pallets' lookup').1
      d.methods = d'.methods ∧
        ∀ p ∈ definitions.params, ∃ schema,
          d.schemas.get? p.type = some schema ∧ d'.schemas.get? p.type = some schema := by
  intro d
  rcases generate_calls definitions pallets lookup with ⟨hcalls, hschemas⟩
  constructor
  · intro hdisjoint bare
    rcases generate_calls .empty pallets lookup with ⟨hbareCalls, hbareSchemas⟩
    rw [Rpc.described_empty] at hbareCalls hbareSchemas
    have hnone : ∀ p ∈ definitions.params, p.type ∉ Registry.builtinTypes.map (·.1) →
        ¬Metadata.Consulted lookup pallets p.type := by
      rintro p hp hnot ⟨field, hfield, hname⟩
      exact hdisjoint p hp hnot field hfield hname
    rcases Metadata.describe_described hnone with ⟨hsame, hagree⟩
    refine ⟨hcalls.trans (hsame.trans hbareCalls.symm), ?_⟩
    intro field hfield
    have hshows := Metadata.describe_shows lookup pallets (Rpc.described definitions)
    rcases hshows.exists_get? hfield with ⟨schema, hget⟩
    refine ⟨schema, ?_, ?_⟩
    · rw [hschemas]
      exact hget
    · rw [hbareSchemas, ← hagree field.type ⟨field, hfield, List.mem_cons_self⟩]
      exact hget
  · intro pallets' lookup' d'
    rcases generate_calls definitions pallets' lookup' with ⟨_, hschemas'⟩
    constructor
    · exact (generate_methods definitions pallets lookup).trans
        (generate_methods definitions pallets' lookup').symm
    · intro p hp
      rcases (Rpc.described_shows definitions).exists_get? (List.mem_map_of_mem hp) with
        ⟨schema, hget⟩
      refine ⟨schema, ?_, ?_⟩
      · rw [hschemas]
        exact (Metadata.describe_shows lookup pallets _).extends hget
      · rw [hschemas']
        exact (Metadata.describe_shows lookup' pallets' _).extends hget

/-- A method with a builtin type and an option of it, and a call that uses the builtin type in a
compact form and in a tuple.  The option is known when the call is described, and is not asked for. -/
theorem generate_independent_option :
    let definitions : Rpc.Definitions :=
      .ofList [("chain", ⟨[("getBlock",
        ⟨[⟨"height", "u32", false⟩, ⟨"depth", "Option<u32>", false⟩], "Block", none, none⟩)]⟩)]
    let transfer : Metadata.Variant :=
      ⟨"transfer", [], [⟨some "value", 7, some "Compact<u32>"⟩, ⟨some "fee", 7, some "(u32,Fee)"⟩]⟩
    let pallets : List Metadata.Pallet := [⟨"Balances", some 0⟩]
    let lookup : Metadata.Lookup :=
      ⟨fun _ => none, fun id => if id = 0 then some [transfer] else none⟩
    let d := (generate definitions pallets lookup).1
    let bare := (generate .empty pallets lookup).1
    d.extrinsics = bare.extrinsics ∧ d.extrinsicParams.map (·.type) = ["Compact<u32>", "(u32,Fee)"] ∧
      d.schemas.get? "Option<u32>" = some (.primitive "u32" .integer) ∧
      bare.schemas.get? "Option<u32>" = none := by
  intro definitions transfer pallets lookup d bare
  have hdisjoint : ∀ p ∈ definitions.params, p.type ∉ Registry.builtinTypes.map (·.1) →
      ∀ field ∈ Metadata.declared lookup pallets, p.type ∉ TypeName.consulted field.type := by
    decide +kernel
  exact ⟨((generate_independent definitions pallets lookup).1 hdisjoint).1, by decide +kernel,
    by decide +kernel, by decide +kernel⟩

end Document
end NodeApi
