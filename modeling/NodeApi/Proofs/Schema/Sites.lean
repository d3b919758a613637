import NodeApi.Proofs.Schema.Run
import NodeApi.Proofs.TypeName.Optional

/-!
# Method parameters and call fields

A type name is resolved by almost the same rules wherever it stands.  Only what is inside of a list
or a tuple is treated differently: for a call field it is looked up, for a method parameter a list
has references as its items and a tuple is not taken apart.

Main results:

- Theorem `fill_ne_iff`: the two sites fill in different schemas exactly for a list of something
  that is registered, or for a tuple.
- Theorem `named_fill_inj`: what is filled in can be told from what is registered.
- Theorem `resolve_sites`: in what a resolution at one site differs from that at the other one.
-/

namespace NodeApi

/-! ## Schemas without their names -/

namespace Schema

/-- A list or tuple without its name. -/
def anonymous : Schema → Schema
  | list _ item => list none item
  | tuple _ elements => tuple none elements
  | schema => schema

/-- Naming a schema changes nothing but its name. -/
@[simp]
theorem anonymous_named (key : String) (schema : Schema) :
    (schema.named key).anonymous = schema.anonymous := by
  cases schema with
  | list name item => cases name <;> rfl
  | tuple name elements => cases name <;> rfl
  | _ => rfl

end Schema

open NodeApi.TypeName (Wrapper Strips peel unwrap? outline tuple? wrap)

namespace Registry

variable (r : Registry)

/-- What is filled in has no name yet. -/
@[simp]
theorem anonymous_fill (site : Site) (outline : TypeName.Outline) :
    (r.fill site outline).anonymous = r.fill site outline := by
  cases outline with
  | list item => rfl
  | tuple elements => rfl
  | name core =>
    rw [fill]
    rcases r.leaf_cases core with hleaf | ⟨primitive, type, hleaf, _⟩
    · rw [hleaf]
      rfl
    · rw [hleaf]
      rfl

/-- What is filled in can be told from what is registered under a name. -/
theorem named_fill_inj {site site' : Site} {outline outline' : TypeName.Outline} {key : String} :
    (r.fill site outline).named key = (r.fill site' outline').named key ↔
      r.fill site outline = r.fill site' outline' := by
  constructor
  · intro h
    have hanonymous := congrArg Schema.anonymous h
    simpa only [Schema.anonymous_named, anonymous_fill] using hanonymous
  · intro h
    rw [h]

/-! ## Two sites -/

/-- A type name is treated differently as a method parameter and as a call field: without the option
around it, it is a list of something that is registered, though not as a reference to itself; or it
is no list and, without the compact form around that, a tuple. -/
def TellsApart (type : String) : Prop :=
  ∃ body core, Strips .option type body ∧ Strips .compact body core ∧
    ((∃ item schema, item ≠ "" ∧ body = wrap Wrapper.vec.name item ∧
      r.get? item = some schema ∧ schema ≠ .reference item) ∨
    ((∀ item, item ≠ "" → body ≠ wrap Wrapper.vec.name item) ∧
      ∃ elements, tuple? core = some elements))

/-- The wrappers are taken off by peeling the name. -/
theorem tellsApart_iff {type : String} :
    r.TellsApart type ↔
      let body := (peel .option type).2
      let core := (peel .compact body).2
      (∃ item schema, item ≠ "" ∧ body = wrap Wrapper.vec.name item ∧
        r.get? item = some schema ∧ schema ≠ .reference item) ∨
      ((∀ item, item ≠ "" → body ≠ wrap Wrapper.vec.name item) ∧
        ∃ elements, tuple? core = some elements) := by
  simp only [TellsApart, TypeName.strips_iff]
  constructor
  · rintro ⟨_, _, rfl, rfl, h⟩
    exact h
  · exact fun h => ⟨_, _, rfl, rfl, h⟩

theorem tellsApart_of_list {type item : String}
    (h : unwrap? Wrapper.vec.name (peel .option type).2 = some item) :
    r.TellsApart type ↔ ∃ schema, r.get? item = some schema ∧ schema ≠ .reference item := by
  rcases TypeName.unwrap?_eq_some_iff.1 h with ⟨hitem, hbody⟩
  rw [tellsApart_iff]
  constructor
  · rintro (⟨other, schema, _, hother, hschema⟩ | ⟨hnone, _⟩)
    · obtain rfl : item = other := (TypeName.wrap_inj.1 (hbody.symm.trans hother)).2
      exact ⟨schema, hschema⟩
    · exact absurd hbody (hnone item hitem)
  · rintro ⟨schema, hschema⟩
    exact .inl ⟨item, schema, hitem, hbody, hschema⟩

theorem tellsApart_of_not_list {type : String}
    (h : unwrap? Wrapper.vec.name (peel .option type).2 = none) :
    r.TellsApart type ↔
      ∃ elements, tuple? (peel .compact (peel .option type).2).2 = some elements := by
  have hbody : ∀ item, item ≠ "" → (peel .option type).2 ≠ wrap Wrapper.vec.name item := by
    intro item hitem heq
    rw [TypeName.unwrap?_eq_some_iff.2 ⟨hitem, heq⟩] at h
    cases h
  rw [tellsApart_iff]
  constructor
  · rintro (⟨item, _, hitem, heq, _⟩ | ⟨_, htuple⟩)
    · exact absurd heq (hbody item hitem)
    · exact htuple
  · exact fun htuple => .inr ⟨hbody, htuple⟩

/-- The schema of a name is no reference to it if the name is registered as something else. -/
theorem schemaOf_ne_reference_iff {name : String} :
    r.schemaOf name ≠ .reference name ↔
      ∃ schema, r.get? name = some schema ∧ schema ≠ .reference name := by
  rw [schemaOf]
  cases r.get? name with
  | none => simp
  | some schema => simp

/-- A list has the same outline at both sites. -/
theorem outline_of_list {type item : String} (site : Site)
    (h : unwrap? Wrapper.vec.name (peel .option type).2 = some item) :
    outline site type = .list item := by
  unfold outline
  dsimp only
  rw [h]

/-- What is no list is a tuple at the one site only. -/
theorem outline_of_not_list {type : String}
    (h : unwrap? Wrapper.vec.name (peel .option type).2 = none) :
    let core := (peel .compact (peel .option type).2).2
    outline .rpc type = .name core ∧
      outline .call type = ((tuple? core).map .tuple).getD (.name core) := by
  unfold outline
  dsimp only
  rw [h]
  refine ⟨rfl, ?_⟩
  dsimp only
  cases tuple? (peel .compact (peel .option type).2).2 with
  | some elements => rfl
  | none => rfl

/-- The two sites fill in different schemas for a name exactly if it is treated differently. -/
theorem fill_ne_iff {type : String} :
    r.fill .rpc (outline .rpc type) ≠ r.fill .call (outline .call type) ↔ r.TellsApart type := by
  cases hvec : unwrap? Wrapper.vec.name (peel .option type).2 with
  | some item =>
    rw [r.tellsApart_of_list hvec, ← schemaOf_ne_reference_iff, outline_of_list .rpc hvec,
      outline_of_list .call hvec]
    exact not_congr ⟨fun h => (Schema.list.inj h).2.symm, fun h => congrArg _ h.symm⟩
  | none =>
    rcases outline_of_not_list hvec with ⟨hrpc, hcall⟩
    rw [r.tellsApart_of_not_list hvec, hrpc, hcall]
    generalize (peel .compact (peel .option type).2).2 = core
    cases tuple? core with
    | some elements =>
      refine iff_of_true (fun h => ?_) ⟨elements, rfl⟩
      -- what is not taken apart is no tuple
      change (r.leaf core).1 = .tuple none (elements.map r.schemaOf) at h
      rcases r.leaf_cases core with hleaf | ⟨primitive, type, hleaf, _⟩
      · rw [hleaf] at h
        cases h
      · rw [hleaf] at h
        cases h
    | none =>
      refine iff_of_false (fun h => h rfl) ?_
      rintro ⟨elements, helements⟩
      cases helements

/-- Whether a type is required can be read off its name, wherever the name stands. -/
theorem meaning_required_sites (type : String) :
    (r.meaning .rpc type).required = (r.meaning .call type).required := by
  cases hget : r.get? type with
  | some schema => rw [meaning_of_get? .rpc hget, meaning_of_get? .call hget]
  | none =>
    rw [meaning, meaning, hget]
    exact r.describe_required_congr .rpc type r .call

end Registry

/-! ## Resolutions at the two sites -/

/-- A type name is required as a method parameter exactly if it is required as a call field, and
both resolutions register this name and no other.  They differ in the schema, and in what is
registered for the name, exactly if the name is new and treated differently. -/
theorem Session.resolve_sites (s : Session) (type : String) :
    let param := s.resolve .rpc type
    let field := s.resolve .call type
    param.1.required = field.1.required ∧
      (∀ key, param.2.registry.contains key = field.2.registry.contains key) ∧
      (∀ key, key ≠ type → param.2.registry.get? key = field.2.registry.get? key) ∧
      (param.1.schema ≠ field.1.schema ↔
        s.registry.get? type = none ∧ s.registry.TellsApart type) ∧
      (param.2.registry.get? type ≠ field.2.registry.get? type ↔
        s.registry.get? type = none ∧ s.registry.TellsApart type) := by
  intro param field
  simp only [param, field, resolve_fst, resolve_registry]
  have hother (site : Site) {key : String} (hkey : key ≠ type) :
      (s.registry.resolved site type).get? key = s.registry.get? key := by
    rw [Registry.get?_resolved, if_neg hkey]
  refine ⟨s.registry.meaning_required_sites type, fun key => ?_, fun key hkey => ?_, ?_, ?_⟩
  · rw [Registry.contains_eq_isSome, Registry.contains_eq_isSome]
    by_cases hkey : key = type
    · subst hkey
      rw [Registry.isSome_get?_resolved, Registry.isSome_get?_resolved]
    · rw [hother .rpc hkey, hother .call hkey]
  · rw [hother .rpc hkey, hother .call hkey]
  · cases hget : s.registry.get? type with
    | some schema =>
      rw [Registry.meaning_of_get? .rpc hget, Registry.meaning_of_get? .call hget]
      simp
    | none =>
      rw [Registry.meaning_schema_of_get?_eq_none .rpc hget,
        Registry.meaning_schema_of_get?_eq_none .call hget, Registry.fill_ne_iff]
      simp
  · cases hget : s.registry.get? type with
    | some schema =>
      rw [Registry.resolved_of_get? .rpc hget, Registry.resolved_of_get? .call hget]
      simp
    | none =>
      rw [Registry.get?_resolved_self .rpc hget, Registry.get?_resolved_self .call hget, ne_eq,
        Option.some_inj, Registry.named_fill_inj, ← ne_eq, Registry.fill_ne_iff]
      simp

/-- An optional list of counts has references as its items for a method parameter, and integers for
a call field.  A compact pair is not taken apart for a method parameter, but for a call field it is.
A list of accounts, of which nothing is known, is the same for both. -/
theorem Session.resolve_sites_list :
    let s := Session.ofRegistry .builtin
    "u32" ≠ "Option<Vec<u32>>" ∧ s.registry.TellsApart "Option<Vec<u32>>" ∧
      s.registry.TellsApart "Compact<(u32, Hash)>" ∧ ¬s.registry.TellsApart "Vec<AccountId>" ∧
      (s.resolve .rpc "Option<Vec<u32>>").1.schema ≠
        (s.resolve .call "Option<Vec<u32>>").1.schema ∧
      (s.resolve .rpc "Compact<(u32, Hash)>").2.registry.get? "Compact<(u32, Hash)>" ≠
        (s.resolve .call "Compact<(u32, Hash)>").2.registry.get? "Compact<(u32, Hash)>" ∧
      (s.resolve .rpc "Vec<AccountId>").1.schema = (s.resolve .call "Vec<AccountId>").1.schema ∧
      (s.resolve .rpc "Option<Vec<u32>>").2.registry.get? "u32" =
        (s.resolve .call "Option<Vec<u32>>").2.registry.get? "u32" := by
  intro s
  have hcounts : s.registry.TellsApart "Option<Vec<u32>>" := by
    have hlist : unwrap? Wrapper.vec.name (peel .option "Option<Vec<u32>>").2 = some "u32" := by
      decide +kernel
    exact (s.registry.tellsApart_of_list hlist).2
      ⟨.primitive "u32" .integer, by decide +kernel, Schema.noConfusion⟩
  have hpair : s.registry.TellsApart "Compact<(u32, Hash)>" := by
    have hlist : unwrap? Wrapper.vec.name (peel .option "Compact<(u32, Hash)>").2 = none := by
      decide +kernel
    exact (s.registry.tellsApart_of_not_list hlist).2 ⟨["u32", "Hash"], by decide +kernel⟩
  have haccounts : ¬s.registry.TellsApart "Vec<AccountId>" := by
    have hlist : unwrap? Wrapper.vec.name (peel .option "Vec<AccountId>").2 =
        some "AccountId" := by
      decide +kernel
    have hnew : s.registry.get? "AccountId" = none := by decide +kernel
    rw [s.registry.tellsApart_of_list hlist, hnew]
    rintro ⟨schema, hschema, _⟩
    cases hschema
  have hne : "u32" ≠ "Option<Vec<u32>>" := by decide
  rcases resolve_sites s "Option<Vec<u32>>" with ⟨_, _, hother, hdiffer, _⟩
  rcases resolve_sites s "Compact<(u32, Hash)>" with ⟨_, _, _, _, hstored⟩
  rcases resolve_sites s "Vec<AccountId>" with ⟨_, _, _, hsame, _⟩
  refine ⟨hne, hcounts, hpair, haccounts, hdiffer.2 ⟨by decide +kernel, hcounts⟩,
    hstored.2 ⟨by decide +kernel, hpair⟩, ?_, hother "u32" hne⟩
  by_contra hdifferent
  exact haccounts (hsame.1 hdifferent).2

end NodeApi
