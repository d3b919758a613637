import NodeApi.Proofs.Document.Run
import NodeApi.Proofs.Metadata.Blocks

/-!
# What a run tells

Whatever a document does not describe is told once.  A type of which only the name is known is told
when it is resolved for the first time, and then a reference is stored for it; a pallet whose calls
the metadata do not know, and a field whose type they do not know, are told where they are met.

Main results:

- Theorem `Registry.references_after_perm`: every reference of a registry was stored once.
- Theorem `Session.notices_resolve`: a resolution tells of the reference that it stores.
- Theorem `Tells.mapEach`: describing the elements of a list tells what is to be told of each.
- Theorem `Notice.isPrefix_text_iff`: which records say that no schema is known.
- Theorem `Document.generate_notices`: a document tells of its references and of what is missing.
-/

namespace NodeApi

/-! ## Stored references -/

/-- The name that a reference refers to. -/
def Schema.referenceName? : Schema → Option String
  | reference name => some name
  | _ => none

@[simp]
theorem Schema.referenceName?_named (key : String) (schema : Schema) :
    (schema.named key).referenceName? = schema.referenceName? := by
  cases schema with
  | list n _ => cases n <;> rfl
  | tuple n _ => cases n <;> rfl
  | _ => rfl

namespace Registry

/-- The name in the reference that is stored when a name is resolved, if the name was not registered
before and is registered as a reference then. -/
def storedReference? (r : Registry) (q : Query) : Option String :=
  match r.get? q.name with
  | some _ => none
  | none => ((r.resolved q.site q.name).get? q.name).bind Schema.referenceName?

/-- The names in the references that are stored when names are resolved one after the other. -/
def storedReferences (r : Registry) : List Query → List String
  | [] => []
  | q :: queries =>
    (r.storedReference? q).toList ++ (r.resolved q.site q.name).storedReferences queries

/-- The names in the references of a registry, in the order of the keys. -/
def references (r : Registry) : List String :=
  r.entries.entries.filterMap fun entry => entry.2.referenceName?

theorem storedReferences_append (r : Registry) (earlier later : List Query) :
    r.storedReferences (earlier ++ later) =
      r.storedReferences earlier ++ (r.after earlier).storedReferences later := by
  induction earlier generalizing r with
  | nil => rfl
  | cons q earlier ih =>
    rw [List.cons_append, storedReferences, storedReferences, ih, List.append_assoc]
    rfl

theorem storedReferences_singleton (r : Registry) (q : Query) :
    r.storedReferences [q] = (r.storedReference? q).toList :=
  List.append_nil _

/-- A name that is registered is no reason to store anything. -/
theorem storedReference?_of_get? {r : Registry} {q : Query} {schema : Schema}
    (h : r.get? q.name = some schema) : r.storedReference? q = none := by
  rw [storedReference?, h]

/-- A new name is stored as a reference if this is what it means. -/
theorem storedReference?_of_get?_eq_none {r : Registry} {q : Query} (h : r.get? q.name = none) :
    r.storedReference? q = (r.describe q.site q.name).1.schema.referenceName? := by
  rw [storedReference?, h]
  dsimp only
  rw [get?_resolved_self q.site h, ← describe_schema, Option.bind_some,
    Schema.referenceName?_named]

theorem references_resolved_perm (r : Registry) (q : Query) :
    (r.resolved q.site q.name).references.Perm
      ((r.storedReference? q).toList ++ r.references) := by
  cases hget : r.get? q.name with
  | some schema =>
    rw [resolved_of_get? q.site hget, storedReference?_of_get? hget]
    exact .refl _
  | none =>
    have hentries := (Table.entries_insertNew_perm
      ((r.meaning q.site q.name).schema.named q.name) hget).filterMap
        fun entry => entry.2.referenceName?
    have hmeaning : r.meaning q.site q.name = (r.describe q.site q.name).1 := by
      rw [meaning, hget]
    refine hentries.trans ?_
    rw [storedReference?_of_get?_eq_none hget, ← hmeaning, List.filterMap_cons,
      Schema.referenceName?_named]
    cases (r.meaning q.site q.name).schema.referenceName? with
    | none => exact .refl _
    | some name => exact .refl _

/-- The references of a registry are those that were there before and those that were stored. -/
theorem references_after_perm (r : Registry) (queries : List Query) :
    (r.after queries).references.Perm (r.storedReferences queries ++ r.references) := by
  induction queries generalizing r with
  | nil => exact .refl _
  | cons q queries ih =>
    rw [storedReferences, List.append_assoc]
    refine (ih (r.resolved q.site q.name)).trans ?_
    refine ((r.references_resolved_perm q).append_left _).trans ?_
    exact List.perm_append_comm_assoc _ _ _

/-! ## Notices of a resolution -/

/-- What is told of a name that is not taken apart is that it is known by its name only. -/
theorem leaf_notices (r : Registry) (name : String) :
    (r.leaf name).2 = (r.leaf name).1.referenceName?.toList.map Notice.unknownType := by
  unfold leaf
  split <;> rfl

/-- A description tells of the reference that it gives, and of nothing else. -/
theorem describe_notices (r : Registry) (site : Site) (name : String) :
    (r.describe site name).2 =
      (r.describe site name).1.schema.referenceName?.toList.map Notice.unknownType := by
  unfold describe
  dsimp only
  split
  · rfl
  · split
    · rfl
    · exact r.leaf_notices _

end Registry

/-- A resolution tells of the reference that it stores, and of nothing else. -/
theorem Session.notices_resolve (s : Session) (q : Query) :
    (s.resolve q.site q.name).2.notices =
      s.notices ++ (s.registry.storedReference? q).toList.map Notice.unknownType := by
  cases hget : s.registry.get? q.name with
  | some schema =>
    rw [resolve_of_get? q.site hget, Registry.storedReference?_of_get? hget]
    exact (List.append_nil _).symm
  | none =>
    rw [resolve_of_get?_eq_none q.site hget, Registry.storedReference?_of_get?_eq_none hget,
      Registry.describe_notices]

/-! ## Notices of a description -/

/-- The types that are told to be known by their name only. -/
def unknownTypes (notices : List Notice) : List String :=
  notices.filterMap fun
    | .unknownType name => some name
    | _ => none

/-- The warnings among the notices. -/
def warnings (notices : List Notice) : List Notice :=
  notices.filter fun n => n.level = .warning

@[simp]
theorem unknownTypes_append (notices more : List Notice) :
    unknownTypes (notices ++ more) = unknownTypes notices ++ unknownTypes more :=
  List.filterMap_append

@[simp]
theorem warnings_append (notices more : List Notice) :
    warnings (notices ++ more) = warnings notices ++ warnings more :=
  List.filter_append _ _

theorem unknownTypes_map (names : List String) :
    unknownTypes (names.map Notice.unknownType) = names := by
  rw [unknownTypes, List.filterMap_map]
  exact List.filterMap_some

theorem warnings_map_unknownType (names : List String) :
    warnings (names.map Notice.unknownType) = [] := by
  rw [warnings, List.filter_eq_nil_iff]
  intro n hn
  rcases List.mem_map.1 hn with ⟨name, _, rfl⟩
  simp [Notice.level]

/-- The records that say that no schema is known, each with its level. -/
def unknownRecords (notices : List Notice) : List (Level × String) :=
  (notices.filter fun n => "No schema known for type".toList.isPrefixOf n.text.toList).map
    fun n => (n.level, n.text)

/-- Only of a type that is known by its name a record says that no schema is known. -/
theorem Notice.isPrefix_text_iff (n : Notice) :
    "No schema known for type".toList <+: n.text.toList ↔ ∃ name, n = unknownType name := by
  constructor
  · rintro ⟨rest, hrest⟩
    have hhead : n.text.toList.head? = some 'N' := by
      rw [← hrest]
      rfl
    unfold text at hhead
    split at hhead
    · exact ⟨_, rfl⟩
    all_goals simp at hhead
  · rintro ⟨name, rfl⟩
    have htext : (unknownType name).text =
        "No schema known for type" ++ (" `" ++ name ++ "`, using a reference to it") := by
      have hsplit : "No schema known for type `" = "No schema known for type" ++ " `" := by decide
      change "No schema known for type `" ++ name ++ _ = _
      rw [hsplit, String.append_assoc, String.append_assoc, String.append_assoc]
    rw [htext, String.toList_append]
    exact List.prefix_append _ _

/-- The records that say that no schema is known name the types that are known by their name
only. -/
theorem unknownRecords_eq (notices : List Notice) :
    unknownRecords notices = (unknownTypes notices).map fun name =>
      (.detail, "No schema known for type `" ++ name ++ "`, using a reference to it") := by
  have hfilter :
      (notices.filter fun n => "No schema known for type".toList.isPrefixOf n.text.toList) =
        (unknownTypes notices).map .unknownType := by
    induction notices with
    | nil => rfl
    | cons n notices ih =>
      have hstarts := n.isPrefix_text_iff
      rw [← List.isPrefixOf_iff_prefix] at hstarts
      rw [List.filter_cons, ih]
      cases n with
      | unknownType name =>
        rw [if_pos (hstarts.2 ⟨name, rfl⟩)]
        rfl
      | _ =>
        rw [if_neg fun h => by simpa using hstarts.1 h]
        rfl
  rw [unknownRecords, hfilter, List.map_map]
  rfl

/-- Of one run to another one: what is declared has been resolved, the references that were stored
have been told, and there has been a warning of what is missing. -/
structure Told (s : Session) (declared : List Declared) (missing : List Notice) (s' : Session) :
    Prop where
  registry : s'.registry = s.registry.after (declared.map (·.query))
  unknownTypes : unknownTypes s'.notices =
    unknownTypes s.notices ++ s.registry.storedReferences (declared.map (·.query))
  warnings : warnings s'.notices = warnings s.notices ++ missing

namespace Told

theorem nil (s : Session) : Told s [] [] s where
  registry := rfl
  unknownTypes := (List.append_nil _).symm
  warnings := (List.append_nil _).symm

theorem append {s₁ s₂ s₃ : Session} {earlier later : List Declared} {missing more : List Notice}
    (h₁ : Told s₁ earlier missing s₂) (h₂ : Told s₂ later more s₃) :
    Told s₁ (earlier ++ later) (missing ++ more) s₃ where
  registry := by
    rw [h₂.registry, h₁.registry, List.map_append, Registry.after_append]
  unknownTypes := by
    rw [h₂.unknownTypes, h₁.unknownTypes, h₁.registry, List.map_append,
      Registry.storedReferences_append, List.append_assoc]
  warnings := by
    rw [h₂.warnings, h₁.warnings, List.append_assoc]

/-- A single resolution tells of its reference. -/
theorem resolve (s : Session) (p : Declared) : Told s [p] [] (s.resolve p.site p.type).2 := by
  have hnotices := s.notices_resolve p.query
  change (s.resolve p.site p.type).2.notices = _ at hnotices
  constructor
  · exact s.resolve_registry p.site p.type
  · rw [hnotices, unknownTypes_append, unknownTypes_map, List.map_singleton,
      Registry.storedReferences_singleton]
  · rw [hnotices, warnings_append, warnings_map_unknownType]

/-- A notice that is no reference is told without any resolution. -/
theorem tell (s : Session) (n : Notice) (h : NodeApi.unknownTypes [n] = []) :
    Told s [] (NodeApi.warnings [n]) (s.tell n) where
  registry := rfl
  unknownTypes := by
    change NodeApi.unknownTypes (s.notices ++ [n]) = _
    rw [unknownTypes_append, h]
    rfl
  warnings := warnings_append s.notices [n]

end Told

/-- A description tells what is to be told of an element. -/
def Tells {α β : Type} (declared : α → List Declared) (missing : α → List Notice)
    (f : Session → α → β × Session) : Prop :=
  ∀ (s : Session) (x : α), Told s (declared x) (missing x) (f s x).2

/-- Describing the elements of a list tells what is to be told of each of them. -/
theorem Tells.mapEach {α β : Type} {declared : α → List Declared} {missing : α → List Notice}
    {f : Session → α → β × Session} (h : Tells declared missing f) (s : Session) (xs : List α) :
    Told s (xs.flatMap declared) (xs.flatMap missing) (s.mapEach f xs).2 := by
  induction xs generalizing s with
  | nil => exact .nil s
  | cons x xs ih =>
    rw [Session.mapEach_cons, List.flatMap_cons, List.flatMap_cons]
    exact (h s x).append (ih (f s x).2)

/-- Of elements of which nothing is missing there is no warning. -/
theorem Tells.mapEach_nil {α β : Type} {declared : α → List Declared}
    {f : Session → α → β × Session} (h : Tells declared (fun _ => []) f) (s : Session)
    (xs : List α) : Told s (xs.flatMap declared) [] (s.mapEach f xs).2 := by
  have hnothing : (xs.flatMap fun _ => ([] : List Notice)) = [] :=
    List.flatMap_eq_nil_iff.2 fun _ _ => rfl
  exact hnothing ▸ h.mapEach s xs

/-! ## Methods -/

namespace Rpc

theorem describeParam_tells : Tells (fun p => [p.declared]) (fun _ => []) describeParam := by
  intro s p
  exact .resolve s p.declared

theorem describeMethod_tells (sectionName : String) :
    Tells (fun method => method.2.params.map Param.declared) (fun _ => [])
      (describeMethod .omitted sectionName) := by
  intro s method
  have h := describeParam_tells.mapEach_nil s method.2.params
  rw [← List.map_eq_flatMap] at h
  exact h

theorem describeSection_tells :
    Tells (fun entry => entry.2.methods.flatMap fun method => method.2.params.map Param.declared)
      (fun _ => []) (describeSection .omitted) := by
  intro s entry
  have htell := Told.tell s
    (.describingMethods entry.2.methods.length (sectionName entry.1)) rfl
  exact htell.append ((describeMethod_tells _).mapEach_nil _ entry.2.methods)

/-- Of the methods of all sections nothing is missing. -/
theorem describe_tells (definitions : Definitions) (s : Session) :
    Told s (definitions.params.map Param.declared) [] (describe definitions .omitted s).2 := by
  rw [Definitions.params, List.map_flatMap]
  simp only [List.map_flatMap]
  exact describeSection_tells.mapEach_nil s definitions.entries

end Rpc

/-! ## Calls -/

namespace Metadata

/-- There is a warning of a field that names no type if the metadata do not know its type. -/
def missingType (l : Lookup) (field : Field) : List Notice :=
  if field.typeName = none ∧ l.info field.type = none then [.fieldTypeMissing field.type] else []

/-- There is a warning of a pallet if the metadata do not know its calls, and else there are those
of the fields of its calls. -/
def missingCalls (l : Lookup) (pallet : Pallet × UInt32) : List Notice :=
  match l.variants pallet.2 with
  | none => [.callsMissing pallet.2 pallet.1.name]
  | some variants =>
    (namedCalls variants).flatMap fun call => call.2.fields.flatMap (missingType l)

/-- What the warnings of a pallet say.  If its calls are not known, there is one that says so.
Otherwise there is one for each field of its calls that names no type and whose type is not known,
in ascending order of the names that the calls are shown by, and with equal names as they are
declared. -/
inductive WarnsOf (l : Lookup) : Pallet × UInt32 → List String → Prop where
  | unknown {pallet : Pallet} {calls : UInt32} : l.variants calls = none →
      WarnsOf l (pallet, calls) ["Calls type " ++ toString calls.toNat ++ " of pallet `" ++
        pallet.name ++ "` is not an enum in the type lookup"]
  | known {pallet : Pallet} {calls : UInt32} {variants sorted : List Variant} :
      l.variants calls = some variants →
      StablySorted (fun call => Text.camelCase call.name) variants sorted →
      WarnsOf l (pallet, calls)
        (((sorted.flatMap (·.fields)).filter fun field =>
            field.typeName.isNone && (l.info field.type).isNone).map fun field =>
          "Type " ++ toString field.type.toNat ++ " of a call field is missing from the type lookup")

theorem flatMap_missingType (l : Lookup) (fields : List Field) :
    fields.flatMap (missingType l) =
      (fields.filter fun field => field.typeName.isNone && (l.info field.type).isNone).map
        fun field => .fieldTypeMissing field.type := by
  induction fields with
  | nil => rfl
  | cons field fields ih =>
    rw [List.flatMap_cons, ih, List.filter_cons, missingType]
    simp only [Bool.and_eq_true, Option.isNone_iff_eq_none]
    split <;> rfl

/-- The warnings that are told of a pallet say what is missing. -/
theorem warnsOf_missingCalls (l : Lookup) (pallet : Pallet × UInt32) :
    WarnsOf l pallet ((missingCalls l pallet).map Notice.text) := by
  rcases pallet with ⟨pallet, calls⟩
  unfold missingCalls
  dsimp only
  split
  · rename_i hnone
    exact .unknown hnone
  · rename_i variants hvariants
    rw [namedCalls_eq_map, List.flatMap_map, ← List.flatMap_assoc, flatMap_missingType,
      List.map_map]
    exact .known hvariants (stablySorted_mergeSort _ _)

theorem typeName_notices (l : Lookup) (field : Field) :
    (typeName l field).2 = missingType l field := by
  unfold typeName missingType
  split
  · rename_i htype
    simp [htype]
  · rename_i htype
    split
    · rename_i hinfo
      split <;> simp [hinfo]
    · rename_i hinfo
      simp [htype, hinfo]

theorem describeField_tells (l : Lookup) :
    Tells (fun field => [declaredField l field]) (fun field => missingType l field.1)
      (describeField l) := by
  intro s field
  have hmissing : Told s [] (missingType l field.1)
      ((missingType l field.1).foldl Session.tell s) := by
    unfold missingType
    split
    · exact .tell s (.fieldTypeMissing field.1.type) rfl
    · exact .nil s
  have h := hmissing.append (.resolve _ (declaredField l field))
  rw [List.append_nil, List.nil_append] at h
  simp only [← typeName_notices, describeField] at h ⊢
  exact h

theorem describeCall_tells (l : Lookup) (palletName : String) :
    Tells (declaredCall l) (fun call => call.2.fields.flatMap (missingType l))
      (describeCall l palletName) := by
  intro s call
  have h := (describeField_tells l).mapEach s call.2.fields.zipIdx
  have hfields : call.2.fields.zipIdx.flatMap (fun field => missingType l field.1) =
      call.2.fields.flatMap (missingType l) := by
    rw [← List.flatMap_map, List.zipIdx_map_fst]
  rw [hfields, ← List.map_eq_flatMap] at h
  exact h

theorem describePallet_tells (l : Lookup) :
    Tells (declaredPallet l) (missingCalls l) (describePallet l) := by
  intro s pallet
  unfold describePallet declaredPallet missingCalls
  cases l.variants pallet.2 with
  | none => exact .tell s (.callsMissing pallet.2 pallet.1.name) rfl
  | some variants =>
    have htell := Told.tell s
      (.describingCalls variants.length (Text.camelCase pallet.1.name)) rfl
    exact htell.append ((describeCall_tells l _).mapEach _ (namedCalls variants))

/-- Of the calls of all pallets there are the warnings of each pallet, in the order of their
names. -/
theorem describe_tells (l : Lookup) (pallets : List Pallet) (s : Session) :
    Told s (declared l pallets) ((callPallets pallets).flatMap (missingCalls l))
      (describe l pallets s).2 :=
  (describePallet_tells l).mapEach s (callPallets pallets)

/-- Without warnings the calls of every pallet are known. -/
theorem exists_variants_of_silent {l : Lookup} {pallets : List Pallet}
    (h : (callPallets pallets).flatMap (missingCalls l) = []) {p : Pallet} (hp : p ∈ pallets)
    {calls : UInt32} (hcalls : p.calls = some calls) :
    ∃ variants, l.variants calls = some variants := by
  have hmem : (p, calls) ∈ callPallets pallets := by
    rw [(callPallets_perm pallets).mem_iff]
    exact List.mem_filterMap.2 ⟨p, hp, by rw [hcalls, Option.map_some]⟩
  have hsilent : missingCalls l (p, calls) = [] := List.flatMap_eq_nil_iff.1 h _ hmem
  rw [← Option.ne_none_iff_exists']
  intro hnone
  simp [missingCalls, hnone] at hsilent

end Metadata

/-! ## Documents -/

namespace Document

/-- The run behind a document tells what there is to be told of everything that is declared. -/
theorem build_tells (definitions : Rpc.Definitions) (pallets : List Metadata.Pallet)
    (lookup : Metadata.Lookup) (s : Session) :
    Told s (declared definitions pallets lookup)
      ((Metadata.callPallets pallets).flatMap (Metadata.missingCalls lookup))
      (build definitions .omitted pallets lookup s).2 :=
  (Rpc.describe_tells definitions s).append (Metadata.describe_tells lookup pallets _)

/-- A document tells of each reference that is stored. -/
theorem unknownTypes_generate (definitions : Rpc.Definitions) (pallets : List Metadata.Pallet)
    (lookup : Metadata.Lookup) :
    unknownTypes (generate definitions pallets lookup).2 =
      Registry.builtin.storedReferences ((declared definitions pallets lookup).map (·.query)) := by
  have htold := build_tells definitions pallets lookup (.ofRegistry .builtin)
  change unknownTypes
    ((build definitions .omitted pallets lookup (.ofRegistry .builtin)).2.notices ++ [_]) = _
  rw [unknownTypes_append, htold.unknownTypes]
  exact List.append_nil _

/-- A document warns of what is missing of the pallets, in their order. -/
theorem warnings_generate (definitions : Rpc.Definitions) (pallets : List Metadata.Pallet)
    (lookup : Metadata.Lookup) :
    warnings (generate definitions pallets lookup).2 =
      (Metadata.callPallets pallets).flatMap (Metadata.missingCalls lookup) := by
  have htold := build_tells definitions pallets lookup (.ofRegistry .builtin)
  change warnings ((build definitions .omitted pallets lookup (.ofRegistry .builtin)).2.notices ++
    [_]) = _
  rw [warnings_append, htold.warnings]
  exact List.append_nil _

/-- A document tells of everything that it does not describe, and of each such thing once:

- of the types that are known by their name only, in the order in which they are resolved for the
  first time, by the names in the references that are then stored, which are the references of the
  schemas;
- of the pallets whose calls are not known, in ascending order of their names and with equal names as
  they are given, and of the fields of calls that are described whose types are neither named nor
  known, by one warning each, and of nothing else by a warning.

If there is no warning, then the calls of all pallets are known, and there is one entry for each. -/
theorem generate_notices (definitions : Rpc.Definitions) (pallets : List Metadata.Pallet)
    (lookup : Metadata.Lookup) :
    let d := (generate definitions pallets lookup).1
    let notices := (generate definitions pallets lookup).2
    unknownTypes notices = Registry.builtin.storedReferences d.queries ∧
    unknownRecords notices = (Registry.builtin.storedReferences d.queries).map (fun name =>
      (.detail, "No schema known for type `" ++ name ++ "`, using a reference to it")) ∧
    d.schemas = Registry.builtin.after d.queries ∧
    d.schemas.references.Perm (unknownTypes notices) ∧
    (∃ (order : List (Metadata.Pallet × UInt32)) (blocks : List (List String)),
      StablySorted (fun pallet => pallet.1.name)
        (pallets.filterMap fun p => p.calls.map fun calls => (p, calls)) order ∧
      List.Forall₂ (Metadata.WarnsOf lookup) order blocks ∧
      (warnings notices).map Notice.text = blocks.flatten) ∧
    (warnings notices = [] →
      (∀ p ∈ pallets, ∀ calls, p.calls = some calls →
        ∃ variants, lookup.variants calls = some variants) ∧
      ∃ calls : List (Metadata.Pallet × Metadata.Variant),
        calls.Perm (pallets.flatMap fun p =>
          ((p.calls.bind lookup.variants).getD []).map fun call => (p, call)) ∧
        List.Forall₂ (fun call e => Metadata.ShowsCall lookup call.1 call.2 e) calls
          d.extrinsics) := by
  intro d notices
  have hqueries : d.queries = (declared definitions pallets lookup).map (·.query) :=
    queries_build definitions pallets lookup (.ofRegistry .builtin)
  have hunknown : unknownTypes notices = Registry.builtin.storedReferences d.queries :=
    hqueries ▸ unknownTypes_generate definitions pallets lookup
  have hwarnings := warnings_generate definitions pallets lookup
  have hschemas : d.schemas = Registry.builtin.after d.queries :=
    hqueries ▸ (build_tells definitions pallets lookup (.ofRegistry .builtin)).registry
  have hbuiltin : Registry.builtin.references = [] := by decide +kernel
  refine ⟨hunknown, hunknown ▸ unknownRecords_eq notices, hschemas, ?_, ?_, ?_⟩
  · have hperm := Registry.builtin.references_after_perm d.queries
    rw [hbuiltin, List.append_nil] at hperm
    rw [hschemas, hunknown]
    exact hperm
  · refine ⟨_, _, Metadata.stablySorted_callPallets pallets,
      List.forall₂_map_right_iff.2
        (List.forall₂_same.2 fun pallet _ => Metadata.warnsOf_missingCalls lookup pallet), ?_⟩
    change (warnings (generate definitions pallets lookup).2).map Notice.text = _
    rw [hwarnings, List.map_flatMap, List.flatMap_def]
  · intro hsilent
    constructor
    · intro p hp calls hcalls
      exact Metadata.exists_variants_of_silent (hwarnings ▸ hsilent) hp hcalls
    · exact Metadata.exists_calls_of_describe lookup pallets _

/-- Three pallets that have calls, described twice: with calls of which only one pallet is known and
one field has a type that nobody knows, and with all calls known.  Of the types one is told after a
method has made another one known; a list and a builtin type are silent. -/
theorem generate_notices_pallets :
    let method : Rpc.Method := ⟨[⟨"hash", "Hash", false⟩], "", none, none⟩
    let definitions : Rpc.Definitions := .ofList [("chain", ⟨[("getBlock", method)]⟩)]
    let call : Metadata.Variant := ⟨"remark", [], [⟨none, 1, some "Hash"⟩,
      ⟨none, 1, some "Vec<u8>"⟩, ⟨none, 5, none⟩, ⟨none, 2, none⟩]⟩
    let pallets : List Metadata.Pallet :=
      [⟨"Timestamp", some 7⟩, ⟨"Empty", none⟩, ⟨"System", some 0⟩, ⟨"Balances", some 8⟩]
    let weight : Metadata.TypeInfo := ⟨"Call", false, some "Option<Weight>"⟩
    let part : Metadata.Lookup :=
      ⟨fun id => if id = 2 then some weight else none, fun id => if id = 0 then some [call] else none⟩
    let whole : Metadata.Lookup :=
      ⟨fun _ => some weight, fun id => if id = 0 then some [call] else some []⟩
    let notices := (generate definitions pallets part).2
    unknownTypes notices = ["Hash", "Lookup5", "Weight"] ∧
      unknownRecords notices = ["Hash", "Lookup5", "Weight"].map (fun name =>
        (.detail, "No schema known for type `" ++ name ++ "`, using a reference to it")) ∧
      (warnings notices).map Notice.text =
        ["Calls type 8 of pallet `Balances` is not an enum in the type lookup",
          "Type 5 of a call field is missing from the type lookup",
          "Calls type 7 of pallet `Timestamp` is not an enum in the type lookup"] ∧
      (∃ (order : List (Metadata.Pallet × UInt32)) (blocks : List (List String)),
        StablySorted (fun pallet => pallet.1.name)
          [(⟨"Timestamp", some 7⟩, 7), (⟨"System", some 0⟩, 0), (⟨"Balances", some 8⟩, 8)] order ∧
        List.Forall₂ (Metadata.WarnsOf part) order blocks ∧
        (warnings notices).map Notice.text = blocks.flatten) ∧
      warnings (generate definitions pallets whole).2 = [] ∧
      ∃ calls : List (Metadata.Pallet × Metadata.Variant),
        calls.Perm [(⟨"System", some 0⟩, call)] ∧
        List.Forall₂ (fun call e => Metadata.ShowsCall whole call.1 call.2 e) calls
          (generate definitions pallets whole).1.extrinsics := by
  intro method definitions call pallets weight part whole notices
  have horder : Metadata.callPallets pallets =
      [(⟨"Balances", some 8⟩, 8), (⟨"System", some 0⟩, 0), (⟨"Timestamp", some 7⟩, 7)] := by
    have hperm := Metadata.callPallets_perm pallets
    have hsorted : (Metadata.callPallets pallets).Pairwise fun a b => a.1.name ≤ b.1.name :=
      pairwise_mergeSort_name (fun pallet : Metadata.Pallet × UInt32 => pallet.1.name) _
    refine eq_of_sorted hsorted (by decide +kernel) (hperm.trans (by decide +kernel)) ?_
    rw [(hperm.map _).nodup_iff]
    decide +kernel
  have hunknown : unknownTypes notices = ["Hash", "Lookup5", "Weight"] := by
    rw [unknownTypes_generate, declared, Metadata.declared, horder]
    decide +kernel
  have hwarnings : (warnings notices).map Notice.text =
      ["Calls type 8 of pallet `Balances` is not an enum in the type lookup",
        "Type 5 of a call field is missing from the type lookup",
        "Calls type 7 of pallet `Timestamp` is not an enum in the type lookup"] := by
    rw [warnings_generate, horder]
    decide +kernel
  have hsilent : warnings (generate definitions pallets whole).2 = [] := by
    rw [warnings_generate, horder]
    decide +kernel
  have hpart := generate_notices definitions pallets part
  have hwhole := (generate_notices definitions pallets whole).2.2.2.2.2 hsilent
  exact ⟨hunknown, hunknown ▸ hpart.1 ▸ hpart.2.1, hwarnings, hpart.2.2.2.2.1, hsilent, hwhole.2⟩

end Document
end NodeApi
