import NodeApi.Proofs.Document.Run
import NodeApi.Proofs.Schema.Meaning

/-!
# References in a document

A document writes the schema of a type at every parameter of this type and once more among its
schemas.  However a schema is written, by its name or in full, it says the same, and following the
references from one schema to the next comes to an end.

Main results:

- Theorem `generate_schemas`: the schemas of a document are the registry of a run of the builtin
  types.
- Theorem `refs_definition_shorter`: definitions refer to shorter names, so no references of a
  document go around in a circle.
- Theorem `expansion_param`: a parameter says in full what its type is defined as.
-/

namespace NodeApi

open Registry

/-- The schemas of a document are the registry of a run that begins with the builtin types. -/
theorem Document.generate_schemas (definitions : Rpc.Definitions) (pallets : List Metadata.Pallet)
    (lookup : Metadata.Lookup) :
    ∃ queries : List Query,
      (Document.generate definitions pallets lookup).1.schemas = builtin.after queries := by
  rcases Document.build_run definitions pallets lookup (.ofRegistry .builtin) with ⟨hafter, _⟩
  exact ⟨_, hafter.symm⟩

theorem Document.coherent_generate (definitions : Rpc.Definitions)
    (pallets : List Metadata.Pallet) (lookup : Metadata.Lookup) :
    (Document.generate definitions pallets lookup).1.schemas.Coherent := by
  rcases Document.generate_schemas definitions pallets lookup with ⟨queries, hschemas⟩
  rw [hschemas]
  exact coherent_after coherent_builtin queries

theorem Document.descends_generate (definitions : Rpc.Definitions)
    (pallets : List Metadata.Pallet) (lookup : Metadata.Lookup) :
    (Document.generate definitions pallets lookup).1.schemas.Descends := by
  rcases Document.generate_schemas definitions pallets lookup with ⟨queries, hschemas⟩
  rw [hschemas]
  exact descends_after descends_builtin queries

/-- Definitions refer to shorter names, in characters and in bytes, in every registry that a run of
the builtin types ends with.  Following the references through the schemas of a document therefore
ends wherever it begins. -/
theorem refs_definition_shorter :
    (∀ (queries : List Query) (key : String) (schema : Schema),
      ((Session.ofRegistry builtin).resolveAll queries).2.registry.get? key = some schema →
        ∀ name ∈ (schema.definition key).refs,
          name.length < key.length ∧ name.utf8ByteSize < key.utf8ByteSize) ∧
    ∀ (definitions : Rpc.Definitions) (pallets : List Metadata.Pallet) (lookup : Metadata.Lookup),
      ∃ members : List (String × Json),
        (Document.generate definitions pallets lookup).1.schemas.toJson = .object members ∧
          WellFounded fun name key => ∃ definition, (key, definition) ∈ members ∧
            name ∈ definition.refs := by
  constructor
  · intro queries key schema hget name hname
    rw [Session.resolveAll_registry] at hget
    have hdescends : (builtin.after queries).Descends := descends_after descends_builtin queries
    have hproper := (hdescends hget).definition name hname
    exact ⟨hproper.2, hproper.utf8ByteSize_lt⟩
  · intro definitions pallets lookup
    have hdescends := Document.descends_generate definitions pallets lookup
    refine ⟨_, rfl, ?_⟩
    apply Subrelation.wf (r := InvImage (· < ·) String.length)
    · rintro name key ⟨definition, hmem, hname⟩
      exact (hdescends.refs_definition? ((mem_toJson_iff rfl).1 hmem) hname).2
    · exact InvImage.wf String.length Nat.lt_wfRel.wf

/-- The items of a list of compact numbers are written by the name of the numbers, which is shorter
than that of the list. -/
theorem refs_compactItems_shorter :
    let queries : List Query := [⟨.rpc, "Compact<u32>"⟩, ⟨.call, "Vec<Compact<u32>>"⟩]
    let schema : Schema := .list (some "Vec<Compact<u32>>") (.primitive "u32" .integer)
    ((Session.ofRegistry builtin).resolveAll queries).2.registry.get? "Vec<Compact<u32>>" =
        some schema ∧
      "u32" ∈ (schema.definition "Vec<Compact<u32>>").refs ∧
      "u32".length < "Vec<Compact<u32>>".length ∧
      "u32".utf8ByteSize < "Vec<Compact<u32>>".utf8ByteSize := by
  intro queries schema
  have hget : ((Session.ofRegistry builtin).resolveAll queries).2.registry.get?
      "Vec<Compact<u32>>" = some schema := by
    decide +kernel
  have hname : "u32" ∈ (schema.definition "Vec<Compact<u32>>").refs := by
    decide +kernel
  exact ⟨hget, hname, refs_definition_shorter.1 queries _ schema hget "u32" hname⟩

/-- A parameter says in full what its type is defined as.  The type of every parameter of a document
is among its schemas, and the schema written at the parameter and a reference to the type expand to
the same value. -/
theorem expansion_param (definitions : Rpc.Definitions) (pallets : List Metadata.Pallet)
    (lookup : Metadata.Lookup) :
    let d := (Document.generate definitions pallets lookup).1
    ∀ p : ParamEntry, ((∃ m ∈ d.methods, p ∈ m.params) ∨ ∃ e ∈ d.extrinsics, p ∈ e.params) →
      d.schemas.contains p.type = true ∧
        ∃ e, d.schemas.ExpandsTo p.schema.usage e ∧
          d.schemas.ExpandsTo (.schemaRef p.type) e := by
  intro d p hp
  have hparams : p ∈ (Document.build definitions .omitted pallets lookup
      (.ofRegistry .builtin)).1.params := by
    rw [Document.params, List.mem_append, Document.methodParams, Document.extrinsicParams,
      List.mem_flatMap, List.mem_flatMap]
    exact hp
  rcases Document.exists_run_of_mem_params hparams with ⟨earlier, site, later, hschemas, hschema⟩
  have hbefore : (builtin.after earlier).Coherent := coherent_after coherent_builtin earlier
  have hcoherent : d.schemas.Coherent := Document.coherent_generate definitions pallets lookup
  have hdescends : d.schemas.Descends := Document.descends_generate definitions pallets lookup
  have hrun : d.schemas = ((builtin.after earlier).resolved site p.type).after later := hschemas
  have hextends : d.schemas.Extends ((builtin.after earlier).resolved site p.type) := by
    rw [hrun]
    exact extends_after _ later
  constructor
  · rw [contains_eq_isSome]
    exact hextends.isSome_get? (isSome_get?_resolved _ site p.type)
  · have hmeans := expand_usage_meaning hcoherent hdescends hbefore site p.type hextends
    refine ⟨d.schemas.expand (.schemaRef p.type), ?_, hdescends.expandsTo_expand _⟩
    rw [← hmeans, hschema]
    exact hdescends.expandsTo_expand _

/-- A list type that two parameters have is written out at the first of them and by its name at the
second, and yet says the same. -/
theorem expansion_param_repeated :
    let method : Rpc.Method :=
      ⟨[⟨"first", "Vec<u8>", false⟩, ⟨"second", "Vec<u8>", true⟩], "", none, none⟩
    let d :=
      (Document.generate (.ofList [("keys", ⟨[("compare", method)]⟩)]) [] (.ofTable .empty)).1
    let first : ParamEntry := ⟨"first", "", "Vec<u8>", true, .list none (.reference "u8")⟩
    let second : ParamEntry :=
      ⟨"second", "", "Vec<u8>", false, .list (some "Vec<u8>") (.reference "u8")⟩
    (∃ m ∈ d.methods, first ∈ m.params ∧ second ∈ m.params) ∧
      first.schema.usage ≠ second.schema.usage ∧
      (∃ e, d.schemas.ExpandsTo first.schema.usage e ∧
        d.schemas.ExpandsTo (.schemaRef "Vec<u8>") e) ∧
      ∃ e, d.schemas.ExpandsTo second.schema.usage e ∧
        d.schemas.ExpandsTo (.schemaRef "Vec<u8>") e := by
  intro method d first second
  have hmem : ∃ m ∈ d.methods, first ∈ m.params ∧ second ∈ m.params := by
    decide +kernel
  rcases hmem with ⟨m, hm, hfirst, hsecond⟩
  refine ⟨⟨m, hm, hfirst, hsecond⟩, by decide +kernel, ?_, ?_⟩
  · exact (expansion_param _ _ _ first (Or.inl ⟨m, hm, hfirst⟩)).2
  · exact (expansion_param _ _ _ second (Or.inl ⟨m, hm, hsecond⟩)).2

end NodeApi
