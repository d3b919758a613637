import NodeApi.Document.Basic
import NodeApi.Proofs.Schema.Run

/-!
# The run behind a document

The parameters of a document are resolved in the order in which the document shows them, methods
first, and nothing else is resolved.  What is declared thus tells the whole run: which names are
resolved in which order, and what every parameter is shown as.

Main results:

- Theorem `Follows.mapEach`: describing the elements of a list shows what they declare.
- Theorem `build_shows`: a document shows what its definitions and pallets declare.
- Theorem `build_run`: the schemas of the parameters are the answers of the run.
- Theorem `exists_declared_of_getElem?`: the parameter at a place is the one declared there.
- Theorem `exists_run_of_mem_params`: every parameter was resolved at its place in the run.
-/

namespace NodeApi

/-! ## The parameters of a document -/

/-- The question behind a parameter. -/
def ParamEntry.query (site : Site) (p : ParamEntry) : Query :=
  ⟨site, p.type⟩

namespace Document

/-- The parameters of all methods. -/
def methodParams (d : Document) : List ParamEntry :=
  d.methods.flatMap (·.params)

/-- The parameters of all extrinsics. -/
def extrinsicParams (d : Document) : List ParamEntry :=
  d.extrinsics.flatMap (·.params)

/-- All parameters, in the order of the document. -/
def params (d : Document) : List ParamEntry :=
  d.methodParams ++ d.extrinsicParams

/-- The questions behind all parameters, in the order of the document. -/
def queries (d : Document) : List Query :=
  d.methodParams.map (·.query .rpc) ++ d.extrinsicParams.map (·.query .call)

end Document

/-! ## Declared parameters -/

/-- A parameter as it is declared, before its type is resolved.  One that is optional is not
required, whatever its type. -/
structure Declared where
  site : Site
  name : String
  type : String
  isOptional : Bool
deriving DecidableEq

namespace Declared

/-- The question behind a declared parameter. -/
def query (p : Declared) : Query :=
  ⟨p.site, p.type⟩

/-- A declared parameter with the answer to its question. -/
def entry (p : Declared) (answer : Resolution) : ParamEntry :=
  .ofResolution p.name p.type { answer with required := answer.required && !p.isOptional }

@[simp]
theorem entry_type (p : Declared) (answer : Resolution) : (p.entry answer).type = p.type :=
  rfl

theorem entry_required (p : Declared) (answer : Resolution) :
    (p.entry answer).required = (answer.required && !p.isOptional) :=
  rfl

@[simp]
theorem entry_schema (p : Declared) (answer : Resolution) :
    (p.entry answer).schema = answer.schema :=
  rfl

end Declared

/-- Declared parameters as they are shown when they are resolved one after the other. -/
def Registry.shown (r : Registry) (declared : List Declared) : List ParamEntry :=
  List.zipWith Declared.entry declared (r.answers (declared.map (·.query)))

namespace Registry

theorem shown_append (r : Registry) (earlier later : List Declared) :
    r.shown (earlier ++ later) =
      r.shown earlier ++ (r.after (earlier.map (·.query))).shown later := by
  rw [shown, List.map_append, answers_append]
  exact List.zipWith_append (by rw [length_answers, List.length_map])

/-- A parameter is shown with the answer that the registry gives at its place. -/
theorem getElem?_shown (r : Registry) (declared : List Declared) (i : Nat) :
    (r.shown declared)[i]? = declared[i]?.map fun p =>
      p.entry ((r.after ((declared.take i).map (·.query))).meaning p.site p.type) := by
  rw [shown, List.getElem?_zipWith, getElem?_answers, List.getElem?_map, List.map_take]
  cases declared[i]? with
  | none => rfl
  | some p => rfl

/-- What depends on the declaration only is shown as it is declared. -/
theorem map_shown {α : Type} {f : ParamEntry → α} {g : Declared → α}
    (h : ∀ p answer, f (Declared.entry p answer) = g p) (r : Registry) (declared : List Declared) :
    (r.shown declared).map f = declared.map g := by
  apply List.ext_getElem?
  intro i
  rw [List.getElem?_map, getElem?_shown, List.getElem?_map]
  cases declared[i]? with
  | none => rfl
  | some p => exact congrArg some (h p _)

theorem map_schema_shown (r : Registry) (declared : List Declared) :
    (r.shown declared).map (·.schema) =
      (r.answers (declared.map (·.query))).map (·.schema) := by
  apply List.ext_getElem?
  intro i
  rw [List.getElem?_map, getElem?_shown, List.getElem?_map, getElem?_answers, List.getElem?_map,
    List.map_take]
  cases declared[i]? with
  | none => rfl
  | some p => rfl

/-! ## Shows -/

/-- A run from one registry to another one shows declared parameters. -/
def Shows (r : Registry) (declared : List Declared) (params : List ParamEntry) (r' : Registry) :
    Prop :=
  params = r.shown declared ∧ r' = r.after (declared.map (·.query))

theorem Shows.nil (r : Registry) : r.Shows [] [] r :=
  ⟨rfl, rfl⟩

theorem Shows.append {r₁ r₂ r₃ : Registry} {earlier later : List Declared}
    {ps qs : List ParamEntry} (h₁ : r₁.Shows earlier ps r₂) (h₂ : r₂.Shows later qs r₃) :
    r₁.Shows (earlier ++ later) (ps ++ qs) r₃ := by
  rcases h₁ with ⟨rfl, rfl⟩
  rcases h₂ with ⟨rfl, rfl⟩
  constructor
  · rw [shown_append]
  · rw [List.map_append, after_append]

/-- Showing parameters loses and changes nothing. -/
theorem Shows.extends {r r' : Registry} {declared : List Declared} {params : List ParamEntry}
    (h : r.Shows declared params r') : r'.Extends r := by
  rw [h.2]
  exact r.extends_after _

/-- The type of a parameter that has been shown is registered. -/
theorem Shows.exists_get? {r r' : Registry} {declared : List Declared} {params : List ParamEntry}
    {p : Declared} (h : r.Shows declared params r') (hp : p ∈ declared) :
    ∃ schema, r'.get? p.type = some schema := by
  rw [h.2, ← Option.isSome_iff_exists]
  exact r.isSome_get?_after (List.mem_map_of_mem hp)

end Registry

/-- A single resolution, with its answer put into the parameter. -/
theorem shows_resolve (s : Session) (p : Declared) :
    s.registry.Shows [p] [p.entry (s.resolve p.site p.type).1]
      (s.resolve p.site p.type).2.registry := by
  rw [Session.resolve_fst, Session.resolve_registry]
  exact ⟨rfl, rfl⟩

/-- A description shows what is declared, and resolves nothing else. -/
def Follows {α β : Type} (declared : α → List Declared) (params : β → List ParamEntry)
    (f : Session → α → β × Session) : Prop :=
  ∀ (s : Session) (x : α), s.registry.Shows (declared x) (params (f s x).1) (f s x).2.registry

/-- Describing the elements of a list shows what they all declare. -/
theorem Follows.mapEach {α β : Type} {declared : α → List Declared} {params : β → List ParamEntry}
    {f : Session → α → β × Session} (h : Follows declared params f) (s : Session) (xs : List α) :
    s.registry.Shows (xs.flatMap declared) ((s.mapEach f xs).1.flatMap params)
      (s.mapEach f xs).2.registry := by
  induction xs generalizing s with
  | nil => exact Registry.Shows.nil s.registry
  | cons x xs ih =>
    rw [Session.mapEach_cons, List.flatMap_cons, List.flatMap_cons]
    exact (h s x).append (ih (f s x).2)

theorem flatMap_flatten {α β : Type} (f : α → List β) (blocks : List (List α)) :
    blocks.flatten.flatMap f = blocks.flatMap fun block => block.flatMap f := by
  rw [List.flatten_eq_flatMap, List.flatMap_assoc]
  rfl

/-! ## Methods -/

namespace Rpc

/-- The declared parameters of all methods, in the order of the sections. -/
def Definitions.params (definitions : Definitions) : List Param :=
  definitions.entries.flatMap fun entry => entry.2.methods.flatMap fun method => method.2.params

/-- A parameter of a method. -/
def Param.declared (p : Param) : Declared where
  site := .rpc
  name := p.name
  type := p.type
  isOptional := p.isOptional

theorem describeParam_follows : Follows (fun p => [p.declared]) (fun p => [p]) describeParam := by
  intro s p
  exact shows_resolve s p.declared

theorem describeMethod_follows (sectionName : String) :
    Follows (fun method => method.2.params.map Param.declared) MethodEntry.params
      (describeMethod .omitted sectionName) := by
  intro s method
  have h := describeParam_follows.mapEach s method.2.params
  rwa [List.flatMap_singleton', ← List.map_eq_flatMap] at h

theorem describeSection_follows :
    Follows (fun entry => entry.2.methods.flatMap fun method => method.2.params.map Param.declared)
      (fun entries => entries.flatMap MethodEntry.params) (describeSection .omitted) := by
  intro s entry
  have h := (describeMethod_follows (sectionName entry.1)).mapEach
    (s.tell (.describingMethods entry.2.methods.length (sectionName entry.1))) entry.2.methods
  exact h

/-- The methods of all sections show the parameters that are declared. -/
theorem describe_shows (definitions : Definitions) (s : Session) :
    s.registry.Shows (definitions.params.map Param.declared)
      ((describe definitions .omitted s).1.flatMap MethodEntry.params)
      (describe definitions .omitted s).2.registry := by
  have h := describeSection_follows.mapEach s definitions.entries
  rw [← flatMap_flatten] at h
  simp only [Definitions.params, List.map_flatMap]
  exact h

end Rpc

/-! ## Calls -/

namespace Metadata

/-- A field of a call. -/
def declaredField (l : Lookup) (field : Field × Nat) : Declared where
  site := .call
  name := fieldName field.1 field.2
  type := (typeName l field.1).1
  isOptional := false

/-- The fields of a call. -/
def declaredCall (l : Lookup) (call : String × Variant) : List Declared :=
  call.2.fields.zipIdx.map (declaredField l)

/-- The fields of all calls of a pallet.  A pallet declares nothing if its calls are missing. -/
def declaredPallet (l : Lookup) (pallet : Pallet × UInt32) : List Declared :=
  match l.variants pallet.2 with
  | none => []
  | some variants => (namedCalls variants).flatMap (declaredCall l)

/-- The fields of all calls, in the order of the pallets. -/
def declared (l : Lookup) (pallets : List Pallet) : List Declared :=
  (callPallets pallets).flatMap (declaredPallet l)

theorem foldl_tell_registry (notices : List Notice) (s : Session) :
    (notices.foldl Session.tell s).registry = s.registry := by
  induction notices generalizing s with
  | nil => rfl
  | cons notice notices ih => exact ih (s.tell notice)

theorem describeField_follows (l : Lookup) :
    Follows (fun field => [declaredField l field]) (fun p => [p]) (describeField l) := by
  intro s field
  have h := shows_resolve ((typeName l field.1).2.foldl Session.tell s) (declaredField l field)
  rw [foldl_tell_registry] at h
  simpa [describeField, declaredField, Declared.entry] using h

theorem describeCall_follows (l : Lookup) (palletName : String) :
    Follows (declaredCall l) ExtrinsicEntry.params (describeCall l palletName) := by
  intro s call
  have h := (describeField_follows l).mapEach s call.2.fields.zipIdx
  rwa [List.flatMap_singleton', ← List.map_eq_flatMap] at h

theorem describePallet_follows (l : Lookup) :
    Follows (declaredPallet l) (fun entries => entries.flatMap ExtrinsicEntry.params)
      (describePallet l) := by
  intro s pallet
  unfold describePallet declaredPallet
  cases l.variants pallet.2 with
  | none => exact Registry.Shows.nil s.registry
  | some variants =>
    have h := (describeCall_follows l (Text.camelCase pallet.1.name)).mapEach
      (s.tell (.describingCalls variants.length (Text.camelCase pallet.1.name)))
      (namedCalls variants)
    exact h

/-- The calls of all pallets show the fields that are declared. -/
theorem describe_shows (l : Lookup) (pallets : List Pallet) (s : Session) :
    s.registry.Shows (declared l pallets) ((describe l pallets s).1.flatMap ExtrinsicEntry.params)
      (describe l pallets s).2.registry := by
  have h := (describePallet_follows l).mapEach s (callPallets pallets)
  rwa [← flatMap_flatten] at h

/-- Every field of a call stands in a call. -/
theorem site_of_mem_declared {l : Lookup} {pallets : List Pallet} {p : Declared}
    (h : p ∈ declared l pallets) : p.site = .call ∧ p.isOptional = false := by
  rcases List.mem_flatMap.1 h with ⟨pallet, _, hpallet⟩
  unfold declaredPallet at hpallet
  split at hpallet
  · exact absurd hpallet List.not_mem_nil
  · rcases List.mem_flatMap.1 hpallet with ⟨call, _, hcall⟩
    rcases List.mem_map.1 hcall with ⟨field, _, rfl⟩
    exact ⟨rfl, rfl⟩

end Metadata

/-! ## Documents -/

namespace Document

section
variable (definitions : Rpc.Definitions) (pallets : List Metadata.Pallet)
  (lookup : Metadata.Lookup) (s : Session)

/-- All that definitions and pallets declare, in the order of the document. -/
def declared : List Declared :=
  definitions.params.map Rpc.Param.declared ++ Metadata.declared lookup pallets

/-- A document shows what its definitions and pallets declare, in one run. -/
theorem build_shows :
    let d := (build definitions .omitted pallets lookup s).1
    s.registry.Shows (declared definitions pallets lookup) d.params d.schemas := by
  have hmethods := Rpc.describe_shows definitions s
  have hcalls := Metadata.describe_shows lookup pallets (Rpc.describe definitions .omitted s).2
  exact hmethods.append hcalls

/-- The questions behind the parameters are those behind what is declared. -/
theorem queries_build :
    (build definitions .omitted pallets lookup s).1.queries =
      (declared definitions pallets lookup).map (·.query) := by
  have hmethods := (Rpc.describe_shows definitions s).1
  have hcalls :=
    (Metadata.describe_shows lookup pallets (Rpc.describe definitions .omitted s).2).1
  rw [queries, declared, List.map_append]
  congr 1
  · calc
      _ = (s.registry.shown (definitions.params.map Rpc.Param.declared)).map (·.query .rpc) :=
        congrArg (List.map _) hmethods
      _ = (definitions.params.map Rpc.Param.declared).map fun p => ⟨.rpc, p.type⟩ :=
        Registry.map_shown (fun _ _ => rfl) s.registry _
      _ = (definitions.params.map Rpc.Param.declared).map (·.query) := by
        rw [List.map_map, List.map_map]
        rfl
  · calc
      _ = ((Rpc.describe definitions .omitted s).2.registry.shown
            (Metadata.declared lookup pallets)).map (·.query .call) :=
        congrArg (List.map _) hcalls
      _ = (Metadata.declared lookup pallets).map fun p => ⟨.call, p.type⟩ :=
        Registry.map_shown (fun _ _ => rfl) _ _
      _ = (Metadata.declared lookup pallets).map (·.query) := by
        apply List.map_congr_left
        intro p hp
        rw [Declared.query, (Metadata.site_of_mem_declared hp).1]

/-- The schemas of the parameters are the answers of the run, and the schemas of the document are
the registry that the run ends with. -/
theorem build_run :
    let d := (build definitions .omitted pallets lookup s).1
    s.registry.after d.queries = d.schemas ∧
      (s.registry.answers d.queries).map (·.schema) = d.params.map (·.schema) := by
  dsimp only
  rcases build_shows definitions pallets lookup s with ⟨hparams, hschemas⟩
  rw [queries_build, hparams, hschemas, Registry.map_schema_shown]
  exact ⟨rfl, rfl⟩

end

section
variable {definitions : Rpc.Definitions} {pallets : List Metadata.Pallet}
  {lookup : Metadata.Lookup} {s : Session} {p : ParamEntry}

/-- The parameter at a place is the one declared there, with the answer of the registry that the run
has reached; the rest of the run goes on from there. -/
theorem exists_declared_of_getElem? {i : Nat}
    (hp : (build definitions .omitted pallets lookup s).1.params[i]? = some p) :
    ∃ (q : Declared) (earlier : Registry) (later : List Query),
      (declared definitions pallets lookup)[i]? = some q ∧
      earlier = s.registry.after
        (((declared definitions pallets lookup).take i).map (·.query)) ∧
      p = q.entry (earlier.meaning q.site q.type) ∧
      (build definitions .omitted pallets lookup s).1.schemas =
        (earlier.resolved q.site q.type).after later := by
  rcases build_shows definitions pallets lookup s with ⟨hparams, hschemas⟩
  rw [hparams, Registry.getElem?_shown] at hp
  rcases Option.map_eq_some_iff.1 hp with ⟨q, hq, rfl⟩
  have hquery : ((declared definitions pallets lookup).map (·.query))[i]? = some q.query := by
    rw [List.getElem?_map, hq]
    rfl
  rw [Registry.after_of_getElem? hquery, ← List.map_take] at hschemas
  exact ⟨q, _, _, hq, rfl, rfl, hschemas⟩

/-- Every parameter was resolved at its place in the run. -/
theorem exists_run_of_mem_params
    (hp : p ∈ (build definitions .omitted pallets lookup s).1.params) :
    ∃ (earlier : List Query) (site : Site) (later : List Query),
      (build definitions .omitted pallets lookup s).1.schemas =
        ((s.registry.after earlier).resolved site p.type).after later ∧
      p.schema = ((s.registry.after earlier).meaning site p.type).schema := by
  rcases List.mem_iff_getElem?.1 hp with ⟨i, hi⟩
  rcases exists_declared_of_getElem? hi with ⟨q, _, later, _, rfl, rfl, hschemas⟩
  exact ⟨_, q.site, later, hschemas, rfl⟩

end

end Document
end NodeApi
