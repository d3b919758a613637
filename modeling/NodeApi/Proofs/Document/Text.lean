import NodeApi.Proofs.Document.References
import NodeApi.Proofs.Schema.Depth

/-!
# Texts of documents

A document is handed out as a text that has been read back.  Whatever the document is made of, the
text is the document again as long as the reader takes its depth; a deeper document is refused.  The
depth of a generated document never comes near this limit, since every list inside of a schema is
written by its name.

Main results:

- Theorem `exact_toJson`: a document, however it was made, has the right form to be read back.
- Theorem `toText_of_depth_le`: a document that is not too deep has a text.
- Theorem `read_toText`: a text is the document again, and there is none only if the document is too
  deep.
- Theorem `toText_generate`: a generated document always has a text.
-/

namespace NodeApi

open Json (Exact)

/-! ## The form of documents -/

theorem ParamEntry.exact_toJson (p : ParamEntry) : Exact p.toJson := by
  refine .object (by simp [Entries.keys]) ?_
  simp only [List.forall_mem_cons]
  exact ⟨.string _, .string _, .string _, .bool _, Schema.exact_usage p.schema, by simp⟩

theorem ParamEntry.exact_params (params : List ParamEntry) :
    Exact (.array (params.map ParamEntry.toJson)) := by
  refine .array fun element helement => ?_
  rcases List.mem_map.1 helement with ⟨p, _, rfl⟩
  exact p.exact_toJson

theorem Rpc.MethodEntry.exact_toJson (m : Rpc.MethodEntry) : Exact m.toJson := by
  have htags : Exact (.array (m.tags.map fun tag => .object [("name", .string tag)])) := by
    refine .array fun element helement => ?_
    rcases List.mem_map.1 helement with ⟨tag, _, rfl⟩
    refine .object (by simp [Entries.keys]) ?_
    simp only [List.forall_mem_cons]
    exact ⟨.string tag, by simp⟩
  refine .object (by simp [Entries.keys]) ?_
  simp only [List.forall_mem_cons]
  refine ⟨.string _, .string _, ParamEntry.exact_params m.params, htags, ?_, by simp⟩
  cases m.result with
  | none => exact .null
  | some schema => exact Schema.exact_usage schema

theorem Metadata.ExtrinsicEntry.exact_toJson (e : Metadata.ExtrinsicEntry) : Exact e.toJson := by
  have hmethod : Exact (.object [("docs", .array (e.docs.map .string)), ("name", .string e.name),
      ("params", .array (e.params.map ParamEntry.toJson))]) := by
    refine .object (by simp [Entries.keys]) ?_
    simp only [List.forall_mem_cons]
    exact ⟨Json.exact_strings e.docs, .string _, ParamEntry.exact_params e.params, by simp⟩
  refine .object (by simp [Entries.keys]) ?_
  simp only [List.forall_mem_cons]
  exact ⟨hmethod, .string _, .string _, by simp⟩

/-- The names of a registry are written once each. -/
theorem Registry.nodup_keys_sorted (r : Registry) : (Entries.keys r.sorted).Nodup :=
  (r.sorted_perm.map _).symm.nodup r.entries.nodup_keys

theorem Registry.exact_toJson (r : Registry) : Exact r.toJson := by
  refine .object ?_ fun member hmember => ?_
  · simpa [Entries.keys, Function.comp_def] using r.nodup_keys_sorted
  · rcases List.mem_map.1 hmember with ⟨⟨name, schema⟩, _, rfl⟩
    exact schema.exact_definition name

namespace Document

/-- A document has the right form to be read back. -/
theorem exact_toJson (d : Document) : Exact d.toJson := by
  have hmethods : Exact (.array (d.methods.map Rpc.MethodEntry.toJson)) := by
    refine .array fun element helement => ?_
    rcases List.mem_map.1 helement with ⟨m, _, rfl⟩
    exact m.exact_toJson
  have hextrinsics : Exact (.array (d.extrinsics.map Metadata.ExtrinsicEntry.toJson)) := by
    refine .array fun element helement => ?_
    rcases List.mem_map.1 helement with ⟨e, _, rfl⟩
    exact e.exact_toJson
  refine .object (by simp [Entries.keys]) ?_
  simp only [List.forall_mem_cons]
  exact ⟨hmethods, hextrinsics, d.schemas.exact_toJson, by simp⟩

/-! ## Texts -/

/-- A document that is not too deep has a text in either layout. -/
theorem toText_of_depth_le {d : Document} (h : d.toJson.depth ≤ Json.maxDepth)
    (layout : Json.Layout) : d.toText layout = .ok (d.toJson.print layout) := by
  have hread := d.exact_toJson.read_print .compact h
  exact layOut_eq_ok_iff.2 ⟨d.toJson, hread, rfl⟩

/-- A document that is too deep is refused at the bracket that is one too many. -/
theorem toText_of_lt_depth {d : Document} (h : Json.maxDepth < d.toJson.depth)
    (layout : Json.Layout) :
    ∃ place, d.toText layout = .error ⟨.malformed .tooDeep (some place)⟩ := by
  rcases d.exact_toJson.read_print_of_lt .compact h with ⟨place, hread⟩
  refine ⟨place, ?_⟩
  rw [toText, layOut, Json.compact, hread]

/-- A document has a text exactly if its depth is at most 127, in either layout; a deeper document
is malformed.  A text is read as the document again, which is printed compactly as the compact
text. -/
theorem read_toText (methods : List Rpc.MethodEntry) (schemas : Registry)
    (extrinsics : List Metadata.ExtrinsicEntry) :
    let d := ofParts methods schemas extrinsics
    (∀ layout, (∃ text, d.toText layout = .ok text) ↔ d.toJson.depth ≤ 127) ∧
    (∀ layout, 127 < d.toJson.depth →
      ∃ place, d.toText layout = .error ⟨.malformed .tooDeep (some place)⟩) ∧
    ∀ layout text, d.toText layout = .ok text →
      Json.read text = .ok d.toJson ∧
        ∀ value, Json.read text = .ok value → d.toText .compact = .ok value.compact := by
  intro d
  have hrefused : ∀ layout, 127 < d.toJson.depth →
      ∃ place, d.toText layout = .error ⟨.malformed .tooDeep (some place)⟩ :=
    fun layout hdeep => toText_of_lt_depth hdeep layout
  have hdepth : ∀ layout text, d.toText layout = .ok text → d.toJson.depth ≤ 127 := by
    intro layout text htext
    by_contra hdeep
    rcases hrefused layout (by omega) with ⟨place, herror⟩
    rw [herror] at htext
    exact absurd htext (by simp)
  refine ⟨fun layout => ⟨?_, ?_⟩, hrefused, ?_⟩
  · rintro ⟨text, htext⟩
    exact hdepth layout text htext
  · intro h
    exact ⟨_, toText_of_depth_le h layout⟩
  · intro layout text htext
    have hle : d.toJson.depth ≤ Json.maxDepth := hdepth layout text htext
    have hprint : d.toJson.print layout = text := by
      rw [toText_of_depth_le hle layout] at htext
      exact Except.ok.inj htext
    have hread : Json.read text = .ok d.toJson := by
      rw [← hprint]
      exact d.exact_toJson.read_print layout hle
    refine ⟨hread, ?_⟩
    intro value hvalue
    rw [hread] at hvalue
    rw [← Except.ok.inj hvalue]
    exact toText_of_depth_le hle .compact

/-- A list of lists that makes a document 127 levels deep has a text; one list more, and the
document is malformed. -/
theorem read_toText_listOfLists :
    let nested (lists : Nat) : Registry :=
      (Registry.empty.register "Nested" (Nat.repeat (Schema.list none) lists (.reference "T"))).2
    let d (lists : Nat) := ofParts [] (nested lists) []
    (d 124).toJson.depth ≤ 127 ∧ 127 < (d 125).toJson.depth ∧
      (∃ text, (d 124).toText .pretty = .ok text ∧ Json.read text = .ok (d 124).toJson) ∧
      ∃ place, (d 125).toText .pretty = .error ⟨.malformed .tooDeep (some place)⟩ := by
  intro nested d
  have hfits : (d 124).toJson.depth ≤ 127 := by decide +kernel
  have hdeep : 127 < (d 125).toJson.depth := by decide +kernel
  rcases (read_toText [] (nested 124) []).1 .pretty |>.2 hfits with ⟨text, htext⟩
  have hread := ((read_toText [] (nested 124) []).2.2 .pretty text htext).1
  exact ⟨hfits, hdeep, ⟨text, htext, hread⟩, (read_toText [] (nested 125) []).2.1 .pretty hdeep⟩

/-! ## Depth of generated documents -/

end Document

theorem ParamEntry.depth_toJson (p : ParamEntry) : p.toJson.depth = p.schema.usage.depth + 1 := by
  simp [toJson, Json.depth, Json.depthMembers]

/-- An element of what is described for a list was described in some run. -/
theorem Session.exists_of_mem_mapEach {α β : Type} {f : Session → α → β × Session} {s : Session}
    {xs : List α} {y : β} (h : y ∈ (s.mapEach f xs).1) : ∃ s' x, y = (f s' x).1 := by
  induction xs generalizing s with
  | nil => exact absurd h List.not_mem_nil
  | cons x xs ih =>
    rw [mapEach_cons] at h
    rcases List.mem_cons.1 h with rfl | h
    · exact ⟨s, x, rfl⟩
    · exact ih h

/-- Results are left out of every method. -/
theorem Rpc.result_describe {definitions : Definitions} {s : Session} {m : MethodEntry}
    (h : m ∈ (describe definitions .omitted s).1) : m.result = none := by
  rcases List.mem_flatten.1 h with ⟨block, hblock, hm⟩
  rcases Session.exists_of_mem_mapEach hblock with ⟨s', entry, rfl⟩
  rcases Session.exists_of_mem_mapEach hm with ⟨s'', method, rfl⟩
  rfl

namespace Document

section
variable (definitions : Rpc.Definitions) (pallets : List Metadata.Pallet)
  (lookup : Metadata.Lookup)

/-- A parameter of a generated document is at most four levels deep. -/
theorem depth_param {p : ParamEntry}
    (hp : p ∈ (generate definitions pallets lookup).1.params) : p.toJson.depth ≤ 4 := by
  rcases exists_run_of_mem_params hp with ⟨earlier, site, later, _, hschema⟩
  have hshallow : (Registry.builtin.after earlier).Shallow :=
    Registry.shallow_after Registry.shallow_builtin earlier
  have hdepth := hshallow.depth_meaning site p.type
  rw [p.depth_toJson, hschema]
  exact Nat.succ_le_succ hdepth

theorem depth_params (params : List ParamEntry)
    (h : ∀ p ∈ params, p ∈ (generate definitions pallets lookup).1.params) :
    (Json.array (params.map ParamEntry.toJson)).depth ≤ 5 := by
  rw [Json.depth_array_le_iff]
  intro element helement
  rcases List.mem_map.1 helement with ⟨p, hp, rfl⟩
  exact depth_param definitions pallets lookup (h p hp)

theorem depth_method {m : Rpc.MethodEntry}
    (hm : m ∈ (generate definitions pallets lookup).1.methods) : m.toJson.depth ≤ 6 := by
  have hresult : m.result = none := Rpc.result_describe hm
  have hparams := depth_params definitions pallets lookup m.params fun p hp =>
    List.mem_append_left _ (List.mem_flatMap.2 ⟨m, hm, hp⟩)
  have htags : (Json.array (m.tags.map fun tag => .object [("name", .string tag)])).depth ≤ 5 := by
    rw [Json.depth_array_le_iff]
    intro element helement
    rcases List.mem_map.1 helement with ⟨tag, _, rfl⟩
    simp [Json.depth, Json.depthMembers]
  rw [Rpc.MethodEntry.toJson, hresult, Json.depth_object_le_iff]
  simp only [List.forall_mem_cons]
  exact ⟨Nat.zero_le _, Nat.zero_le _, hparams, htags, Nat.zero_le _, by simp⟩

theorem depth_extrinsic {e : Metadata.ExtrinsicEntry}
    (he : e ∈ (generate definitions pallets lookup).1.extrinsics) : e.toJson.depth ≤ 7 := by
  have hdocs : (Json.array (e.docs.map .string)).depth ≤ 5 :=
    Nat.le_trans (Json.depth_strings_le e.docs) (by omega)
  have hparams := depth_params definitions pallets lookup e.params fun p hp =>
    List.mem_append_right _ (List.mem_flatMap.2 ⟨e, he, hp⟩)
  have hmethod : (Json.object [("docs", .array (e.docs.map .string)), ("name", .string e.name),
      ("params", .array (e.params.map ParamEntry.toJson))]).depth ≤ 6 := by
    rw [Json.depth_object_le_iff]
    simp only [List.forall_mem_cons]
    exact ⟨hdocs, Nat.zero_le _, hparams, by simp⟩
  rw [Metadata.ExtrinsicEntry.toJson, Json.depth_object_le_iff]
  simp only [List.forall_mem_cons]
  exact ⟨hmethod, Nat.zero_le _, Nat.zero_le _, by simp⟩

theorem depth_schemas : (generate definitions pallets lookup).1.schemas.toJson.depth ≤ 4 := by
  rcases generate_schemas definitions pallets lookup with ⟨queries, hschemas⟩
  have hshallow : (Registry.builtin.after queries).Shallow :=
    Registry.shallow_after Registry.shallow_builtin queries
  rw [hschemas, Registry.toJson, Json.depth_object_le_iff]
  intro member hmember
  rcases List.mem_map.1 hmember with ⟨⟨name, schema⟩, hentry, rfl⟩
  have hget := (Table.mem_entries_iff _).1 ((Registry.sorted_perm _).mem_iff.1 hentry)
  exact (hshallow hget).definition name

end

/-- A generated document is at most nine levels deep, whatever type names it was made of, and so it
has a text in either layout. -/
theorem toText_generate (definitions : Rpc.Definitions) (pallets : List Metadata.Pallet)
    (lookup : Metadata.Lookup) :
    let d := (generate definitions pallets lookup).1
    d.toJson.depth ≤ 9 ∧ ∀ layout, d.toText layout = .ok (d.toJson.print layout) := by
  intro d
  have hmethods : (Json.array (d.methods.map Rpc.MethodEntry.toJson)).depth ≤ 8 := by
    rw [Json.depth_array_le_iff]
    intro element helement
    rcases List.mem_map.1 helement with ⟨m, hm, rfl⟩
    exact Nat.le_succ_of_le (depth_method definitions pallets lookup hm)
  have hextrinsics : (Json.array (d.extrinsics.map Metadata.ExtrinsicEntry.toJson)).depth ≤ 8 := by
    rw [Json.depth_array_le_iff]
    intro element helement
    rcases List.mem_map.1 helement with ⟨e, he, rfl⟩
    exact depth_extrinsic definitions pallets lookup he
  have hschemas : d.schemas.toJson.depth ≤ 8 :=
    Nat.le_trans (depth_schemas definitions pallets lookup) (by omega)
  have hdepth : d.toJson.depth ≤ 9 := by
    rw [toJson, Json.depth_object_le_iff]
    simp only [List.forall_mem_cons]
    exact ⟨hmethods, hextrinsics, hschemas, by simp⟩
  exact ⟨hdepth, toText_of_depth_le (Nat.le_trans hdepth (by decide))⟩

end Document
end NodeApi
