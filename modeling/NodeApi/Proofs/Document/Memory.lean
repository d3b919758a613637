import NodeApi.Proofs.Document.FirstMention
import NodeApi.Proofs.Document.Text
import NodeApi.Proofs.Schema.Operations

/-!
# What a run remembers

The first operation on a name settles its schema.  From then on the name is answered with this
schema and nothing is changed, whatever has been done to other names in the meantime.  Only the names
that operations are about are ever registered, and in a document these are the types of the
parameters.

Main results:

- Theorem `Document.mem_keys_schemas_iff`: the schemas of a document are those of the builtin types
  and of the types of its parameters.
- Theorem `run_remembers`: what operations register, and what they answer for a name that was there.
-/

namespace NodeApi

/-! ## The names of a document -/

/-- The names of a registry are written, and no others. -/
theorem Registry.mem_keys_sorted_iff (r : Registry) {key : String} :
    key ∈ Entries.keys r.sorted ↔ r.get? key ≠ none := by
  rw [Entries.keys, (r.sorted_perm.map Prod.fst).mem_iff, List.mem_map, Option.ne_none_iff_exists']
  constructor
  · rintro ⟨⟨name, schema⟩, hmem, rfl⟩
    exact ⟨schema, (Table.mem_entries_iff _).1 hmem⟩
  · rintro ⟨schema, hget⟩
    exact ⟨(key, schema), (Table.mem_entries_iff _).2 hget, rfl⟩

/-- The schemas of a document are those of the builtin types and of the types of its parameters. -/
theorem Document.mem_keys_schemas_iff (definitions : Rpc.Definitions)
    (pallets : List Metadata.Pallet) (lookup : Metadata.Lookup) {key : String} :
    key ∈ Entries.keys (generate definitions pallets lookup).1.schemas.sorted ↔
      key ∈ ["bool", "string", "Text", "Bytes", "u8", "u16", "u32", "u64", "u128", "i8", "i16",
          "i32", "i64", "i128", "f32", "f64"] ∨
        ∃ p ∈ (generate definitions pallets lookup).1.params, p.type = key := by
  have hbuiltin : Registry.builtinTypes.map (·.1) = ["bool", "string", "Text", "Bytes", "u8", "u16",
      "u32", "u64", "u128", "i8", "i16", "i32", "i64", "i128", "f32", "f64"] := rfl
  have hschemas : (generate definitions pallets lookup).1.schemas =
      Registry.builtin.after ((declared definitions pallets lookup).map (·.query)) :=
    (build_shows definitions pallets lookup (.ofRegistry .builtin)).2
  rw [Registry.mem_keys_sorted_iff, hschemas, Registry.get?_after_ne_none_iff,
    Registry.get?_builtin_ne_none_iff, hbuiltin, ← List.mem_map, ← List.mem_map, map_type_params,
    List.map_map]
  rfl

/-! ## Operations on a known name -/

namespace Session

/-- An operation adds the name it is about and no other. -/
theorem contains_perform_iff (s : Session) (op : Operation) (key : String) :
    (s.perform op).2.registry.contains key = true ↔
      s.registry.contains key = true ∨ key = op.name := by
  rw [Registry.contains_eq_isSome, Registry.contains_eq_isSome, get?_perform]
  by_cases hkey : key = op.name
  · simp [hkey]
  · simp [hkey]

/-- A run adds the names that its operations are about and no others. -/
theorem contains_performAll_iff (s : Session) (ops : List Operation) (key : String) :
    (s.performAll ops).2.registry.contains key = true ↔
      s.registry.contains key = true ∨ ∃ op ∈ ops, op.name = key := by
  rw [Registry.contains_eq_isSome, Registry.contains_eq_isSome, Option.isSome_iff_ne_none,
    Option.isSome_iff_ne_none, get?_performAll_ne_none_iff]

/-- An operation settles the schema of its name for the rest of the run. -/
theorem exists_settled (s : Session) (earlier : List Operation) (first : Operation) :
    ∃ schema : Schema, ∀ between : List Operation,
      (s.performAll (earlier ++ first :: between)).2.registry.get? first.name = some schema := by
  have hsome : ((s.performAll earlier).2.perform first).2.registry.get? first.name ≠ none := by
    simp [get?_perform]
  rcases Option.ne_none_iff_exists'.1 hsome with ⟨schema, hschema⟩
  refine ⟨schema, ?_⟩
  intro between
  rw [performAll_append_cons]
  exact extends_performAll _ between hschema

end Session

/-! ## Runs -/

/-- What a run remembers.  At every moment of a run, from whatever registry it began with:

- what is registered stays registered with the same schema to the end;
- an operation adds the name it is about if it was missing, and nothing else, and a registration
  tells whether the name was missing, so that the names are those of the beginning and those that
  operations were about;
- after an operation on a name, every further operation on the name answers one and the same schema,
  written the same way every time, and changes nothing.

The schemas of a document are thus those of the sixteen builtin types and of the types of its
parameters, each once. -/
theorem run_remembers :
    (∀ (s : Session) (earlier : List Operation),
      let before := (s.performAll earlier).2
      (∀ (later : List Operation) (key : String) (schema : Schema),
        before.registry.get? key = some schema →
          (s.performAll (earlier ++ later)).2.registry.get? key = some schema) ∧
      (∀ (op : Operation) (key : String), (before.perform op).2.registry.contains key = true ↔
        before.registry.contains key = true ∨ key = op.name) ∧
      (∀ (name : String) (schema : Schema), (before.perform (.register name schema)).1 =
        .registered (!before.registry.contains name)) ∧
      (∀ key : String, before.registry.contains key = true ↔
        s.registry.contains key = true ∨ ∃ op ∈ earlier, op.name = key) ∧
      ∀ first : Operation, ∃ schema : Schema,
        ∀ (between : List Operation) (again : Operation), again.name = first.name →
          let now := (s.performAll (earlier ++ first :: between)).2
          now.registry.get? first.name = some schema ∧
            now.perform again = (again.reply schema, now) ∧
            ∀ text, (now.perform again).1.usageText? = some text → text = schema.usage.compact) ∧
    ∀ (definitions : Rpc.Definitions) (pallets : List Metadata.Pallet) (lookup : Metadata.Lookup),
      let d := (Document.generate definitions pallets lookup).1
      ∃ members : List (String × Json), d.schemas.toJson = .object members ∧
        (Entries.keys members).Nodup ∧
        ∀ key, key ∈ Entries.keys members ↔
          key ∈ ["bool", "string", "Text", "Bytes", "u8", "u16", "u32", "u64", "u128", "i8", "i16",
              "i32", "i64", "i128", "f32", "f64"] ∨
            ∃ p ∈ d.params, p.type = key := by
  constructor
  · intro s earlier before
    refine ⟨?_, before.contains_perform_iff, fun _ _ => rfl, s.contains_performAll_iff earlier, ?_⟩
    · intro later key schema hget
      rw [Session.performAll_append]
      exact before.extends_performAll later hget
    · intro first
      rcases s.exists_settled earlier first with ⟨schema, hsettled⟩
      refine ⟨schema, ?_⟩
      intro between again hname now
      have hget : now.registry.get? again.name = some schema := hname ▸ hsettled between
      have hagain := Session.perform_of_get? hget
      refine ⟨hsettled between, hagain, ?_⟩
      intro text htext
      rw [hagain] at htext
      exact Operation.usageText?_reply htext
  · intro definitions pallets lookup d
    have hkeys : Entries.keys (d.schemas.sorted.map fun entry =>
        (entry.1, entry.2.definition entry.1)) = Entries.keys d.schemas.sorted := by
      simp [Entries.keys, Function.comp_def]
    refine ⟨d.schemas.sorted.map fun entry => (entry.1, entry.2.definition entry.1), rfl, ?_⟩
    rw [hkeys]
    exact ⟨d.schemas.nodup_keys_sorted,
      fun _ => Document.mem_keys_schemas_iff definitions pallets lookup⟩

/-- A list type of a call is met again as the type of an optional parameter, whose items have been
registered in the meantime; and the schemas of a document with two methods that have the same list
type as a parameter. -/
theorem run_remembers_list :
    let first : Operation := .resolve .call "Vec<Balance>"
    let between : List Operation :=
      [.register "Balance" (.primitive "u128" .integer), .resolve .rpc "Balance"]
    let again : Operation := .describe ⟨"amounts", "Vec<Balance>", true⟩
    let now := ((Session.ofRegistry .builtin).performAll (first :: between)).2
    let balances : Schema := .list (some "Vec<Balance>") (.reference "Balance")
    let amounts : Rpc.Method := ⟨[⟨"amounts", "Vec<Balance>", true⟩], "", none, none⟩
    let d := (Document.generate (.ofList [("bank", ⟨[("pay", amounts), ("take", amounts)]⟩)]) []
      (.ofTable .empty)).1
    again.name = first.name ∧
      now.perform again =
        (.described ⟨"amounts", "", "Vec<Balance>", false, balances⟩, now) ∧
      (∀ text, (now.perform again).1.usageText? = some text → text = balances.usage.compact) ∧
      ∃ members : List (String × Json), d.schemas.toJson = .object members ∧
        (Entries.keys members).Nodup ∧
        ∀ key, key ∈ Entries.keys members ↔
          key ∈ ["bool", "string", "Text", "Bytes", "u8", "u16", "u32", "u64", "u128", "i8", "i16",
              "i32", "i64", "i128", "f32", "f64"] ∨
            key = "Vec<Balance>" := by
  intro first between again now balances amounts d
  have hname : again.name = first.name := rfl
  have hget : now.registry.get? first.name = some balances := by decide +kernel
  rcases (run_remembers.1 (Session.ofRegistry .builtin) []).2.2.2.2 first with ⟨schema, hsettled⟩
  rcases hsettled between again hname with ⟨hschema, hagain, htext⟩
  have heq : schema = balances := Option.some.inj (hschema.symm.trans hget)
  rw [heq] at hagain htext
  refine ⟨hname, hagain, htext, ?_⟩
  have htypes : d.params.map (·.type) = ["Vec<Balance>", "Vec<Balance>"] := by decide +kernel
  have hparams (key : String) : (∃ p ∈ d.params, p.type = key) ↔ key = "Vec<Balance>" := by
    rw [← List.mem_map, htypes]
    simp
  simp only [← hparams]
  exact run_remembers.2 _ _ _

end NodeApi
