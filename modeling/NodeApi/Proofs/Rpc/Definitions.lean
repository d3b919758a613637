import NodeApi.Proofs.Entries
import NodeApi.Proofs.Json.Agreement
import NodeApi.Proofs.Table
import NodeApi.Proofs.Text.ByteOrder
import NodeApi.Rpc.Basic

/-!
# Definitions as they are written

Definitions are written as members that stand in an order and may repeat their keys, and so are the
methods of a section; what of it is wanted stands in members of its own name or in lists.  Of the
sections with one key the last counts, and the sections that are left are put in ascending order of
their keys; of the methods with one name the last counts too, but it stands where the name is first
mentioned.

Main results:

- Theorem `Definitions.exists_writtenIn`: definitions are made of the sections that are written.
- Theorem `Definitions.remains_ofWritten`: what is left of the sections that are written.
- Theorems `Definitions.ofJson_perm` and `Definitions.ofText_perm`: as long as no key comes up
  twice, the order of the sections does not matter.
-/

namespace NodeApi

namespace Rpc

open Json (Decoder Field FieldAt EntriesOf OptionalText)

/-! ## Values -/

/-- A value holds a parameter. -/
structure Param.Holds (json : Json) (p : Param) : Prop where
  name : FieldAt "name" 0 json (some (.string p.name))
  type : FieldAt "type" 1 json (some (.string p.type))
  isOptional : FieldAt "isOptional" 2 json (some (.bool p.isOptional)) ∨
    FieldAt "isOptional" 2 json none ∧ p.isOptional = false

/-- A value holds a method. -/
structure Method.Holds (json : Json) (m : Method) : Prop where
  params : (∃ elements, FieldAt "params" 0 json (some (.array elements)) ∧
      List.Forall₂ Param.Holds elements m.params) ∨
    FieldAt "params" 0 json none ∧ m.params = []
  resultType : FieldAt "type" 1 json (some (.string m.resultType)) ∨
    FieldAt "type" 1 json none ∧ m.resultType = ""
  description : ∃ found, FieldAt "description" 2 json found ∧ OptionalText found m.description
  aliasSection : ∃ found, FieldAt "aliasSection" 3 json found ∧ OptionalText found m.aliasSection

/-- A value holds the methods of a section, in their order and with their repetitions. -/
def Section.Holds (json : Json) (methods : List (String × Method)) : Prop :=
  (∃ members, FieldAt "rpc" 0 json (some (.object members)) ∧
      EntriesOf Method.Holds members methods) ∨
    FieldAt "rpc" 0 json none ∧ methods = []

/-- JSON holds sections, in their order and with their repetitions: as the members of an object. -/
def Definitions.WrittenIn (source : Json.Source)
    (written : List (String × List (String × Method))) : Prop :=
  ∃ members, source.Gives (.object members) ∧ EntriesOf Section.Holds members written

/-- The section of methods that are written. -/
def Section.ofWritten (methods : List (String × Method)) : Section :=
  ⟨Entries.settle methods⟩

/-- The definitions of sections that are written. -/
def Definitions.ofWritten (written : List (String × List (String × Method))) : Definitions :=
  .ofList (written.map (Prod.map id Section.ofWritten))

/-! ## Decoding -/

theorem Param.holds_of_ofJson {json : Json} {p : Param}
    (h : Param.record.decoder.ofJson json = .ok p) : Param.Holds json p where
  name := by
    have hgoverns : Param.record.Governs 0
        (.mandatory "name" .string fun name p => { p with name }) Param.name :=
      ⟨rfl, by decide, by simp [Param.record]⟩
    rcases hgoverns.mandatory (fun _ _ => rfl) h with ⟨found, hfound, hvalue⟩
    exact Decoder.eq_of_string hvalue ▸ hfound
  type := by
    have hgoverns : Param.record.Governs 1
        (.mandatory "type" .string fun type p => { p with type }) Param.type :=
      ⟨rfl, by decide, by simp [Param.record]⟩
    rcases hgoverns.mandatory (fun _ _ => rfl) h with ⟨found, hfound, hvalue⟩
    exact Decoder.eq_of_string hvalue ▸ hfound
  isOptional := by
    have hgoverns : Param.record.Governs 2
        (.defaulted "isOptional" .boolean fun isOptional p => { p with isOptional })
          Param.isOptional :=
      ⟨rfl, by decide, by simp [Param.record]⟩
    rcases hgoverns.defaulted (fun _ _ => rfl) h with ⟨found, b, hfound, hvalue, rfl⟩ | hnone
    · exact .inl (Decoder.eq_of_boolean hvalue ▸ hfound)
    · exact .inr hnone

theorem Method.holds_of_ofJson {json : Json} {m : Method}
    (h : Method.record.decoder.ofJson json = .ok m) : Method.Holds json m where
  params := by
    have hgoverns : Method.record.Governs 0
        (.defaulted "params" Param.record.decoder.list fun params m => { m with params })
          Method.params :=
      ⟨rfl, by decide, by simp [Method.record]⟩
    rcases hgoverns.defaulted (fun _ _ => rfl) h with ⟨found, params, hfound, hvalue, rfl⟩ | hnone
    · rcases Decoder.exists_elements_of_ofJson Param.holds_of_ofJson hvalue with
        ⟨elements, rfl, hall⟩
      exact .inl ⟨elements, hfound, hall⟩
    · exact .inr hnone
  resultType := by
    have hgoverns : Method.record.Governs 1
        (.defaulted "type" .string fun resultType m => { m with resultType }) Method.resultType :=
      ⟨rfl, by decide, by simp [Method.record]⟩
    rcases hgoverns.defaulted (fun _ _ => rfl) h with ⟨found, text, hfound, hvalue, rfl⟩ | hnone
    · exact .inl (Decoder.eq_of_string hvalue ▸ hfound)
    · exact .inr hnone
  description := by
    have hgoverns : Method.record.Governs 2
        (.defaulted "description" Decoder.string.optional fun description m =>
          { m with description }) Method.description :=
      ⟨rfl, by decide, by simp [Method.record]⟩
    rcases hgoverns.defaulted (fun _ _ => rfl) h with
      ⟨found, text, hfound, hvalue, rfl⟩ | ⟨hnone, hinitial⟩
    · exact ⟨some found, hfound, Decoder.optionalText_of_ofJson hvalue⟩
    · exact ⟨none, hnone, hinitial ▸ .none⟩
  aliasSection := by
    have hgoverns : Method.record.Governs 3
        (.defaulted "aliasSection" Decoder.string.optional fun aliasSection m =>
          { m with aliasSection }) Method.aliasSection :=
      ⟨rfl, by decide, by simp [Method.record]⟩
    rcases hgoverns.defaulted (fun _ _ => rfl) h with
      ⟨found, text, hfound, hvalue, rfl⟩ | ⟨hnone, hinitial⟩
    · exact ⟨some found, hfound, Decoder.optionalText_of_ofJson hvalue⟩
    · exact ⟨none, hnone, hinitial ▸ .none⟩

/-- A section is made of the methods that its value holds. -/
theorem Section.exists_holds_of_ofJson {json : Json} {s : Section}
    (h : Section.record.decoder.ofJson json = .ok s) :
    ∃ methods, Section.Holds json methods ∧ s = ofWritten methods := by
  have hgoverns : Section.record.Governs 0
      (.defaulted "rpc" Method.record.decoder.members fun methods s =>
        { s with methods := Entries.settle methods }) Section.methods :=
    ⟨rfl, by decide, by simp [Section.record]⟩
  rcases hgoverns.defaulted (fun _ _ => rfl) h with
    ⟨found, methods, hfound, hvalue, hmethods⟩ | ⟨hnone, hinitial⟩
  · rcases Decoder.exists_members_of_ofJson Method.holds_of_ofJson hvalue with
      ⟨members, rfl, hall⟩
    exact ⟨methods, .inl ⟨members, hfound, hall⟩, congrArg Section.mk hmethods⟩
  · exact ⟨[], .inr ⟨hnone, rfl⟩, congrArg Section.mk hinitial⟩

theorem Param.decoder_agrees : Param.record.decoder.Agrees := by
  refine Json.Record.decoder_agrees ?_
  simp only [Param.record, List.forall_mem_cons, List.not_mem_nil, false_implies, implies_true,
    and_true]
  exact ⟨Field.mandatory_agrees Decoder.agrees_string,
    Field.mandatory_agrees Decoder.agrees_string, Field.defaulted_agrees Decoder.agrees_boolean⟩

theorem Method.decoder_agrees : Method.record.decoder.Agrees := by
  have htext : Decoder.string.optional.Agrees :=
    Decoder.agrees_string.optional fun _ hnull => by cases hnull
  refine Json.Record.decoder_agrees ?_
  simp only [Method.record, List.forall_mem_cons, List.not_mem_nil, false_implies, implies_true,
    and_true]
  exact ⟨Field.defaulted_agrees Param.decoder_agrees.list,
    Field.defaulted_agrees Decoder.agrees_string, Field.defaulted_agrees htext,
    Field.defaulted_agrees htext⟩

theorem Section.decoder_agrees : Section.record.decoder.Agrees := by
  refine Json.Record.decoder_agrees ?_
  simp only [Section.record, List.forall_mem_singleton]
  exact Field.defaulted_agrees Method.decoder_agrees.members

/-- Definitions are decoded from a text as they are from the value that the text spells. -/
theorem Definitions.decoder_agrees : Definitions.decoder.Agrees :=
  Section.decoder_agrees.members.map Table.ofList

/-- What is decoded is made of the sections that are written. -/
theorem Definitions.exists_writtenIn {source : Json.Source} {definitions : Definitions}
    (h : Definitions.decoder.decode source = .ok definitions) :
    ∃ written, WrittenIn source written ∧ definitions = ofWritten written := by
  rcases decoder_agrees.decode h with ⟨json, hgives, hvalue⟩
  rcases map_eq_ok_iff.1 hvalue with ⟨entries, hentries, rfl⟩
  rcases Decoder.exists_members_of_ofJson Section.exists_holds_of_ofJson hentries with
    ⟨members, rfl, hall⟩
  suffices ∃ written, EntriesOf Section.Holds members written ∧
      entries = written.map (Prod.map id Section.ofWritten) by
    rcases this with ⟨written, hwritten, rfl⟩
    exact ⟨written, ⟨members, hgives, hwritten⟩, rfl⟩
  clear h hgives hvalue hentries
  induction hall with
  | nil => exact ⟨[], .nil, rfl⟩
  | @cons member entry _ _ hentry _ ih =>
    rcases hentry with ⟨hkey, methods, hholds, hsection⟩
    rcases ih with ⟨written, hwritten, rfl⟩
    exact ⟨(entry.1, methods) :: written, .cons ⟨hkey, hholds⟩ hwritten,
      congrArg (· :: _) (Prod.ext rfl hsection)⟩

/-! ## Sections that are left -/

/-- Sections in the order of their keys, as they are left of those that are written: each key with
the last section that is written for it, and in this section each method once, at its first place
and with its last value. -/
structure Remains (written sections : List (String × List (String × Method))) : Prop where
  ascending : sections.Pairwise fun a b => Text.bytes a.1 < Text.bytes b.1
  keys : ∀ key, key ∈ Entries.keys sections ↔ key ∈ Entries.keys written
  methods : ∀ entry ∈ sections,
    ∃ methods, Entries.IsLast entry.1 methods written ∧ Entries.Settles methods entry.2

/-- The methods of each section. -/
def Definitions.listed (definitions : Definitions) : List (String × List (String × Method)) :=
  definitions.entries.map (Prod.map id Section.methods)

/-- A section that is listed is the last one that is written for its key. -/
theorem Definitions.mem_listed_ofWritten_iff {written : List (String × List (String × Method))}
    {key : String} {methods : List (String × Method)} :
    (key, methods) ∈ (ofWritten written).listed ↔
      ∃ all, Entries.IsLast key all written ∧ Entries.settle all = methods := by
  have hentry : (key, methods) ∈ (ofWritten written).listed ↔
      (key, ⟨methods⟩) ∈ (ofWritten written).entries := by
    rw [listed, List.mem_map]
    constructor
    · rintro ⟨entry, hmem, heq⟩
      cases heq
      exact hmem
    · exact fun hmem => ⟨_, hmem, rfl⟩
  have hvalue : (ofWritten written).get? key =
      (Table.valueOf key written.reverse).map Section.ofWritten := by
    rw [ofWritten, Table.get?_ofList, ← List.map_reverse, Entries.valueOf_map]
  rw [hentry, Table.mem_entries_iff, hvalue, Option.map_eq_some_iff]
  simp only [Entries.isLast_iff, Section.ofWritten, Section.mk.injEq]

/-- What is left of the sections that are written. -/
theorem Definitions.remains_ofWritten (written : List (String × List (String × Method))) :
    Remains written (ofWritten written).listed where
  ascending := by
    rw [listed, List.pairwise_map]
    exact (ofWritten written).sorted.imp Text.lt_iff_bytes_lt.1
  keys key := by
    constructor
    · intro hkey
      rcases List.mem_map.1 hkey with ⟨entry, hentry, rfl⟩
      rcases mem_listed_ofWritten_iff.1 hentry with ⟨all, hlast, _⟩
      exact Entries.mem_keys_iff.2 ⟨all, hlast⟩
    · intro hkey
      rcases Entries.mem_keys_iff.1 hkey with ⟨all, hlast⟩
      exact List.mem_map_of_mem (mem_listed_ofWritten_iff.2 ⟨all, hlast, rfl⟩)
  methods entry hentry := by
    rcases mem_listed_ofWritten_iff.1 hentry with ⟨all, hlast, hmethods⟩
    exact ⟨all, hlast, hmethods ▸ Entries.settles_settle all⟩

/-! ## Order of the sections -/

/-- Decodes a section together with its key. -/
def Section.ofMember (member : String × Json) : Except Json.Error (String × Section) := do
  return (member.1, ← Section.record.decoder.ofJson member.2)

theorem Section.ofMember_fst {member : String × Json} {entry : String × Section}
    (h : Section.ofMember member = .ok entry) : entry.1 = member.1 := by
  rcases bind_eq_ok_iff.1 h with ⟨_, _, hentry⟩
  rw [← Except.ok.inj hentry]

/-- Objects with the same members in two orders are the same definitions, as long as no key comes up
twice. -/
theorem Definitions.ofJson_perm {members members' : List (String × Json)}
    (hperm : members.Perm members') (hnodup : (Entries.keys members).Nodup)
    {definitions : Definitions}
    (h : Definitions.decoder.ofJson (.object members) = .ok definitions) :
    Definitions.decoder.ofJson (.object members') = .ok definitions := by
  change (members.mapM Section.ofMember).map Table.ofList = .ok definitions at h
  change (members'.mapM Section.ofMember).map Table.ofList = .ok definitions
  rcases map_eq_ok_iff.1 h with ⟨entries, hentries, rfl⟩
  rcases mapM_perm hperm hentries with ⟨entries', hentries', hperm'⟩
  have hkeys : Entries.keys entries = Entries.keys members :=
    map_of_mapM (fun _ _ => Section.ofMember_fst) hentries
  rw [hentries']
  exact congrArg Except.ok (Table.ofList_perm hperm' (hkeys ▸ hnodup)).symm

/-- Texts whose members are the same in two orders are the same definitions, as long as no key comes
up twice. -/
theorem Definitions.ofText_perm {text text' : String} {members members' : List (String × Json)}
    (htext : Json.TextOf text (.object members)) (htext' : Json.TextOf text' (.object members'))
    (hperm : members.Perm members') (hnodup : (Entries.keys members).Nodup)
    {definitions definitions' : Definitions}
    (h : Definitions.decoder.ofText text = .ok definitions)
    (h' : Definitions.decoder.ofText text' = .ok definitions') : definitions = definitions' := by
  rcases decoder_agrees.ofText h with ⟨json, hjson, hvalue⟩
  rcases decoder_agrees.ofText h' with ⟨json', hjson', hvalue'⟩
  rw [hjson.unique htext] at hvalue
  rw [hjson'.unique htext', ofJson_perm hperm hnodup hvalue] at hvalue'
  exact Except.ok.inj hvalue'

end Rpc
end NodeApi
