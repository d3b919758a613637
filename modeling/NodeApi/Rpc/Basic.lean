import NodeApi.Json.Record
import NodeApi.Table

/-!
# Definitions of RPC methods

The methods of a node are defined in sections.  Sections are kept in ascending order of their keys,
the methods of a section in the order in which they are first mentioned.

Definitions are written as an object of sections.  A section key that comes up again counts with
its last value; a method that comes up again keeps its first place and takes its last value.

Main results:

- Theorem `sectionName_of_not_mem`: a key without a slash is the name of its section.
-/

namespace NodeApi
namespace Rpc

open Json (Decoder Record)

/-! ## Definitions -/

/-- A declared parameter. -/
structure Param where
  name : String
  type : String
  isOptional : Bool
deriving DecidableEq

/-- A declared method. -/
structure Method where
  params : List Param
  resultType : String
  description : Option String
  aliasSection : Option String
deriving DecidableEq

/-- The methods of a section by their names, in order. -/
structure Section where
  methods : List (String × Method)
deriving DecidableEq

/-- The sections by their keys. -/
abbrev Definitions : Type :=
  Table String Section

/-- The name of a section is the part of its key behind the last slash. -/
def sectionName (key : String) : String :=
  String.ofList (key.toList.reverse.takeWhile (· ≠ '/')).reverse

/-- A key without a slash is the name of its section. -/
theorem sectionName_of_not_mem {key : String} (h : '/' ∉ key.toList) : sectionName key = key := by
  have hall : ∀ c ∈ key.toList.reverse, decide (c ≠ '/') = true := fun c hc => by
    have hne : c ≠ '/' := fun heq => h (heq ▸ List.mem_reverse.1 hc)
    simp [hne]
  have htake : key.toList.reverse.takeWhile (· ≠ '/') = key.toList.reverse := by
    have happend : (key.toList.reverse ++ []).takeWhile (· ≠ '/') = _ :=
      List.takeWhile_append_of_pos hall
    simpa using happend
  simp only [sectionName, htake, List.reverse_reverse, String.ofList_toList]

/-! ## Decoding -/

/-- A parameter has to have a name and a type. -/
def Param.record : Record Param where
  name := "RpcParamDef"
  initial := ⟨"", "", false⟩
  fields := [
    .mandatory "name" .string fun name p => { p with name },
    .mandatory "type" .string fun type p => { p with type },
    .defaulted "isOptional" .boolean fun isOptional p => { p with isOptional }]

/-- All parts of a method may be left out. -/
def Method.record : Record Method where
  name := "RpcMethodDef"
  initial := ⟨[], "", none, none⟩
  fields := [
    .defaulted "params" Param.record.decoder.list fun params m => { m with params },
    .defaulted "type" .string fun resultType m => { m with resultType },
    .defaulted "description" Decoder.string.optional fun description m => { m with description },
    .defaulted "aliasSection" Decoder.string.optional fun aliasSection m =>
      { m with aliasSection }]

/-- A section may be without methods. -/
def Section.record : Record Section where
  name := "RpcSection"
  initial := ⟨[]⟩
  fields := [
    .defaulted "rpc" Method.record.decoder.members fun methods s =>
      { s with methods := Entries.settle methods }]

/-- Definitions are an object of sections. -/
def Definitions.decoder : Decoder Definitions :=
  Section.record.decoder.members.map Table.ofList

end Rpc
end NodeApi
