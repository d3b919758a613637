import NodeApi.Json.Record
import NodeApi.Table

/-!
# Runtime metadata

A runtime is made of pallets.  The calls of a pallet are the variants of a type, and types are
known by numbers.

Metadata is written as an object of pallets and types.  The keys of the types are numbers; a number
that comes up again counts with its last value.

Main results:

- Structure `Lookup`: what is asked of the types of a runtime.
- Definition `Lookup.ofTable`: what a table of types answers.
- Definition `decoder`: the metadata of a runtime from JSON.
-/

namespace NodeApi

namespace Metadata

/-- What a type is called. -/
structure TypeInfo where
  type : String
  isFromSi : Bool
  lookupName : Option String
deriving DecidableEq

/-- A field of a call. -/
structure Field where
  name : Option String
  type : UInt32
  typeName : Option String
deriving DecidableEq

/-- A call of a pallet. -/
structure Variant where
  name : String
  docs : List String
  fields : List Field
deriving DecidableEq

/-- A type and, if it is a choice, its variants. -/
structure TypeEntry where
  info : TypeInfo
  variants : Option (List Variant)
deriving DecidableEq

/-- The types by their numbers. -/
abbrev TypeTable : Type :=
  Table UInt32 TypeEntry

/-- A pallet, with the type of its calls if it has any. -/
structure Pallet where
  name : String
  calls : Option UInt32
deriving DecidableEq

/-- What is asked of the types of a runtime. -/
structure Lookup where
  info : UInt32 → Option TypeInfo
  variants : UInt32 → Option (List Variant)

/-- What a table tells of the types in it. -/
def Lookup.ofTable (t : TypeTable) : Lookup where
  info id := (t.get? id).map (·.info)
  variants id := (t.get? id).bind (·.variants)

end Metadata

/-- The pallets of a runtime and its types. -/
structure Metadata where
  pallets : List Metadata.Pallet
  types : Metadata.TypeTable

namespace Metadata

/-- A runtime without pallets and types. -/
def empty : Metadata :=
  ⟨[], .empty⟩

/-- What the metadata tells of its types. -/
def lookup (m : Metadata) : Lookup :=
  .ofTable m.types

/-! ## Decoding -/

open Json (Decoder Record)

/-- A field has to have a type. -/
def Field.record : Record Field where
  name := "CallField"
  initial := ⟨none, 0, none⟩
  fields := [
    .defaulted "name" Decoder.string.optional fun name f => { f with name },
    .mandatory "type" .word fun type f => { f with type },
    .defaulted "typeName" Decoder.string.optional fun typeName f => { f with typeName }]

/-- A variant has to have a name. -/
def Variant.record : Record Variant where
  name := "CallVariant"
  initial := ⟨"", [], []⟩
  fields := [
    .mandatory "name" .string fun name v => { v with name },
    .defaulted "docs" Decoder.string.list fun docs v => { v with docs },
    .defaulted "fields" Field.record.decoder.list fun fields v => { v with fields }]

/-- Of a type, its variants are read where they stand. -/
def TypeEntry.variantsRecord : Record TypeEntry where
  name := "LookupType"
  initial := ⟨⟨"", false, none⟩, none⟩
  fields := [
    .defaulted "variants" Variant.record.decoder.list.optional fun variants t =>
      { t with variants }]

/-- What a type is called is looked at last. -/
def TypeEntry.infoRecord : Record TypeEntry where
  name := "LookupType"
  initial := ⟨⟨"", false, none⟩, none⟩
  fields := [
    .mandatory "type" .string fun type t => { t with info := { t.info with type } },
    .defaulted "isFromSi" .boolean fun isFromSi t => { t with info := { t.info with isFromSi } },
    .defaulted "lookupName" Decoder.string.optional fun lookupName t =>
      { t with info := { t.info with lookupName } }]

/-- A type is an object. -/
def TypeEntry.decoder : Decoder TypeEntry :=
  TypeEntry.variantsRecord.decoderInTwo TypeEntry.infoRecord

/-- A pallet has to have a name. -/
def Pallet.record : Record Pallet where
  name := "PalletMetadata"
  initial := ⟨"", none⟩
  fields := [
    .mandatory "name" .string fun name p => { p with name },
    .defaulted "calls" Decoder.word.optional fun calls p => { p with calls }]

/-- Both parts of the metadata may be left out. -/
def record : Record Metadata where
  name := "RuntimeMetadata"
  initial := .empty
  fields := [
    .defaulted "pallets" Pallet.record.decoder.list fun pallets m => { m with pallets },
    .defaulted "types" TypeEntry.decoder.wordMembers fun types m =>
      { m with types := .ofList types }]

/-- Metadata as an object, or as a list of its two parts. -/
def decoder : Decoder Metadata :=
  record.decoder

end Metadata
end NodeApi
