import NodeApi.Metadata.Basic
import NodeApi.Param

/-!
# Describing calls

Every call of every pallet becomes an entry of the document: pallets in ascending order of their
names, the calls of a pallet in ascending order of the names they are shown by.

Main results:

- Definition `describe`: the calls of all pallets, as the document shows them.
- Theorem `callPallets_perm`: ordering the pallets loses none of them.
-/

namespace NodeApi
namespace Metadata

/-- A call as the document shows it. -/
structure ExtrinsicEntry where
  docs : List String
  name : String
  params : List ParamEntry
  palletName : String
  description : String
deriving DecidableEq

/-- The entry as an element of the document. -/
def ExtrinsicEntry.toJson (e : ExtrinsicEntry) : Json :=
  .object [
    ("method", .object [("docs", .array (e.docs.map .string)), ("name", .string e.name),
      ("params", .array (e.params.map ParamEntry.toJson))]),
    ("palletName", .string e.palletName), ("description", .string e.description)]

/-- The name of the type of a field, and the notice that the type is missing. -/
def typeName (l : Lookup) (f : Field) : String × List Notice :=
  match f.typeName with
  | some name => (name, [])
  | none =>
    match l.info f.type with
    | some info =>
      if info.isFromSi then (info.type, []) else (info.lookupName.getD info.type, [])
    | none => ("Lookup" ++ toString f.type.toNat, [.fieldTypeMissing f.type])

/-- The name a field is shown by: its own, or one made from its place. -/
def fieldName (f : Field) (index : Nat) : String :=
  match f.name with
  | some name => parameterName name
  | none => "param" ++ toString index

/-- A field of a call. -/
def describeField (l : Lookup) (s : Session) (field : Field × Nat) : ParamEntry × Session :=
  let (type, notices) := typeName l field.1
  let (resolution, s) := (notices.foldl Session.tell s).resolve .call type
  (.ofResolution (fieldName field.1 field.2) type resolution, s)

/-- A call of a pallet, with the name it is shown by. -/
def describeCall (l : Lookup) (palletName : String) (s : Session) (call : String × Variant) :
    ExtrinsicEntry × Session :=
  let (params, s) := s.mapEach (describeField l) call.2.fields.zipIdx
  ({ docs := call.2.docs
     name := call.1
     params
     palletName
     description := Text.plain (" ".intercalate call.2.docs) }, s)

/-- The calls of a type with the names they are shown by, in ascending order of these. -/
def namedCalls (variants : List Variant) : List (String × Variant) :=
  (variants.map fun v => (Text.camelCase v.name, v)).mergeSort fun a b => a.1 ≤ b.1

/-- The calls of a pallet. -/
def describePallet (l : Lookup) (s : Session) (pallet : Pallet × UInt32) :
    List ExtrinsicEntry × Session :=
  match l.variants pallet.2 with
  | none => ([], s.tell (.callsMissing pallet.2 pallet.1.name))
  | some variants =>
    let name := Text.camelCase pallet.1.name
    (s.tell (.describingCalls variants.length name)).mapEach (describeCall l name)
      (namedCalls variants)

/-- The pallets that have calls with the type of these, in ascending order of their names. -/
def callPallets (pallets : List Pallet) : List (Pallet × UInt32) :=
  (pallets.filterMap fun p => p.calls.map fun calls => (p, calls)).mergeSort
    fun a b => a.1.name ≤ b.1.name

/-- The calls of all pallets. -/
def describe (l : Lookup) (pallets : List Pallet) (s : Session) :
    List ExtrinsicEntry × Session :=
  let (blocks, s) := s.mapEach (describePallet l) (callPallets pallets)
  (blocks.flatten, s)

/-- Ordering the pallets loses none of them. -/
theorem callPallets_perm (pallets : List Pallet) :
    (callPallets pallets).Perm
      (pallets.filterMap fun p => p.calls.map fun calls => (p, calls)) :=
  List.mergeSort_perm _ _

end Metadata
end NodeApi
