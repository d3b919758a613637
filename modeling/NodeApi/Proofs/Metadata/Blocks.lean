import NodeApi.Metadata.Extrinsics
import NodeApi.Proofs.Schema.Run
import NodeApi.Proofs.Sorting

/-!
# The calls of a document in order

The calls are described pallet by pallet.  A pallet whose calls are known makes one block of
entries, and a call makes one entry of its block, so nothing is lost or shown twice.  Two sorts put
them in order: that of the pallets goes by the names they have, that of the calls by the names they
are shown by, and neither changes the order of equal names.

Main results:

- Theorem `describeField_shows`: a parameter has the name and the type of its field.
- Theorem `describePallet_shows`: the calls of a pallet make one entry each.
- Theorem `describe_blocks`: the calls of all pallets are described block by block.
-/

namespace NodeApi

namespace Metadata

/-! ## Entries -/

/-- The type of a field is the one that the field names.  Else it is what the metadata call the type
of the field: as it is written in the source, or by an alias if there is one.  A type that the
metadata do not know is called by its number. -/
inductive Field.HasType (l : Lookup) (f : Field) : String → Prop where
  | named {type : String} : f.typeName = some type → HasType l f type
  | source {info : TypeInfo} : f.typeName = none → l.info f.type = some info →
    info.isFromSi = true → HasType l f info.type
  | alias {info : TypeInfo} : f.typeName = none → l.info f.type = some info →
    info.isFromSi = false → HasType l f (info.lookupName.getD info.type)
  | unknown : f.typeName = none → l.info f.type = none →
    HasType l f ("Lookup" ++ toString f.type.toNat)

/-- A parameter shows the field at a place: by the name of the field or else by its place, and with
its type. -/
structure ShowsField (l : Lookup) (field : Field × Nat) (p : ParamEntry) : Prop where
  ownName : ∀ name ∈ field.1.name, p.name = parameterName name
  placeName : field.1.name = none → p.name = "param" ++ toString field.2
  type : field.1.HasType l p.type

/-- An entry shows a call of a pallet: with its documentation as it is and, in one line, with a
space for each character that is not plain; and with one parameter for each field, in their
order. -/
structure ShowsCall (l : Lookup) (pallet : Pallet) (call : Variant) (e : ExtrinsicEntry) :
    Prop where
  palletName : e.palletName = Text.camelCase pallet.name
  name : e.name = Text.camelCase call.name
  docs : e.docs = call.docs
  description : List.Forall₂ (fun c d => d = if Text.isPlain c then c else ' ')
    (" ".intercalate call.docs).toList e.description.toList
  params : List.Forall₂ (ShowsField l) call.fields.zipIdx e.params

/-- A block of entries shows the calls of a pallet: each by one entry, in ascending order of the
names that they are shown by, and with equal names as they are declared. -/
def ShowsPallet (l : Lookup) (pallet : Pallet × List Variant) (block : List ExtrinsicEntry) :
    Prop :=
  ∃ calls : List Variant, StablySorted (fun call => Text.camelCase call.name) pallet.2 calls ∧
    List.Forall₂ (ShowsCall l pallet.1) calls block

theorem hasType_typeName (l : Lookup) (f : Field) : f.HasType l (typeName l f).1 := by
  unfold typeName
  split
  · rename_i type htype
    exact .named htype
  · rename_i htype
    split
    · rename_i info hinfo
      split
      · rename_i hsource
        exact .source htype hinfo hsource
      · rename_i hsource
        exact .alias htype hinfo (Bool.eq_false_iff.2 hsource)
    · rename_i hinfo
      exact .unknown htype hinfo

/-- A parameter has the name and the type of its field. -/
theorem describeField_shows (l : Lookup) (s : Session) (field : Field × Nat) :
    ShowsField l field (describeField l s field).1 where
  ownName name hname := by
    change fieldName field.1 field.2 = parameterName name
    rw [fieldName, Option.mem_def.1 hname]
  placeName hname := by
    change fieldName field.1 field.2 = "param" ++ toString field.2
    rw [fieldName, hname]
  type := hasType_typeName l field.1

/-- A call makes an entry with one parameter for each field. -/
theorem describeCall_shows (l : Lookup) (pallet : Pallet) (s : Session) (call : Variant) :
    ShowsCall l pallet call
      (describeCall l (Text.camelCase pallet.name) s (Text.camelCase call.name, call)).1 where
  palletName := rfl
  name := rfl
  docs := rfl
  description := by
    change List.Forall₂ _ (" ".intercalate call.docs).toList
      (Text.plain (" ".intercalate call.docs)).toList
    rw [Text.plain, String.toList_ofList, List.forall₂_map_right_iff]
    exact List.forall₂_same.2 fun _ _ => rfl
  params := Session.forall₂_mapEach (describeField_shows l) s call.fields.zipIdx

/-! ## Blocks -/

/-- The calls of a type are put in order by the names that they are shown by. -/
theorem namedCalls_eq_map (variants : List Variant) :
    namedCalls variants =
      (variants.mergeSort fun a b => Text.camelCase a.name ≤ Text.camelCase b.name).map
        fun call => (Text.camelCase call.name, call) := by
  symm
  apply List.map_mergeSort
  intro a _ b _
  rfl

/-- The calls of a pallet make one entry each. -/
theorem describePallet_shows {l : Lookup} {pallet : Pallet × UInt32} {variants : List Variant}
    (h : l.variants pallet.2 = some variants) (s : Session) :
    ShowsPallet l (pallet.1, variants) (describePallet l s pallet).1 := by
  have hsorted := stablySorted_mergeSort (fun call => Text.camelCase call.name) variants
  refine ⟨_, hsorted, ?_⟩
  rw [describePallet, h]
  dsimp only
  rw [namedCalls_eq_map, Session.mapEach_map]
  exact Session.forall₂_mapEach (describeCall_shows l pallet.1) _ _

/-- The pallets that have calls are put in order by their names. -/
theorem stablySorted_callPallets (pallets : List Pallet) :
    StablySorted (fun pallet => pallet.1.name)
      (pallets.filterMap fun p => p.calls.map fun calls => (p, calls)) (callPallets pallets) :=
  stablySorted_mergeSort _ _

/-- The pallets whose calls the metadata know, each with its calls. -/
def knownPallets (l : Lookup) (pallets : List Pallet) : List (Pallet × List Variant) :=
  pallets.filterMap fun p => (p.calls.bind l.variants).map fun variants => (p, variants)

/-- A pallet with the calls that the metadata know of its type. -/
def withVariants (l : Lookup) (pallet : Pallet × UInt32) : Option (Pallet × List Variant) :=
  (l.variants pallet.2).map fun variants => (pallet.1, variants)

/-- The pallets whose calls are known are described in the order of their names. -/
theorem stablySorted_knownPallets (l : Lookup) (pallets : List Pallet) :
    StablySorted (fun pallet => pallet.1.name) (knownPallets l pallets)
      ((callPallets pallets).filterMap (withVariants l)) := by
  have hname : ∀ (pallet : Pallet × UInt32) (known : Pallet × List Variant),
      withVariants l pallet = some known → known.1.name = pallet.1.name := by
    intro pallet known hknown
    rcases Option.map_eq_some_iff.1 hknown with ⟨_, _, rfl⟩
    rfl
  have hgiven : (pallets.filterMap fun p => p.calls.map fun calls => (p, calls)).filterMap
      (withVariants l) = knownPallets l pallets := by
    rw [List.filterMap_filterMap]
    refine List.filterMap_congr fun p _ => ?_
    cases p.calls <;> rfl
  exact hgiven ▸ (stablySorted_callPallets pallets).filterMap hname

/-- The pallets whose calls are known make one block each, and the others none. -/
theorem mapEach_describePallet_shows (l : Lookup) (s : Session) (pallets : List (Pallet × UInt32)) :
    ∃ blocks : List (List ExtrinsicEntry),
      (s.mapEach (describePallet l) pallets).1.flatten = blocks.flatten ∧
        List.Forall₂ (ShowsPallet l) (pallets.filterMap (withVariants l)) blocks := by
  induction pallets generalizing s with
  | nil => exact ⟨[], rfl, .nil⟩
  | cons pallet pallets ih =>
    rcases ih (describePallet l s pallet).2 with ⟨blocks, hflatten, hshows⟩
    rw [Session.mapEach_cons, List.flatten_cons, hflatten]
    cases hvariants : l.variants pallet.2 with
    | none =>
      have hnothing : (describePallet l s pallet).1 = [] := by rw [describePallet, hvariants]
      have hskip : withVariants l pallet = none := by rw [withVariants, hvariants, Option.map_none]
      rw [hnothing, List.nil_append, List.filterMap_cons_none hskip]
      exact ⟨blocks, rfl, hshows⟩
    | some variants =>
      have hkeep : withVariants l pallet = some (pallet.1, variants) := by
        rw [withVariants, hvariants, Option.map_some]
      rw [List.filterMap_cons_some hkeep]
      exact ⟨_ :: blocks, rfl, .cons (describePallet_shows hvariants s) hshows⟩

/-- The blocks together show each call by one entry. -/
theorem exists_calls_of_blocks {l : Lookup} {pallets : List (Pallet × List Variant)}
    {blocks : List (List ExtrinsicEntry)} (h : List.Forall₂ (ShowsPallet l) pallets blocks) :
    ∃ calls : List (Pallet × Variant),
      calls.Perm (pallets.flatMap fun pallet => pallet.2.map fun call => (pallet.1, call)) ∧
        List.Forall₂ (fun call e => ShowsCall l call.1 call.2 e) calls blocks.flatten := by
  induction h with
  | nil => exact ⟨[], .refl _, .nil⟩
  | @cons pallet block _ _ hblock _ ih =>
    rcases hblock with ⟨sorted, hsorted, hshows⟩
    rcases ih with ⟨calls, hperm, hcalls⟩
    refine ⟨(sorted.map fun call => (pallet.1, call)) ++ calls, ?_, ?_⟩
    · rw [List.flatMap_cons]
      exact (hsorted.perm.map _).append hperm
    · rw [List.flatten_cons]
      have hblock : List.Forall₂ (fun call e => ShowsCall l call.1 call.2 e)
          (sorted.map fun call => (pallet.1, call)) block := List.forall₂_map_left_iff.2 hshows
      exact List.rel_append hblock hcalls

/-- The entries show the calls of the pallets whose calls are known, each by one entry. -/
theorem exists_calls_of_describe (l : Lookup) (pallets : List Pallet) (s : Session) :
    ∃ calls : List (Pallet × Variant),
      calls.Perm (pallets.flatMap fun p =>
        ((p.calls.bind l.variants).getD []).map fun call => (p, call)) ∧
        List.Forall₂ (fun call e => ShowsCall l call.1 call.2 e) calls
          (describe l pallets s).1 := by
  rcases mapEach_describePallet_shows l s (callPallets pallets) with ⟨blocks, hflatten, hshows⟩
  rcases exists_calls_of_blocks hshows with ⟨calls, hperm, hcalls⟩
  have hknown : (knownPallets l pallets).flatMap
      (fun pallet => pallet.2.map fun call => (pallet.1, call)) =
        pallets.flatMap fun p =>
          ((p.calls.bind l.variants).getD []).map fun call => (p, call) := by
    rw [knownPallets, List.filterMap_eq_flatMap_toList, List.flatMap_assoc]
    refine List.flatMap_congr fun p _ => ?_
    cases p.calls.bind l.variants with
    | none => rfl
    | some variants => exact List.flatMap_singleton _ _
  refine ⟨calls, ?_, ?_⟩
  · rw [← hknown]
    exact hperm.trans ((stablySorted_knownPallets l pallets).perm.flatMap_right _)
  · change List.Forall₂ _ calls (s.mapEach (describePallet l) (callPallets pallets)).1.flatten
    rw [hflatten]
    exact hcalls

/-- The calls of all pallets are described block by block, in any run.  There is one block for each
pallet that has calls of a type with variants, in ascending order of the names of the pallets, and
with equal names as the pallets are given. -/
theorem describe_blocks (l : Lookup) (pallets : List Pallet) (s : Session) :
    ∃ (described : List (Pallet × List Variant)) (blocks : List (List ExtrinsicEntry)),
      (describe l pallets s).1 = blocks.flatten ∧
      StablySorted (fun pallet => pallet.1.name) (knownPallets l pallets) described ∧
      List.Forall₂ (ShowsPallet l) described blocks := by
  rcases mapEach_describePallet_shows l s (callPallets pallets) with ⟨blocks, hflatten, hshows⟩
  exact ⟨_, blocks, hflatten, stablySorted_knownPallets l pallets, hshows⟩

end Metadata
end NodeApi
