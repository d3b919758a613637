import NodeApi.Proofs.Document.Lockstep
import NodeApi.Proofs.Rpc.Definitions
import NodeApi.Proofs.Sorting

/-!
# The order of the input

A document does not depend on the order in which sections, pallets and calls are given, as long as
no two of them have the same name.  They are described in the order of their names, and what is left
out of the document has no effect on the rest.

Main results:

- Theorem `mapEach_filter`: elements that are left out may as well be missing.
- Theorem `Metadata.describePallet_agree`: lookups that agree up to order describe the same calls.
- Theorem `Document.generate_perm`: the same input in another order gives the same document.
-/

namespace NodeApi

/-! ## Descriptions that agree -/

/-- Two descriptions agree on an element if they keep in step on it in runs that have the same
registry, whatever the notices of the runs are. -/
def Agree {α β : Type} (f f' : Session → α → β × Session) (x : α) : Prop :=
  ∀ s s' : Session, s.registry = s'.registry →
    (f s x).1 = (f' s' x).1 ∧ (f s x).2.registry = (f' s' x).2.registry

/-- Elements that are described by nothing may as well be missing. -/
theorem mapEach_filter {α β : Type} {f : Session → α → List β × Session} {keep : α → Bool}
    (hagree : ∀ x, Agree f f x)
    (hskip : ∀ s x, keep x = false → (f s x).1 = [] ∧ (f s x).2.registry = s.registry)
    {s s' : Session} (hregistry : s.registry = s'.registry) (xs : List α) :
    (s.mapEach f xs).1.flatten = (s'.mapEach f (xs.filter keep)).1.flatten ∧
      (s.mapEach f xs).2.registry = (s'.mapEach f (xs.filter keep)).2.registry := by
  induction xs generalizing s s' with
  | nil => exact ⟨rfl, hregistry⟩
  | cons x xs ih =>
    rw [Session.mapEach_cons, List.flatten_cons]
    cases hkeep : keep x with
    | false =>
      -- the run without this element has not moved yet, and this one has moved in its notices only
      rcases hskip s x hkeep with ⟨hnothing, hsame⟩
      rw [List.filter_cons_of_neg (by simp [hkeep]), hnothing, List.nil_append]
      exact ih (hsame.trans hregistry)
    | true =>
      rcases hagree x s s' hregistry with ⟨hhead, hnext⟩
      rcases ih hnext with ⟨htail, hlast⟩
      rw [List.filter_cons_of_pos hkeep, Session.mapEach_cons, List.flatten_cons]
      exact ⟨by rw [hhead, htail], hlast⟩

/-! ## Calls -/

namespace Metadata

/-- The pallets whose calls are described: those that have calls, of a type with variants. -/
def describedPallets (l : Lookup) (pallets : List Pallet) : List Pallet :=
  pallets.filter fun p => (p.calls.bind l.variants).isSome

/-- Lookups that tell the same variants of a pallet, up to their order, describe the same calls. -/
theorem describePallet_agree {l l' : Lookup} (hinfo : ∀ id, l.info id = l'.info id)
    {pallet : Pallet × UInt32}
    (hcalls : (l.variants pallet.2).map namedCalls = (l'.variants pallet.2).map namedCalls) :
    Agree (describePallet l) (describePallet l') pallet :=
  describePallet_lockstep hinfo hcalls fun _ _ => resolvesAlike_eq .call _

/-- A pallet whose calls are missing has no effect but a notice. -/
theorem describePallet_skip (l : Lookup) (s : Session) (pallet : Pallet × UInt32)
    (h : (l.variants pallet.2).isSome = false) :
    (describePallet l s pallet).1 = [] ∧
      (describePallet l s pallet).2.registry = s.registry := by
  rw [Option.isSome_eq_false_iff, Option.isNone_iff_eq_none] at h
  simp [describePallet, h, Session.tell]

/-! ## Pallets in order -/

/-- The pallets whose calls are described, in the order of their names. -/
def describedCalls (l : Lookup) (pallets : List Pallet) : List (Pallet × UInt32) :=
  (callPallets pallets).filter fun pallet => (l.variants pallet.2).isSome

theorem describedCalls_perm (l : Lookup) (pallets : List Pallet) :
    (describedCalls l pallets).Perm
      ((describedPallets l pallets).filterMap fun p => p.calls.map fun calls => (p, calls)) := by
  have heq : ((pallets.filterMap fun p => p.calls.map fun calls => (p, calls)).filter
      fun pallet => (l.variants pallet.2).isSome) =
      (describedPallets l pallets).filterMap fun p => p.calls.map fun calls => (p, calls) := by
    rw [describedPallets, List.filter_filterMap, List.filterMap_filter]
    apply List.filterMap_congr
    intro p _
    cases p.calls <;> simp [Option.filter]
  rw [← heq]
  exact (callPallets_perm pallets).filter _

theorem describedCalls_pairwise (l : Lookup) (pallets : List Pallet) :
    (describedCalls l pallets).Pairwise fun a b => a.1.name ≤ b.1.name :=
  (pairwise_mergeSort_name (fun p : Pallet × UInt32 => p.1.name) _).filter _

theorem map_fst_describedPallets (l : Lookup) (pallets : List Pallet) :
    ((describedPallets l pallets).filterMap fun p => p.calls.map fun calls => (p, calls)).map
      (·.1) = describedPallets l pallets := by
  rw [List.map_filterMap]
  calc
    _ = (describedPallets l pallets).filterMap some := by
      apply List.filterMap_congr
      intro p hp
      have hdescribed := (List.mem_filter.1 hp).2
      cases hcalls : p.calls with
      | none => simp [hcalls] at hdescribed
      | some calls => rfl
    _ = _ := List.filterMap_some

/-- Pallets in the order of their names stay the same when they are given in another order. -/
theorem describedCalls_eq {l l' : Lookup} {pallets pallets' : List Pallet}
    (hperm : (describedPallets l pallets).Perm (describedPallets l' pallets'))
    (hnames : ((describedPallets l pallets).map (·.name)).Nodup) :
    describedCalls l pallets = describedCalls l' pallets' := by
  have hcalls := describedCalls_perm l pallets
  apply eq_of_sorted (describedCalls_pairwise l pallets) (describedCalls_pairwise l' pallets')
  · exact hcalls.trans ((hperm.filterMap _).trans (describedCalls_perm l' pallets').symm)
  · have hfirst := (hcalls.map (·.1)).trans (.of_eq (map_fst_describedPallets l pallets))
    have hname := (hfirst.map (·.name)).symm.nodup hnames
    rwa [List.map_map] at hname

/-- The calls of a type in the order of their names stay the same when they are given in another
order. -/
theorem namedCalls_eq {variants variants' : List Variant} (hperm : variants.Perm variants')
    (hnames : (variants.map fun v => Text.camelCase v.name).Nodup) :
    namedCalls variants = namedCalls variants' := by
  have hnamed := hperm.map fun v => (Text.camelCase v.name, v)
  apply eq_of_sorted (pairwise_mergeSort_name Prod.fst _) (pairwise_mergeSort_name Prod.fst _)
  · exact (List.mergeSort_perm _ _).trans (hnamed.trans (List.mergeSort_perm _ _).symm)
  · have hfirst := (List.mergeSort_perm (variants.map fun v => (Text.camelCase v.name, v))
      fun a b => a.1 ≤ b.1).map (·.1)
    apply hfirst.symm.nodup
    rwa [List.map_map]

/-- The pallets that are left out have no effect on the others. -/
theorem describe_describedCalls (l : Lookup) (pallets : List Pallet) (s : Session) :
    (describe l pallets s).1 =
        (s.mapEach (describePallet l) (describedCalls l pallets)).1.flatten ∧
      (describe l pallets s).2.registry =
        (s.mapEach (describePallet l) (describedCalls l pallets)).2.registry :=
  mapEach_filter (fun _ => describePallet_agree (fun _ => rfl) rfl) (describePallet_skip l) rfl
    (callPallets pallets)

/-! ## Metadata in another order -/

/-- Pallets and types that are the same but for their order.  No two pallets whose calls are
described have the same name, and no two calls of such a pallet are shown by the same name. -/
structure Reordered (l l' : Lookup) (pallets pallets' : List Pallet) : Prop where
  described : (describedPallets l pallets).Perm (describedPallets l' pallets')
  palletNames : ((describedPallets l pallets).map (·.name)).Nodup
  info : ∀ id, l.info id = l'.info id
  variants : ∀ p ∈ describedPallets l pallets, ∀ id ∈ p.calls, ∀ variants ∈ l.variants id,
    ∀ variants' ∈ l'.variants id, variants.Perm variants'
  callNames : ∀ p ∈ describedPallets l pallets, ∀ id ∈ p.calls, ∀ variants ∈ l.variants id,
    (variants.map fun v => Text.camelCase v.name).Nodup

namespace Reordered

variable {l l' : Lookup} {pallets pallets' : List Pallet}

/-- The calls of every pallet stay the same. -/
theorem namedCalls (h : Reordered l l' pallets pallets') {pallet : Pallet × UInt32}
    (hmem : pallet ∈ describedCalls l pallets) :
    (l.variants pallet.2).map Metadata.namedCalls =
      (l'.variants pallet.2).map Metadata.namedCalls := by
  rcases List.mem_filterMap.1 ((describedCalls_perm l pallets).mem_iff.1 hmem) with
    ⟨p, hp, hpallet⟩
  rcases Option.map_eq_some_iff.1 hpallet with ⟨id, hid, rfl⟩
  -- the pallet is described on the other side too, so both lookups tell its variants
  have hmem' : (p, id) ∈ describedCalls l' pallets' :=
    describedCalls_eq h.described h.palletNames ▸ hmem
  rcases Option.isSome_iff_exists.1 (List.mem_filter.1 hmem).2 with ⟨variants, hvariants⟩
  rcases Option.isSome_iff_exists.1 (List.mem_filter.1 hmem').2 with ⟨variants', hvariants'⟩
  have hperm := h.variants p hp id hid variants hvariants variants' hvariants'
  rw [hvariants, hvariants', Option.map_some, Option.map_some,
    namedCalls_eq hperm (h.callNames p hp id hid variants hvariants)]

/-- Metadata in another order are described the same. -/
theorem describe (h : Reordered l l' pallets pallets') {s s' : Session}
    (hregistry : s.registry = s'.registry) :
    (Metadata.describe l pallets s).1 = (Metadata.describe l' pallets' s').1 ∧
      (Metadata.describe l pallets s).2.registry =
        (Metadata.describe l' pallets' s').2.registry := by
  have hagree : Agree (fun s => s.mapEach (describePallet l))
      (fun s => s.mapEach (describePallet l')) (describedCalls l pallets) :=
    Lockstep.mapEach fun pallet hpallet => describePallet_agree h.info (h.namedCalls hpallet)
  rcases describe_describedCalls l pallets s with ⟨hentries, hlast⟩
  rcases describe_describedCalls l' pallets' s' with ⟨hentries', hlast'⟩
  rcases hagree s s' hregistry with ⟨hcalls, hend⟩
  rw [← describedCalls_eq h.described h.palletNames] at hentries' hlast'
  constructor
  · rw [hentries, hentries']
    exact congrArg List.flatten hcalls
  · rw [hlast, hlast']
    exact hend

end Reordered
end Metadata

/-! ## Documents -/

namespace Document

theorem generate_reordered (definitions : Rpc.Definitions) {pallets pallets' : List Metadata.Pallet}
    {lookup lookup' : Metadata.Lookup}
    (h : Metadata.Reordered lookup lookup' pallets pallets') :
    (generate definitions pallets lookup).1 = (generate definitions pallets' lookup').1 := by
  rcases h.describe (s := (Rpc.describe definitions .omitted (.ofRegistry .builtin)).2) rfl with
    ⟨hextrinsics, hschemas⟩
  change ofParts _ _ _ = ofParts _ _ _
  exact congr (congrArg (ofParts _) hschemas) hextrinsics

/-- The order of the input does not matter.  An object of sections without repeated keys is decoded
to the same definitions in any order of its members.  And the same definitions, with the same
pallets, calls and types in any order, make the same document with the same texts. -/
theorem generate_perm :
    (∀ (members members' : List (String × Json)) (definitions : Rpc.Definitions),
      members.Perm members' → (Entries.keys members).Nodup →
      Rpc.Definitions.decoder.ofJson (.object members) = .ok definitions →
        Rpc.Definitions.decoder.ofJson (.object members') = .ok definitions) ∧
    ∀ (definitions definitions' : Rpc.Definitions) (pallets pallets' : List Metadata.Pallet)
      (lookup lookup' : Metadata.Lookup),
      (∀ key, definitions.get? key = definitions'.get? key) →
      Metadata.Reordered lookup lookup' pallets pallets' →
        let d := (generate definitions pallets lookup).1
        let d' := (generate definitions' pallets' lookup').1
        d.methods = d'.methods ∧ d.extrinsics = d'.extrinsics ∧ d.schemas = d'.schemas ∧
          ∀ layout, d.toText layout = d'.toText layout := by
  constructor
  · intro members members' definitions hperm hnodup hdecoded
    exact Rpc.Definitions.ofJson_perm hperm hnodup hdecoded
  · intro definitions definitions' pallets pallets' lookup lookup' hdefinitions hmetadata d d'
    have heq : definitions = definitions' := Table.ext_get? hdefinitions
    subst heq
    have hsame : d = d' := generate_reordered definitions hmetadata
    rw [hsame]
    exact ⟨rfl, rfl, rfl, fun _ => rfl⟩

/-- Two pallets that share a list type, given in two orders with the calls of one of them in two
orders, and each time with another pallet that has nothing to describe. -/
theorem generate_perm_swapped :
    let members : List (String × Json) := [("state", .object []), ("chain", .object [])]
    let sections : Rpc.Definitions := .ofList [("state", ⟨[]⟩), ("chain", ⟨[]⟩)]
    let sections' : Rpc.Definitions := .ofList [("chain", ⟨[]⟩), ("state", ⟨[]⟩)]
    let remark : Metadata.Variant := ⟨"remark", [], [⟨some "remark", 7, some "Vec<u8>"⟩]⟩
    let setCode : Metadata.Variant := ⟨"set_code", [], [⟨some "code", 7, some "Vec<u8>"⟩]⟩
    let transfer : Metadata.Variant := ⟨"transfer", [], [⟨some "memo", 7, some "Vec<u8>"⟩]⟩
    let lookup (system : List Metadata.Variant) : Metadata.Lookup :=
      ⟨fun _ => none,
        fun id => if id = 0 then some system else if id = 1 then some [transfer] else none⟩
    let pallets : List Metadata.Pallet := [⟨"System", some 0⟩, ⟨"Aura", none⟩, ⟨"Balances", some 1⟩]
    let pallets' : List Metadata.Pallet :=
      [⟨"Balances", some 1⟩, ⟨"Utility", some 2⟩, ⟨"System", some 0⟩]
    let d := (generate sections pallets (lookup [remark, setCode])).1
    let d' := (generate sections' pallets' (lookup [setCode, remark])).1
    Rpc.Definitions.decoder.ofJson (.object members) = .ok sections ∧
      Rpc.Definitions.decoder.ofJson (.object members.reverse) = .ok sections ∧
      d.methods = d'.methods ∧ d.extrinsics = d'.extrinsics ∧ d.schemas = d'.schemas ∧
        ∀ layout, d.toText layout = d'.toText layout := by
  intro members sections sections' remark setCode transfer lookup pallets pallets' d d'
  have hdecoded : Rpc.Definitions.decoder.ofJson (.object members) = .ok sections := by
    rfl
  have hsections : ∀ key, sections.get? key = sections'.get? key := by
    have heq : sections = sections' := by decide +kernel
    intro key
    rw [heq]
  have hdescribed : Metadata.describedPallets (lookup [remark, setCode]) pallets =
      [⟨"System", some 0⟩, ⟨"Balances", some 1⟩] := by decide +kernel
  have hdescribed' : Metadata.describedPallets (lookup [setCode, remark]) pallets' =
      [⟨"Balances", some 1⟩, ⟨"System", some 0⟩] := by decide +kernel
  have hvariants : ∀ system, (lookup system).variants 0 = some system ∧
      (lookup system).variants 1 = some [transfer] := fun _ => ⟨rfl, rfl⟩
  have hmetadata : Metadata.Reordered (lookup [remark, setCode]) (lookup [setCode, remark])
      pallets pallets' := by
    constructor
    · rw [hdescribed, hdescribed']
      exact .swap _ _ _
    · rw [hdescribed]
      decide
    · exact fun _ => rfl
    · rw [hdescribed]
      simp only [List.forall_mem_cons, Option.mem_def, Option.some.injEq, forall_eq', hvariants]
      exact ⟨.swap _ _ _, .refl _, by simp⟩
    · rw [hdescribed]
      simp only [List.forall_mem_cons, Option.mem_def, Option.some.injEq, forall_eq', hvariants]
      exact ⟨by decide +kernel, by decide +kernel, by simp⟩
  refine ⟨hdecoded, ?_, ?_⟩
  · exact generate_perm.1 members _ sections (List.reverse_perm members).symm
      (by decide +kernel) hdecoded
  · exact generate_perm.2 _ _ pallets pallets' _ _ hsections hmetadata

end Document
end NodeApi
