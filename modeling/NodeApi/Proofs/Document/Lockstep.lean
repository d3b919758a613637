import NodeApi.Proofs.Document.Run

/-!
# Two runs in lockstep

Two runs describe the same calls, each with a registry of its own.  If the registries give every
field the same meaning, and are related in the same way afterwards, then the calls come out the same.
How the registries are related is left open: they may be equal, or equal where it matters.

Main results:

- Theorem `Lockstep.mapEach`: runs that keep in step on all elements of a list do so on the list.
- Theorem `Metadata.describe_lockstep`: runs that keep in step on all fields describe the same calls.
-/

namespace NodeApi

variable {R : Registry → Registry → Prop}

/-- Two descriptions keep in step on an element: in runs with related registries they do the same
with it, and leave related registries behind. -/
def Lockstep {α β : Type} (R : Registry → Registry → Prop) (f f' : Session → α → β × Session)
    (x : α) : Prop :=
  ∀ s s' : Session, R s.registry s'.registry →
    (f s x).1 = (f' s' x).1 ∧ R (f s x).2.registry (f' s' x).2.registry

/-- Runs that keep in step on all elements of a list do so on the list. -/
theorem Lockstep.mapEach {α β : Type} {f f' : Session → α → β × Session} {xs : List α}
    (h : ∀ x ∈ xs, Lockstep R f f' x) :
    Lockstep R (fun s => s.mapEach f) (fun s => s.mapEach f') xs := by
  induction xs with
  | nil =>
    intro s s' hrelated
    exact ⟨rfl, hrelated⟩
  | cons x xs ih =>
    intro s s' hrelated
    rcases h x List.mem_cons_self s s' hrelated with ⟨hhead, hnext⟩
    rcases ih (fun y hy => h y (List.mem_cons_of_mem x hy)) _ _ hnext with ⟨htail, hlast⟩
    simp only [Session.mapEach_cons]
    exact ⟨by rw [hhead, htail], hlast⟩

/-- Related registries give a name the same meaning, and are related after it has been resolved. -/
def ResolvesAlike (R : Registry → Registry → Prop) (site : Site) (name : String) : Prop :=
  ∀ r r' : Registry, R r r' →
    r.meaning site name = r'.meaning site name ∧ R (r.resolved site name) (r'.resolved site name)

/-- Equal registries resolve everything alike. -/
theorem resolvesAlike_eq (site : Site) (name : String) : ResolvesAlike Eq site name := by
  rintro r _ rfl
  exact ⟨rfl, rfl⟩

namespace Metadata

section
variable {l l' : Lookup} (hinfo : ∀ id, l.info id = l'.info id)
include hinfo

theorem typeName_congr (f : Field) : typeName l f = typeName l' f := by
  rw [typeName, typeName, hinfo]

/-- A field whose type is resolved alike is described the same. -/
theorem describeField_lockstep {field : Field × Nat}
    (h : ResolvesAlike R .call (declaredField l field).type) :
    Lockstep R (describeField l) (describeField l') field := by
  intro s s' hrelated
  simp only [describeField, ← typeName_congr hinfo, Session.resolve_fst, Session.resolve_registry,
    foldl_tell_registry]
  rcases h s.registry s'.registry hrelated with ⟨hmeaning, hnext⟩
  exact ⟨congrArg _ hmeaning, hnext⟩

theorem describeCall_lockstep (palletName : String) {call : String × Variant}
    (h : ∀ field ∈ declaredCall l call, ResolvesAlike R .call field.type) :
    Lockstep R (describeCall l palletName) (describeCall l' palletName) call := by
  intro s s' hrelated
  have hfields : ∀ field ∈ call.2.fields.zipIdx,
      Lockstep R (describeField l) (describeField l') field := fun field hfield =>
    describeField_lockstep hinfo (h _ (List.mem_map_of_mem hfield))
  rcases Lockstep.mapEach hfields s s' hrelated with ⟨hparams, hnext⟩
  exact ⟨by simp only [describeCall, hparams], hnext⟩

/-- Lookups that tell the same variants of a pallet, up to their order, describe the same calls if the
fields of these are resolved alike. -/
theorem describePallet_lockstep {pallet : Pallet × UInt32}
    (hcalls : (l.variants pallet.2).map namedCalls = (l'.variants pallet.2).map namedCalls)
    (h : ∀ field ∈ declaredPallet l pallet, ResolvesAlike R .call field.type) :
    Lockstep R (describePallet l) (describePallet l') pallet := by
  intro s s' hrelated
  unfold describePallet
  cases hvariants : l.variants pallet.2 with
  | none =>
    cases hvariants' : l'.variants pallet.2 with
    | none => exact ⟨rfl, hrelated⟩
    | some variants' => simp [hvariants, hvariants'] at hcalls
  | some variants =>
    cases hvariants' : l'.variants pallet.2 with
    | none => simp [hvariants, hvariants'] at hcalls
    | some variants' =>
      have hnamed : namedCalls variants = namedCalls variants' := by
        simpa [hvariants, hvariants'] using hcalls
      rw [declaredPallet, hvariants] at h
      dsimp only
      rw [← hnamed]
      refine Lockstep.mapEach (fun call hcall => ?_) _ _ hrelated
      exact describeCall_lockstep hinfo _ fun field hfield =>
        h field (List.mem_flatMap_of_mem hcall hfield)

end

/-- Runs that keep in step on all fields describe the same calls. -/
theorem describe_lockstep {l : Lookup} {pallets : List Pallet}
    (h : ∀ field ∈ declared l pallets, ResolvesAlike R .call field.type) :
    Lockstep R (fun s pallets => describe l pallets s) (fun s pallets => describe l pallets s)
      pallets := by
  intro s s' hrelated
  have hpallets : ∀ pallet ∈ callPallets pallets,
      Lockstep R (describePallet l) (describePallet l) pallet := fun pallet hpallet =>
    describePallet_lockstep (fun _ => rfl) rfl fun field hfield =>
      h field (List.mem_flatMap_of_mem hpallet hfield)
  rcases Lockstep.mapEach hpallets s s' hrelated with ⟨hblocks, hlast⟩
  exact ⟨congrArg List.flatten hblocks, hlast⟩

end Metadata
end NodeApi
