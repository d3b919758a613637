import NodeApi.Schema.Resolution

/-!
# Type names that need no value

Some type names say of themselves that a value of the type need not be given: options, compact forms
and lists of compact forms.  No other names do, and nothing that is registered changes this.

Main results:

- Theorem `wrap_inj`: a wrapper and what is inside of it can be read off the name.
- Theorem `strips_iff`: what is left of a name without a wrapper, by its text.
- Theorem `describe_required`: a new name is required unless it says that it is not.
-/

namespace NodeApi
namespace TypeName

/-- A wrapper and what is inside of it can be read off the name. -/
theorem wrap_inj {wrapper wrapper' : Wrapper} {inner inner' : String} :
    wrap wrapper.name inner = wrap wrapper'.name inner' ↔ wrapper = wrapper' ∧ inner = inner' := by
  constructor
  · intro h
    have hchars := congrArg String.toList h
    -- no two wrappers begin with the same letter
    cases wrapper <;> cases wrapper' <;> simp [wrap, Wrapper.name] at hchars <;>
      exact ⟨rfl, String.toList_inj.1 hchars⟩
  · rintro ⟨rfl, rfl⟩
    rfl

/-- A wrapper is taken off a name exactly if it stands around something. -/
theorem peel_fst_iff {wrapper : Wrapper} {name : String} :
    (peel wrapper name).1 = true ↔ ∃ inner, inner ≠ "" ∧ name = wrap wrapper.name inner := by
  simp only [← unwrap?_eq_some_iff]
  unfold peel
  cases unwrap? wrapper.name name <;> simp

/-- A name without the wrapper is left as it is. -/
theorem peel_snd_of_fst {wrapper : Wrapper} {name : String} (h : (peel wrapper name).1 = false) :
    (peel wrapper name).2 = name := by
  unfold peel at h ⊢
  cases hunwrap : unwrap? wrapper.name name with
  | none => rfl
  | some inner => simp [hunwrap] at h

/-- A name with one wrapper taken off, if the wrapper stands around something. -/
def Strips (wrapper : Wrapper) (name rest : String) : Prop :=
  (rest ≠ "" ∧ name = wrap wrapper.name rest) ∨
    ((∀ inner, inner ≠ "" → name ≠ wrap wrapper.name inner) ∧ rest = name)

/-- To peel a name is to take the wrapper off. -/
theorem strips_iff {wrapper : Wrapper} {name rest : String} :
    Strips wrapper name rest ↔ rest = (peel wrapper name).2 := by
  unfold Strips peel
  cases hunwrap : unwrap? wrapper.name name with
  | none =>
    have hbare : ∀ inner, inner ≠ "" → name ≠ wrap wrapper.name inner := by
      intro inner hinner heq
      rw [unwrap?_eq_some_iff.2 ⟨hinner, heq⟩] at hunwrap
      cases hunwrap
    constructor
    · rintro (⟨hrest, heq⟩ | ⟨_, hrest⟩)
      · exact absurd heq (hbare rest hrest)
      · exact hrest
    · exact fun hrest => .inr ⟨hbare, hrest⟩
  | some inner =>
    rcases unwrap?_eq_some_iff.1 hunwrap with ⟨hinner, heq⟩
    constructor
    · rintro (⟨_, heq'⟩ | ⟨hbare, _⟩)
      · exact (wrap_inj.1 (heq'.symm.trans heq)).2
      · exact absurd heq (hbare inner hinner)
    · rintro rfl
      exact .inl ⟨hinner, heq⟩

/-- A name that says of itself that no value need be given: an option, a compact form, or a list of
compact forms. -/
def SaysOptional (name : String) : Prop :=
  ∃ inner, inner ≠ "" ∧ (name = wrap Wrapper.option.name inner ∨
    name = wrap Wrapper.compact.name inner ∨
    name = wrap Wrapper.vec.name (wrap Wrapper.compact.name inner))

theorem saysOptional_of_peel {name : String} (h : (peel .option name).1 = true) :
    SaysOptional name := by
  rcases peel_fst_iff.1 h with ⟨inner, hinner, heq⟩
  exact ⟨inner, hinner, Or.inl heq⟩

/-- A list is optional if it is an option or its items are compact forms. -/
theorem saysOptional_list_iff {name element : String}
    (h : unwrap? Wrapper.vec.name (peel .option name).2 = some element) :
    SaysOptional name ↔ (peel .option name).1 = true ∨ (peel .compact element).1 = true := by
  cases hoption : (peel .option name).1 with
  | true => simp [saysOptional_of_peel hoption]
  | false =>
    rw [peel_snd_of_fst hoption] at h
    rcases unwrap?_eq_some_iff.1 h with ⟨_, rfl⟩
    simp [SaysOptional, wrap_inj, peel_fst_iff]

/-- What is no list is optional if it is an option or a compact form. -/
theorem saysOptional_iff {name : String}
    (h : unwrap? Wrapper.vec.name (peel .option name).2 = none) :
    SaysOptional name ↔
      (peel .option name).1 = true ∨ (peel .compact (peel .option name).2).1 = true := by
  cases hoption : (peel .option name).1 with
  | true => simp [saysOptional_of_peel hoption]
  | false =>
    rw [peel_snd_of_fst hoption] at h ⊢
    simp only [Bool.false_eq_true, false_or]
    constructor
    · rintro ⟨inner, hinner, rfl | hcompact | rfl⟩
      · rw [peel_fst_iff.2 ⟨inner, hinner, rfl⟩] at hoption
        simp at hoption
      · exact peel_fst_iff.2 ⟨inner, hinner, hcompact⟩
      · rw [unwrap?_eq_some_iff.2 ⟨by simp [wrap], rfl⟩] at h
        simp at h
    · intro hcompact
      rcases peel_fst_iff.1 hcompact with ⟨inner, hinner, heq⟩
      exact ⟨inner, hinner, Or.inr (Or.inl heq)⟩

end TypeName

namespace Registry

open NodeApi.TypeName

variable (r : Registry) (site : Site) (name : String)

theorem describe_required_list {element : String}
    (h : unwrap? Wrapper.vec.name (peel .option name).2 = some element) :
    (r.describe site name).1.required = !((peel .option name).1 || (peel .compact element).1) := by
  unfold describe
  dsimp only
  rw [h]

theorem describe_required_other
    (h : unwrap? Wrapper.vec.name (peel .option name).2 = none) :
    (r.describe site name).1.required =
      !((peel .option name).1 || (peel .compact (peel .option name).2).1) := by
  unfold describe
  dsimp only
  rw [h]
  dsimp only
  split <;> rfl

/-- A new name is required unless it says of itself that it is not. -/
theorem describe_required : (r.describe site name).1.required = false ↔ SaysOptional name := by
  cases hvec : unwrap? Wrapper.vec.name (peel .option name).2 with
  | some element =>
    rw [r.describe_required_list site name hvec, saysOptional_list_iff hvec, Bool.not_eq_false',
      Bool.or_eq_true]
  | none =>
    rw [r.describe_required_other site name hvec, saysOptional_iff hvec, Bool.not_eq_false',
      Bool.or_eq_true]

/-- Neither what is registered nor where the name stands has a say in whether a new name is
required. -/
theorem describe_required_congr (r' : Registry) (site' : Site) :
    (r.describe site name).1.required = (r'.describe site' name).1.required := by
  have hsays := (r.describe_required site name).trans (r'.describe_required site' name).symm
  exact Bool.eq_iff_iff.2 (by simpa only [Bool.not_eq_false] using not_congr hsays)

end Registry
end NodeApi
