import NodeApi.Proofs.Json.RoundTrip

/-!
# Values that are read

Whatever text a value is read off, it nests no deeper than the reader allows, none of its objects
has a key twice, and its integers have 64 bits.  So it is read back when it is printed, unless there
is a floating point number in it.

Main results:

- Theorem `fits_of_readNumber`: an integer that is read has 64 bits.
- Theorem `readValue_induction`: what holds of containers if it holds of all that is in them holds
  of every value that is read.
- Theorems `depth_le_of_read` and `distinctKeys_of_read`: a value that is read is not too deep to be
  read, and no object of it has a key twice.
- Theorem `exact_of_read`: it has the form that is read back, if its numbers are integers.
-/

namespace NodeApi
namespace Json

/-! ## Integers -/

theorem absorb_fst_le {limit total : Nat} (digits : List Char) (h : total ≤ limit) :
    (absorb limit total digits).1 ≤ limit := by
  induction digits generalizing total with
  | nil => exact h
  | cons digit rest ih =>
    rw [absorb]
    split
    · rename_i hnext
      exact ih hnext
    · exact h

/-- A significand of 64 bits gives an integer that can be kept, if it gives an integer at all. -/
theorem Numeral.fits_of_plainValue {n : Numeral} {significand : Nat} {value : Int}
    (hle : significand ≤ maxSignificand) (h : n.plainValue significand = .integer value) :
    Number.Fits value := by
  unfold maxSignificand at hle
  unfold plainValue at h
  split at h
  · cases h
    exact Number.fits_ofNatural (by omega)
  · split at h
    · cases h
    · cases h
      unfold Number.Fits
      omega

theorem Numeral.signed_ne_integer (n : Numeral) (x : Float) (value : Int) :
    n.signed x ≠ .integer value := by
  unfold signed
  exact Number.noConfusion

/-- A numeral whose value is an integer has 64 bits. -/
theorem Numeral.fits_of_value {n : Numeral} {value : Int} (h : n.value = .ok (.integer value)) :
    Number.Fits value := by
  have hle : (absorb maxSignificand 0 n.whole).1 ≤ maxSignificand :=
    absorb_fst_le n.whole (Nat.zero_le _)
  -- behind a point or an exponent, or with too many digits, there is no integer
  have hsigned (x : Float) :
      (.ok (n.signed x) : Except (List Char) Number) ≠ .ok (.integer value) :=
    fun h => n.signed_ne_integer x value (Except.ok.inj h)
  unfold Numeral.value at h
  dsimp only at h
  split at h
  · exact fits_of_plainValue hle (Except.ok.inj h)
  split at h
  · split at h
    · exact absurd h (hsigned _)
    · cases h
  split at h
  · split at h
    · exact absurd h (hsigned _)
    · cases h
  split at h
  · cases h
  · exact absurd h (hsigned 0)

/-- An integer that is read has 64 bits. -/
theorem fits_of_readNumber {value : Int} {s rest : List Char}
    (h : readNumber s = .ok (.integer value, rest)) : Number.Fits value := by
  rcases bind_eq_ok_iff.1 h with ⟨⟨n, rest'⟩, _, hvalue⟩
  dsimp only at hvalue
  split at hvalue
  · rename_i hnumber
    cases hvalue
    exact Numeral.fits_of_value hnumber
  · cases hvalue

/-! ## Values -/

/-- What is read as no container is none. -/
theorem readScalar_cases {j : Json} {s rest : List Char} (h : readScalar s = .ok (j, rest)) :
    j = .null ∨ (∃ value, j = .bool value) ∨ (∃ value, j = .string value) ∨
      ∃ value, j = .number value ∧ readNumber s = .ok (value, rest) := by
  cases s with
  | nil => cases h
  | cons c s =>
    rw [readScalar] at h
    split at h
    · exact .inl ((readKeyword_eq_ok_iff.1 h).1)
    split at h
    · exact .inr (.inl ⟨true, (readKeyword_eq_ok_iff.1 h).1⟩)
    split at h
    · exact .inr (.inl ⟨false, (readKeyword_eq_ok_iff.1 h).1⟩)
    split at h
    · rcases map_eq_ok_iff.1 h with ⟨⟨value, _⟩, _, heq⟩
      cases heq
      exact .inr (.inr (.inl ⟨value, rfl⟩))
    split at h
    · rcases map_eq_ok_iff.1 h with ⟨⟨value, _⟩, hread, heq⟩
      cases heq
      exact .inr (.inr (.inr ⟨value, rfl, hread⟩))
    · cases h

/-- A value is read as no container, as a list or as an object. -/
theorem readValue_cases {n : Nat} {j : Json} {s rest : List Char}
    (h : readValue n s = .ok (j, rest)) :
    (∃ s, readScalar s = .ok (j, rest)) ∨
      ∃ inner s, n = inner + 1 ∧
        ((∃ elements, readElements (readValue inner) s = .ok (elements, rest) ∧
          j = .array elements) ∨
        ∃ members, readMembers (readMember (readValue inner)) s = .ok (members, rest) ∧
          j = .ofMembers members) := by
  rw [readValue] at h
  split at h
  · cases h
  · rename_i c s _
    split at h
    · split at h
      · cases h
      · rename_i inner
        rcases map_eq_ok_iff.1 h with ⟨⟨elements, _⟩, hread, heq⟩
        cases heq
        exact .inr ⟨inner, s, rfl, .inl ⟨elements, hread, rfl⟩⟩
    split at h
    · split at h
      · cases h
      · rename_i inner
        rcases map_eq_ok_iff.1 h with ⟨⟨members, _⟩, hread, heq⟩
        cases heq
        exact .inr ⟨inner, s, rfl, .inr ⟨members, hread, rfl⟩⟩
    · exact .inl ⟨c :: s, h⟩

/-- What holds of a container if it holds, one level further in, of all that is in it holds of every
value that is read. -/
theorem readValue_induction {P : Nat → Json → Prop}
    (scalar : ∀ n j s rest, readScalar s = .ok (j, rest) → P n j)
    (array : ∀ n elements, (∀ element ∈ elements, P n element) → P (n + 1) (.array elements))
    (object : ∀ n members, (∀ member ∈ members, P n member.2) → P (n + 1) (.ofMembers members))
    {n : Nat} {j : Json} {s rest : List Char} (h : readValue n s = .ok (j, rest)) : P n j := by
  induction n generalizing j s rest with
  | zero =>
    rcases readValue_cases h with ⟨s, hscalar⟩ | ⟨inner, _, hzero, _⟩
    · exact scalar 0 j s rest hscalar
    · omega
  | succ n ih =>
    rcases readValue_cases h with ⟨s, hscalar⟩ | ⟨inner, s, hsucc, hcontainer⟩
    · exact scalar (n + 1) j s rest hscalar
    · obtain rfl : n = inner := by omega
      rcases hcontainer with ⟨elements, hread, rfl⟩ | ⟨members, hread, rfl⟩
      · exact array n elements (readElements_forall ih hread)
      · exact object n members (readMembers_forall ih hread)

/-- A value that is read is not deeper than the reader allows. -/
theorem depth_le_of_readValue {n : Nat} {j : Json} {s rest : List Char}
    (h : readValue n s = .ok (j, rest)) : j.depth ≤ n := by
  refine readValue_induction (P := fun n j => j.depth ≤ n) ?_ ?_ ?_ h
  · intro n j s rest hscalar
    rcases readScalar_cases hscalar with
      rfl | ⟨value, rfl⟩ | ⟨value, rfl⟩ | ⟨value, rfl, _⟩ <;> exact Nat.zero_le n
  · intro n elements hall
    exact depth_array_le_iff.2 hall
  · intro n members hall
    refine depth_object_le_iff.2 fun member hmember => ?_
    exact hall member (Entries.mem_of_mem_settle hmember)

/-- No object of a value that is read has a key twice. -/
theorem distinctKeys_of_readValue {n : Nat} {j : Json} {s rest : List Char}
    (h : readValue n s = .ok (j, rest)) : j.distinctKeys = true := by
  refine readValue_induction (P := fun _ j => j.distinctKeys = true) ?_ ?_ ?_ h
  · intro _ j s rest hscalar
    rcases readScalar_cases hscalar with
      rfl | ⟨value, rfl⟩ | ⟨value, rfl⟩ | ⟨value, rfl, _⟩ <;> rfl
  · intro _ elements hall
    exact (distinctKeysAll_iff elements).2 hall
  · intro _ members hall
    exact distinctKeys_ofMembers hall

/-! ## Values without floating point numbers -/

mutual

/-- Whether every number of the value is an integer. -/
def integral : Json → Bool
  | number (.float _) => false
  | array elements => integralAll elements
  | object members => integralMembers members
  | null | bool _ | number (.integer _) | string _ => true

/-- Whether every number of the elements is an integer. -/
def integralAll : List Json → Bool
  | [] => true
  | element :: rest => integral element && integralAll rest

/-- Whether every number of the member values is an integer. -/
def integralMembers : List (String × Json) → Bool
  | [] => true
  | (_, value) :: rest => integral value && integralMembers rest

end

theorem integral_array_iff {elements : List Json} :
    (array elements).integral = true ↔ ∀ element ∈ elements, element.integral = true := by
  rw [integral]
  induction elements with
  | nil => simp [integralAll]
  | cons element rest ih => rw [integralAll, Bool.and_eq_true, ih, List.forall_mem_cons]

theorem integral_object_iff {members : List (String × Json)} :
    (object members).integral = true ↔ ∀ member ∈ members, member.2.integral = true := by
  rw [integral]
  induction members with
  | nil => simp [integralMembers]
  | cons member rest ih => rw [integralMembers, Bool.and_eq_true, ih, List.forall_mem_cons]

/-- A value that is read has the form that is read back, if its numbers are integers. -/
theorem exact_of_readValue {n : Nat} {j : Json} {s rest : List Char}
    (h : readValue n s = .ok (j, rest)) (hintegral : j.integral = true) : j.Exact := by
  refine readValue_induction (P := fun _ j => j.integral = true → j.Exact) ?_ ?_ ?_ h hintegral
  · intro _ j s rest hscalar hj
    rcases readScalar_cases hscalar with rfl | ⟨value, rfl⟩ | ⟨value, rfl⟩ | ⟨value, rfl, hread⟩
    · exact .null
    · exact .bool value
    · exact .string value
    · cases value with
      | integer value => exact .integer (fits_of_readNumber hread)
      | float value => cases hj
  · intro _ elements hall hj
    exact .array fun element helement =>
      hall element helement (integral_array_iff.1 hj element helement)
  · intro _ members hall hj
    refine .object (Entries.nodup_keys_settle members) fun member hmember => ?_
    exact hall member (Entries.mem_of_mem_settle hmember) (integral_object_iff.1 hj member hmember)

/-! ## Texts -/

theorem depth_le_of_read {text : String} {j : Json} (h : read text = .ok j) :
    j.depth ≤ maxDepth := by
  rcases readAll_eq_ok_iff.1 h with ⟨rest, hread, _⟩
  exact depth_le_of_readValue hread

theorem distinctKeys_of_read {text : String} {j : Json} (h : read text = .ok j) :
    j.distinctKeys = true := by
  rcases readAll_eq_ok_iff.1 h with ⟨rest, hread, _⟩
  exact distinctKeys_of_readValue hread

theorem exact_of_read {text : String} {j : Json} (h : read text = .ok j)
    (hintegral : j.integral = true) : j.Exact := by
  rcases readAll_eq_ok_iff.1 h with ⟨rest, hread, _⟩
  exact exact_of_readValue hread hintegral

end Json
end NodeApi
