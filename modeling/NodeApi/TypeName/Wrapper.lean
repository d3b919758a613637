/-!
# Wrapped type names

A type name may wrap another one, as in `Option<u32>`.  Only the text counts: the wrapper's name,
an opening angle at once after it, and a closing angle at the very end.

Main results:

- Theorem `unwrap?_eq_some_iff`: a name is unwrapped to `inner` exactly when it is written as the
  wrapper around `inner`.
- Theorem `length_unwrap?`: what is inside is shorter.
-/

namespace NodeApi
namespace TypeName

/-- The wrappers that have a meaning of their own. -/
inductive Wrapper where
  | option
  | vec
  | compact
deriving DecidableEq

/-- The name of a wrapper, as it stands before the angle. -/
def Wrapper.name : Wrapper → String
  | option => "Option"
  | vec => "Vec"
  | compact => "Compact"

/-- The name wrapped around an inner one. -/
def wrap (wrapper inner : String) : String :=
  wrapper ++ "<" ++ inner ++ ">"

/-- The text behind an opening part. -/
def behind? : (opening text : List Char) → Option (List Char)
  | [], text => some text
  | _ :: _, [] => none
  | a :: opening, b :: text => if a = b then behind? opening text else none

/-- The text before a closing part. -/
def before? (closing text : List Char) : Option (List Char) :=
  (behind? closing.reverse text.reverse).map List.reverse

/-- The text between an opening and a closing part, neither of which may be missing. -/
def between? (opening closing text : List Char) : Option (List Char) := do
  before? closing (← behind? opening text)

/-- The name inside a wrapper, if it has one and is not empty. -/
def unwrap? (wrapper name : String) : Option String :=
  match between? (wrapper.toList ++ ['<']) ['>'] name.toList with
  | none => none
  | some [] => none
  | some inner => some (String.ofList inner)

theorem behind?_eq_some_iff {p s r : List Char} : behind? p s = some r ↔ s = p ++ r := by
  induction p generalizing s with
  | nil => simp [behind?]
  | cons a p ih =>
    cases s with
    | nil => simp [behind?]
    | cons b s =>
      by_cases h : a = b
      · simp [behind?, h, ih]
      · simp [behind?, h, Ne.symm h]

theorem before?_eq_some_iff {p s r : List Char} : before? p s = some r ↔ s = r ++ p := by
  simp only [before?, Option.map_eq_some_iff, behind?_eq_some_iff]
  constructor
  · rintro ⟨q, hq, rfl⟩
    simpa using congrArg List.reverse hq
  · rintro rfl
    exact ⟨r.reverse, by simp, by simp⟩

/-- The text between two parts is what has to be put between them to get the whole. -/
theorem between?_eq_some_iff {opening closing text inner : List Char} :
    between? opening closing text = some inner ↔ text = opening ++ inner ++ closing := by
  simp only [between?, Option.bind_eq_bind, Option.bind_eq_some_iff, behind?_eq_some_iff,
    before?_eq_some_iff]
  constructor
  · rintro ⟨rest, rfl, rfl⟩
    simp
  · rintro rfl
    exact ⟨inner ++ closing, by simp, rfl⟩

/-- Unwrapping undoes wrapping and accepts nothing else. -/
theorem unwrap?_eq_some_iff {wrapper name inner : String} :
    unwrap? wrapper name = some inner ↔ inner ≠ "" ∧ name = wrap wrapper inner := by
  have hname : ∀ cs : List Char, name.toList = wrapper.toList ++ ['<'] ++ cs ++ ['>'] ↔
      name = wrap wrapper (String.ofList cs) := fun cs => by
    rw [← String.toList_inj]
    simp [wrap]
  unfold unwrap?
  split
  · rename_i h
    simp only [reduceCtorEq, false_iff, not_and]
    rintro - rfl
    have hsome : between? (wrapper.toList ++ ['<']) ['>'] (wrap wrapper inner).toList =
        some inner.toList := between?_eq_some_iff.2 ((hname _).2 (by simp))
    simp [hsome] at h
  · rename_i h
    have heq := (hname _).1 (between?_eq_some_iff.1 h)
    simp only [reduceCtorEq, false_iff, not_and]
    intro hne hwrap
    rw [heq] at hwrap
    have := congrArg String.toList hwrap
    simp [wrap] at this
    exact hne this
  · rename_i cs hcs h
    have heq := (hname _).1 (between?_eq_some_iff.1 h)
    constructor
    · intro hinner
      obtain rfl := Option.some.inj hinner
      exact ⟨by simpa using hcs, heq⟩
    · rintro ⟨_, hwrap⟩
      rw [heq] at hwrap
      have := congrArg String.toList hwrap
      simp only [wrap, String.toList_append, String.toList_ofList] at this
      simp at this
      simp [this]

/-- What is inside a wrapper is shorter than the whole. -/
theorem length_unwrap? {wrapper name inner : String} (h : unwrap? wrapper name = some inner) :
    inner.length < name.length := by
  obtain ⟨_, rfl⟩ := unwrap?_eq_some_iff.1 h
  simp only [wrap, String.length_append]
  have : "<".length = 1 := rfl
  omega

end TypeName
end NodeApi
