import Mathlib.Data.List.Forall2

/-!
# Outcomes of decoding

What is decoded in several steps is there if every step has an outcome.  A list is decoded element
by element.

Main results:

- Theorem `bind_eq_ok_iff`: two steps have an outcome if the first and then the second one has.
- Theorem `mapM_cons_eq_ok_iff`: a list can be decoded if its head and its tail can.
- Theorem `mapM_perm`: the elements of a list are decoded to the same values in any order.
- Theorem `mapM_eq_ok_iff`: the elements of a list are decoded one by one.
-/

namespace NodeApi

/-! ## Steps -/

section
variable {ε α β : Type} {x : Except ε α} {y : β}

/-- Two steps have an outcome if the first and then the second one has. -/
theorem bind_eq_ok_iff {f : α → Except ε β} :
    x >>= f = .ok y ↔ ∃ a, x = .ok a ∧ f a = .ok y := by
  cases x with
  | error e => simp [bind, Except.bind]
  | ok a => simp [bind, Except.bind]

theorem map_eq_ok_iff {f : α → β} : x.map f = .ok y ↔ ∃ a, x = .ok a ∧ f a = y := by
  cases x with
  | error e => simp [Except.map]
  | ok a => simp [Except.map]

end

/-! ## Lists of decoded values -/

section
variable {ε α β : Type} {f : α → Except ε β}

theorem mapM_cons_eq_ok_iff {x : α} {xs : List α} {ys : List β} :
    (x :: xs).mapM f = .ok ys ↔
      ∃ y rest, f x = .ok y ∧ xs.mapM f = .ok rest ∧ ys = y :: rest := by
  rw [List.mapM_cons, bind_eq_ok_iff]
  constructor
  · rintro ⟨y, hy, htail⟩
    rcases bind_eq_ok_iff.1 htail with ⟨rest, hrest, heq⟩
    exact ⟨y, rest, hy, hrest, (Except.ok.inj heq).symm⟩
  · rintro ⟨y, rest, hy, hrest, rfl⟩
    exact ⟨y, hy, bind_eq_ok_iff.2 ⟨rest, hrest, rfl⟩⟩

/-- The elements of a list are decoded to the same values in any order. -/
theorem mapM_perm {xs xs' : List α} (hperm : xs.Perm xs') {ys : List β}
    (h : xs.mapM f = .ok ys) : ∃ ys', xs'.mapM f = .ok ys' ∧ ys.Perm ys' := by
  induction hperm generalizing ys with
  | nil => exact ⟨ys, h, .refl ys⟩
  | cons x _ ih =>
    rcases mapM_cons_eq_ok_iff.1 h with ⟨y, rest, hy, hrest, rfl⟩
    rcases ih hrest with ⟨rest', hrest', hperm⟩
    exact ⟨y :: rest', mapM_cons_eq_ok_iff.2 ⟨y, rest', hy, hrest', rfl⟩, hperm.cons y⟩
  | swap a b xs =>
    rcases mapM_cons_eq_ok_iff.1 h with ⟨y, _, hy, htail, rfl⟩
    rcases mapM_cons_eq_ok_iff.1 htail with ⟨z, rest, hz, hrest, rfl⟩
    have htail' := mapM_cons_eq_ok_iff.2 ⟨y, rest, hy, hrest, rfl⟩
    exact ⟨z :: y :: rest, mapM_cons_eq_ok_iff.2 ⟨z, _, hz, htail', rfl⟩, .swap z y rest⟩
  | trans _ _ ih ih' =>
    rcases ih h with ⟨ys', hys', hperm⟩
    rcases ih' hys' with ⟨ys'', hys'', hperm'⟩
    exact ⟨ys'', hys'', hperm.trans hperm'⟩

/-- The elements of a list are decoded one by one. -/
theorem mapM_eq_ok_iff {xs : List α} {ys : List β} :
    xs.mapM f = .ok ys ↔ List.Forall₂ (fun x y => f x = .ok y) xs ys := by
  induction xs generalizing ys with
  | nil =>
    rw [List.mapM_nil, List.forall₂_nil_left_iff]
    exact ⟨fun h => (Except.ok.inj h).symm, fun h => h ▸ rfl⟩
  | cons x xs ih =>
    rw [mapM_cons_eq_ok_iff, List.forall₂_cons_left_iff]
    constructor
    · rintro ⟨y, rest, hy, hrest, rfl⟩
      exact ⟨y, rest, hy, ih.1 hrest, rfl⟩
    · rintro ⟨y, rest, hy, hrest, rfl⟩
      exact ⟨y, rest, hy, ih.2 hrest, rfl⟩

/-- What every element keeps when it is decoded, the list keeps. -/
theorem map_of_mapM {γ : Type} {g : α → γ} {g' : β → γ} (hf : ∀ x y, f x = .ok y → g' y = g x)
    {xs : List α} {ys : List β} (h : xs.mapM f = .ok ys) : ys.map g' = xs.map g := by
  induction xs generalizing ys with
  | nil =>
    rw [List.mapM_nil] at h
    rw [← Except.ok.inj h]
    rfl
  | cons x xs ih =>
    rcases mapM_cons_eq_ok_iff.1 h with ⟨y, rest, hy, hrest, rfl⟩
    rw [List.map_cons, List.map_cons, hf x y hy, ih hrest]

end

end NodeApi
