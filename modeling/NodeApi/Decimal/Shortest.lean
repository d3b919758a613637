/-!
# Shortest decimals

A binary floating point number stands for all reals that round to it.  The shortest decimal among
those reals is found grid by grid: for one digit, then two, and so on, the two points of the grid
around the number are tried, and of two hits the nearer one is taken.

Main results:

- Theorem `inside_nearestInside`: a point that a grid yields rounds to the number.
- Theorem `search_spec`: the search ends on the coarsest grid that has such a point.
-/

namespace NodeApi

/-- The number `digits * 10 ^ exponent`. -/
structure Decimal where
  digits : Nat
  exponent : Int
deriving DecidableEq

namespace Decimal

/-- The number `significand * 2 ^ exponent`, together with the reals that round to it. -/
structure Binary where
  significand : Nat
  exponent : Int
  /-- At a power of two the next smaller number is only half as far away as the next larger. -/
  narrowBelow : Bool
deriving DecidableEq

/-- The leading bit of a significand, which is not stored. -/
def leadingBit : Nat :=
  0x10000000000000

/-- The magnitude of a finite floating point number. -/
def Binary.ofFloat (x : Float) : Binary :=
  let bits : Nat := x.toBits.toNat
  let fraction : Nat := bits % leadingBit
  let biased : Nat := bits / leadingBit % 0x800
  if biased = 0 then ⟨fraction, -1074, false⟩
  else ⟨fraction + leadingBit, (biased : Int) - 1075, fraction = 0 && biased != 1⟩

namespace Binary

/-- The quarters of the last place in the number. -/
def middle (b : Binary) : Nat :=
  4 * b.significand

/-- The lower end of the reals that round to the number, in quarters of the last place. -/
def low (b : Binary) : Nat :=
  b.middle - if b.narrowBelow then 1 else 2

/-- The upper end of the reals that round to the number, in quarters of the last place. -/
def high (b : Binary) : Nat :=
  b.middle + 2

/-- A quarter of the last place in steps of `10 ^ k`, as a fraction. -/
def quarter (b : Binary) (k : Int) : Nat × Nat :=
  let e := b.exponent - 2
  (Nat.pow 2 e.toNat * Nat.pow 10 (-k).toNat, Nat.pow 2 (-e).toNat * Nat.pow 10 k.toNat)

/-- Whether `d * 10 ^ k` rounds to the number; the ends do so if the significand is even. -/
def inside (b : Binary) (k : Int) (d : Nat) : Bool :=
  let (num, den) := b.quarter k
  if b.significand % 2 = 0 then b.low * num ≤ d * den && d * den ≤ b.high * num
  else b.low * num < d * den && d * den < b.high * num

/-- The point of the grid of steps `10 ^ k` nearest to the number, if a point next to the number
rounds to it.  Halfway between two points the even one is nearer. -/
def nearestInside (b : Binary) (k : Int) : Option Nat :=
  let (num, den) := b.quarter k
  let below := b.middle * num / den
  let above := below + 1
  match b.inside k below, b.inside k above with
  | false, false => none
  | true, false => some below
  | false, true => some above
  | true, true =>
    let twice := 2 * (b.middle * num)
    let halfway := (below + above) * den
    if twice < halfway then some below
    else if halfway < twice then some above
    else if below % 2 = 0 then some below else some above

/-- The largest `k` with `10 ^ k` at most the number. -/
def leadingExponent (b : Binary) : Int :=
  let num := b.significand * Nat.pow 2 b.exponent.toNat
  let den := Nat.pow 2 (-b.exponent).toNat
  if den ≤ num then (Nat.toDigits 10 (num / den)).length - 1
  else -(Nat.toDigits 10 (den / num)).length

/-- The first point found on the grids from `10 ^ k` on, each ten times finer than the one
before. -/
def search (b : Binary) : Nat → Int → Decimal
  | 0, k => ⟨(b.nearestInside k).getD 0, k⟩
  | steps + 1, k =>
    match b.nearestInside k with
    | some d => ⟨d, k⟩
    | none => search b steps (k - 1)

/-- The shortest decimal that rounds to the number.  Seventeen digits always suffice. -/
def shortest (b : Binary) : Decimal :=
  b.search 17 b.leadingExponent

/-- A point that a grid yields rounds to the number. -/
theorem inside_nearestInside {b : Binary} {k : Int} {d : Nat} (h : b.nearestInside k = some d) :
    b.inside k d = true := by
  simp only [nearestInside] at h
  split at h
  · cases h
  · rename_i hbelow _
    exact Option.some.inj h ▸ hbelow
  · rename_i _ habove
    exact Option.some.inj h ▸ habove
  · rename_i hbelow habove
    split at h
    · exact Option.some.inj h ▸ hbelow
    · split at h
      · exact Option.some.inj h ▸ habove
      · split at h
        · exact Option.some.inj h ▸ hbelow
        · exact Option.some.inj h ▸ habove

/-- The search ends on the coarsest grid that has a point which rounds to the number, if it comes to
such a grid at all. -/
theorem search_spec {b : Binary} {steps : Nat} {k : Int}
    (h : ∃ j : Nat, j ≤ steps ∧ b.nearestInside (k - j) ≠ none) :
    ∃ j : Nat, (b.search steps k).exponent = k - j ∧
      b.inside (k - j) (b.search steps k).digits = true ∧
      ∀ i : Nat, i < j → b.nearestInside (k - i) = none := by
  induction steps generalizing k with
  | zero =>
    obtain ⟨j, hj, hne⟩ := h
    obtain rfl : j = 0 := Nat.le_zero.1 hj
    obtain ⟨d, hd⟩ := Option.ne_none_iff_exists'.1 hne
    rw [Int.natCast_zero, Int.sub_zero] at hd
    exact ⟨0, by simp [search], by simpa [search, hd] using inside_nearestInside hd, nofun⟩
  | succ steps ih =>
    cases hd : b.nearestInside k with
    | some d => exact ⟨0, by simp [search, hd], by simpa [search, hd] using inside_nearestInside hd,
        nofun⟩
    | none =>
      have hfiner (i : Nat) : k - 1 - (i : Int) = k - ((i + 1 : Nat) : Int) := by omega
      have hrest : ∃ j : Nat, j ≤ steps ∧ b.nearestInside (k - 1 - j) ≠ none := by
        obtain ⟨j, hj, hne⟩ := h
        cases j with
        | zero => exact absurd hd (by simpa using hne)
        | succ j => exact ⟨j, by omega, by rwa [hfiner]⟩
      obtain ⟨j, hexponent, hinside, hcoarser⟩ := ih hrest
      simp only [search, hd]
      refine ⟨j + 1, by omega, by rwa [← hfiner], fun i hi => ?_⟩
      cases i with
      | zero => simpa using hd
      | succ i => rw [← hfiner]; exact hcoarser i (by omega)

end Binary
end Decimal
end NodeApi
