/-!
# Sets of code points

A character class is given as a short list of spans.  A span with step two covers the stretches
of a script in which capital and small letters alternate.  The classes and case maps built on it
are those of Unicode 17.0.  The first of them is white space, which is taken from the ends of a
text.

Main results:

- Theorem `exists_eq_append_trim`: trimming takes white space from the two ends and nothing else.
- Theorems `not_isBlank_head_trim` and `not_isBlank_getLast_trim`: it leaves none there.
-/

namespace NodeApi
namespace Text

/-- Every `step`-th code point from `first` to `last`. -/
structure Span where
  first : Nat
  last : Nat
  step : Nat
deriving DecidableEq

/-- Whether a code point lies on the span. -/
def Span.contains (s : Span) (n : Nat) : Bool :=
  s.first ≤ n && n ≤ s.last && (n - s.first) % s.step == 0

/-- A set of code points, as the union of its spans. -/
structure CodePoints where
  spans : List Span

/-- Whether a character belongs to the set. -/
def CodePoints.contains (set : CodePoints) (c : Char) : Bool :=
  set.spans.any (·.contains c.toNat)

/-! ## White space -/

/-- The characters with the Unicode property `White_Space`. -/
def blanks : CodePoints where
  spans := [
    ⟨0x0009, 0x000D, 1⟩, ⟨0x0020, 0x0020, 1⟩, ⟨0x0085, 0x0085, 1⟩, ⟨0x00A0, 0x00A0, 1⟩,
    ⟨0x1680, 0x1680, 1⟩, ⟨0x2000, 0x200A, 1⟩, ⟨0x2028, 0x2029, 1⟩, ⟨0x202F, 0x202F, 1⟩,
    ⟨0x205F, 0x205F, 1⟩, ⟨0x3000, 0x3000, 1⟩]

/-- Whether a character is white space. -/
def isBlank (c : Char) : Bool :=
  blanks.contains c

/-- The text without the white space at its two ends. -/
def trim (cs : List Char) : List Char :=
  ((cs.dropWhile isBlank).reverse.dropWhile isBlank).reverse

theorem isBlank_of_mem_takeWhile {cs : List Char} {c : Char} (h : c ∈ cs.takeWhile isBlank) :
    isBlank c = true :=
  List.all_eq_true.1 List.all_takeWhile c h

/-- Trimming takes white space from the two ends and nothing else. -/
theorem exists_eq_append_trim (cs : List Char) :
    ∃ front back, cs = front ++ trim cs ++ back ∧
      (∀ c ∈ front, isBlank c = true) ∧ ∀ c ∈ back, isBlank c = true := by
  let rest := cs.dropWhile isBlank
  refine ⟨cs.takeWhile isBlank, (rest.reverse.takeWhile isBlank).reverse, ?_,
    fun c h => isBlank_of_mem_takeWhile h,
    fun c h => isBlank_of_mem_takeWhile (List.mem_reverse.1 h)⟩
  have hrest : trim cs ++ (rest.reverse.takeWhile isBlank).reverse = rest := by
    rw [trim, ← List.reverse_append, List.takeWhile_append_dropWhile, List.reverse_reverse]
  rw [List.append_assoc, hrest, List.takeWhile_append_dropWhile]

theorem not_isBlank_head_dropWhile {cs : List Char} (h : cs.dropWhile isBlank ≠ []) :
    isBlank ((cs.dropWhile isBlank).head h) = false := by
  have hhead := List.head?_dropWhile_not isBlank cs
  rwa [List.head?_eq_some_head h] at hhead

theorem not_isBlank_head_trim {cs : List Char} (h : trim cs ≠ []) :
    isBlank ((trim cs).head h) = false := by
  have hpart : trim cs <+: cs.dropWhile isBlank := by
    rw [← List.reverse_suffix, trim, List.reverse_reverse]
    exact List.dropWhile_suffix _
  rw [hpart.head h]
  exact not_isBlank_head_dropWhile _

theorem not_isBlank_getLast_trim {cs : List Char} (h : trim cs ≠ []) :
    isBlank ((trim cs).getLast h) = false := by
  simp only [trim, List.getLast_reverse]
  exact not_isBlank_head_dropWhile _

end Text
end NodeApi
