import NodeApi.Text.CodePoints
import NodeApi.TypeName.Wrapper

/-!
# Tuple type names

A tuple is written as a list of names between parentheses, with commas between them.  A comma
counts only outside of all brackets; round, angle and square brackets are told apart neither in
opening nor in closing.

Main results:

- Theorem `intercalate_pieces`: the pieces of a text are the text without its outer commas.
- Theorem `pieces_ne_nil`: even an empty text has one piece.
-/

namespace NodeApi
namespace TypeName

/-- The opening brackets. -/
def opensBracket (c : Char) : Bool :=
  c = '(' || c = '<' || c = '['

/-- The closing brackets. -/
def closesBracket (c : Char) : Bool :=
  c = ')' || c = '>' || c = ']'

/-- Puts a character at the front of the first piece. -/
def consPiece (c : Char) : List (List Char) → List (List Char)
  | [] => [[c]]
  | piece :: pieces => (c :: piece) :: pieces

/-- The pieces between the commas outside of all brackets, for a text that stands inside `depth`
brackets.  There are none if a bracket is closed too often or not at all. -/
def pieces : Nat → List Char → Option (List (List Char))
  | 0, [] => some [[]]
  | _ + 1, [] => none
  | depth, c :: rest =>
    if opensBracket c then (pieces (depth + 1) rest).map (consPiece c)
    else if closesBracket c then
      match depth with
      | 0 => none
      | outer + 1 => (pieces outer rest).map (consPiece c)
    else if c = ',' ∧ depth = 0 then (pieces depth rest).map ([] :: ·)
    else (pieces depth rest).map (consPiece c)

/-- The element names of a tuple name, without the white space around them.  None of them may be
empty. -/
def tuple? (name : String) : Option (List String) := do
  let inner ← between? ['('] [')'] name.toList
  let elements := (← pieces 0 inner).map Text.trim
  if elements.any List.isEmpty then none else some (elements.map String.ofList)

theorem consPiece_ne_nil (c : Char) (ps : List (List Char)) : consPiece c ps ≠ [] := by
  cases ps <;> simp [consPiece]

theorem pieces_ne_nil {depth : Nat} {cs : List Char} {ps : List (List Char)}
    (h : pieces depth cs = some ps) : ps ≠ [] := by
  fun_induction pieces depth cs generalizing ps with
  | case1 =>
    obtain rfl := Option.some.inj h
    simp
  | case2 => simp at h
  | case3 _ c =>
    obtain ⟨qs, _, rfl⟩ := Option.map_eq_some_iff.1 h
    exact consPiece_ne_nil c qs
  | case4 => simp at h
  | case5 c =>
    obtain ⟨qs, _, rfl⟩ := Option.map_eq_some_iff.1 h
    exact consPiece_ne_nil c qs
  | case6 =>
    obtain ⟨qs, _, rfl⟩ := Option.map_eq_some_iff.1 h
    simp
  | case7 _ c =>
    obtain ⟨qs, _, rfl⟩ := Option.map_eq_some_iff.1 h
    exact consPiece_ne_nil c qs

theorem intercalate_consPiece (c : Char) {ps : List (List Char)} (h : ps ≠ []) :
    [','].intercalate (consPiece c ps) = c :: [','].intercalate ps := by
  match ps, h with
  | [p], _ => simp [consPiece, List.intercalate]
  | p :: q :: rest, _ => simp [consPiece, List.intercalate]

/-- The commas put back between the pieces give the text. -/
theorem intercalate_pieces {depth : Nat} {cs : List Char} {ps : List (List Char)}
    (h : pieces depth cs = some ps) : [','].intercalate ps = cs := by
  fun_induction pieces depth cs generalizing ps with
  | case1 =>
    obtain rfl := Option.some.inj h
    rfl
  | case2 => simp at h
  | case3 depth c rest hc ih =>
    obtain ⟨qs, hqs, rfl⟩ := Option.map_eq_some_iff.1 h
    rw [intercalate_consPiece c (pieces_ne_nil hqs), ih hqs]
  | case4 c rest hc hd => simp at h
  | case5 c rest hc hd outer ih =>
    obtain ⟨qs, hqs, rfl⟩ := Option.map_eq_some_iff.1 h
    rw [intercalate_consPiece c (pieces_ne_nil hqs), ih hqs]
  | case6 depth c rest hc hd hcomma ih =>
    obtain ⟨qs, hqs, rfl⟩ := Option.map_eq_some_iff.1 h
    have hne := pieces_ne_nil hqs
    match qs, hne with
    | q :: qs, _ => rw [← ih hqs, hcomma.1]; simp [List.intercalate]
  | case7 depth c rest hc hd hcomma ih =>
    obtain ⟨qs, hqs, rfl⟩ := Option.map_eq_some_iff.1 h
    rw [intercalate_consPiece c (pieces_ne_nil hqs), ih hqs]

end TypeName
end NodeApi
