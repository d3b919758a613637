import Mathlib.Data.List.Infix
import NodeApi.TypeName.Tuple

/-!
# The grammar of tuple names

A text is level if its brackets, of whatever kind, are closed as often as they are opened and never
too early.  A tuple name is spelled by level parts with commas between them, none of which has a
comma outside of its own brackets.  This is all that is needed to read the parts off the name.

Main results:

- Theorem `closes_cons_iff`: a text is closed character by character.
- Theorem `pieces_intercalate`: parts with commas between them are the pieces of the whole.
- Theorem `closes_of_pieces`: the pieces of a text have the form of such parts.
- Theorem `tuple_grammar`: the tuple names are those that are spelled by parts, their elements are
  the parts without white space around them, and there is only one way to spell a name.
-/

namespace NodeApi
namespace TypeName

/-! ## Level texts -/

/-- What a character adds to the number of brackets around the text behind it. -/
def weight (c : Char) : Int :=
  if opensBracket c then 1 else if closesBracket c then -1 else 0

/-- How many brackets a text opens, less those that it closes. -/
def balance : List Char → Int
  | [] => 0
  | c :: cs => weight c + balance cs

/-- A text that opens and closes as many brackets, and none of them is closed before it is opened.
The kinds of brackets need not match. -/
structure Level (cs : List Char) : Prop where
  front : ∀ front, front <+: cs → 0 ≤ balance front
  whole : balance cs = 0

/-- A comma stands outside of all brackets of a text. -/
def HasOuterComma (cs : List Char) : Prop :=
  ∃ front, front ++ [','] <+: cs ∧ balance front = 0

instance (cs : List Char) : Decidable (Level cs) :=
  decidable_of_iff ((∀ front ∈ cs.inits, 0 ≤ balance front) ∧ balance cs = 0)
    ⟨fun h => ⟨fun front hfront => h.1 front ((List.mem_inits front cs).2 hfront), h.2⟩,
      fun h => ⟨fun front hfront => h.front front ((List.mem_inits front cs).1 hfront), h.whole⟩⟩

instance (cs : List Char) : Decidable (HasOuterComma cs) :=
  decidable_of_iff (∃ front ∈ cs.inits, front ++ [','] <+: cs ∧ balance front = 0)
    ⟨fun ⟨front, _, h⟩ => ⟨front, h⟩, fun ⟨front, h⟩ =>
      ⟨front, (List.mem_inits front cs).2 ((List.prefix_append front [',']).trans h.1), h⟩⟩

@[simp]
theorem balance_nil : balance [] = 0 :=
  rfl

@[simp]
theorem balance_cons (c : Char) (cs : List Char) : balance (c :: cs) = weight c + balance cs :=
  rfl

/-! ## Texts inside of brackets -/

/-- A text inside of `depth` brackets that closes all of them, has no comma where they are all
closed, and closes none that is not open. -/
structure Closes (depth : Int) (cs : List Char) : Prop where
  front : ∀ front, front <+: cs → 0 ≤ depth + balance front
  whole : depth + balance cs = 0
  comma : ∀ front, front ++ [','] <+: cs → depth + balance front ≠ 0

/-- Outside of brackets such a text is level and has no comma that counts. -/
theorem closes_zero_iff {cs : List Char} : Closes 0 cs ↔ Level cs ∧ ¬HasOuterComma cs := by
  constructor
  · intro h
    refine ⟨⟨fun front hfront => ?_, ?_⟩, ?_⟩
    · simpa using h.front front hfront
    · simpa using h.whole
    · rintro ⟨front, hfront, hbalance⟩
      exact h.comma front hfront (by rw [hbalance, Int.add_zero])
  · rintro ⟨hlevel, hcomma⟩
    refine ⟨fun front hfront => ?_, ?_, fun front hfront hbalance => hcomma ⟨front, hfront, ?_⟩⟩
    · simpa using hlevel.front front hfront
    · simpa using hlevel.whole
    · simpa using hbalance

@[simp]
theorem closes_nil_iff {depth : Int} : Closes depth [] ↔ depth = 0 := by
  constructor
  · intro h
    simpa using h.whole
  · rintro rfl
    exact closes_zero_iff.2 (by decide)

/-- A text is closed character by character. -/
theorem closes_cons_iff {depth : Int} {c : Char} {cs : List Char} :
    Closes depth (c :: cs) ↔
      0 ≤ depth ∧ ¬(c = ',' ∧ depth = 0) ∧ Closes (depth + weight c) cs := by
  constructor
  · intro h
    refine ⟨?_, ?_, ⟨fun front hfront => ?_, ?_, fun front hfront => ?_⟩⟩
    · simpa using h.front [] List.nil_prefix
    · rintro ⟨rfl, hdepth⟩
      exact h.comma [] (List.prefix_append [','] cs) (by simpa using hdepth)
    · have hle := h.front (c :: front) (List.cons_prefix_cons.2 ⟨rfl, hfront⟩)
      rw [balance_cons] at hle
      omega
    · have hwhole := h.whole
      rw [balance_cons] at hwhole
      omega
    · have hne := h.comma (c :: front) (List.cons_prefix_cons.2 ⟨rfl, hfront⟩)
      rw [balance_cons] at hne
      omega
  · rintro ⟨hdepth, hcomma, hrest⟩
    refine ⟨fun front hfront => ?_, ?_, fun front hfront => ?_⟩
    · rcases List.prefix_cons_iff.1 hfront with rfl | ⟨front, rfl, hrestfront⟩
      · simpa using hdepth
      · have hle := hrest.front front hrestfront
        rw [balance_cons]
        omega
    · have hwhole := hrest.whole
      rw [balance_cons]
      omega
    · cases front with
      | nil =>
        have hc : c = ',' := (List.cons_prefix_cons.1 hfront).1.symm
        simpa using fun hzero => hcomma ⟨hc, hzero⟩
      | cons d front =>
        rcases List.cons_prefix_cons.1 hfront with ⟨rfl, hrestfront⟩
        have hne := hrest.comma front hrestfront
        rw [balance_cons]
        omega

/-! ## Pieces -/

theorem pieces_comma (rest : List Char) :
    pieces 0 (',' :: rest) = (pieces 0 rest).map ([] :: ·) := by
  rw [pieces, if_neg (by decide), if_neg (by decide), if_pos ⟨rfl, rfl⟩]

/-- A character that is no outer comma goes to the first piece of what follows it, unless it closes
a bracket that is not open. -/
theorem pieces_cons {depth : Nat} {c : Char} (hcomma : ¬(c = ',' ∧ depth = 0)) (rest : List Char) :
    pieces depth (c :: rest) =
      if depth + weight c < 0 then none
      else (pieces (depth + weight c).toNat rest).map (consPiece c) := by
  by_cases hopens : opensBracket c = true
  · have hweight : weight c = 1 := by rw [weight, if_pos hopens]
    have hpieces : pieces depth (c :: rest) = (pieces (depth + 1) rest).map (consPiece c) := by
      cases depth <;> rw [pieces, if_pos hopens]
    rw [hpieces, hweight, if_neg (by omega)]
    rfl
  by_cases hcloses : closesBracket c = true
  · have hweight : weight c = -1 := by rw [weight, if_neg hopens, if_pos hcloses]
    cases depth with
    | zero =>
      rw [pieces, if_neg hopens, if_pos hcloses, hweight]
      rfl
    | succ outer =>
      have houter : (((outer + 1 : Nat) : Int) + -1).toNat = outer := by omega
      rw [pieces, if_neg hopens, if_pos hcloses, hweight, if_neg (by omega), houter]
  · have hweight : weight c = 0 := by rw [weight, if_neg hopens, if_neg hcloses]
    have hpieces : pieces depth (c :: rest) = (pieces depth rest).map (consPiece c) := by
      cases depth <;> rw [pieces, if_neg hopens, if_neg hcloses, if_neg hcomma]
    rw [hpieces, hweight, if_neg (by omega), Int.add_zero, Int.toNat_natCast]

/-- The characters of a text that is closed all go to one piece. -/
theorem Closes.pieces_cons {depth : Nat} {c : Char} {cs : List Char}
    (h : Closes depth (c :: cs)) :
    ∃ inner : Nat, Closes inner cs ∧
      ∀ rest, pieces depth (c :: rest) = (pieces inner rest).map (consPiece c) := by
  rcases closes_cons_iff.1 h with ⟨_, hcomma, hrest⟩
  have hle : 0 ≤ (depth : Int) + weight c := by simpa using hrest.front [] List.nil_prefix
  refine ⟨(depth + weight c).toNat, by rwa [Int.toNat_of_nonneg hle], fun rest => ?_⟩
  rw [TypeName.pieces_cons (by simpa using hcomma), if_neg (by omega)]

/-- A text that is closed is one piece. -/
theorem Closes.pieces_eq {depth : Nat} {piece : List Char} (h : Closes depth piece) :
    pieces depth piece = some [piece] := by
  induction piece generalizing depth with
  | nil =>
    obtain rfl : depth = 0 := by simpa using h
    rfl
  | cons c piece ih =>
    rcases h.pieces_cons with ⟨inner, hinner, hpieces⟩
    rw [hpieces, ih hinner]
    rfl

/-- With a comma behind it, it is the first piece. -/
theorem Closes.pieces_append {depth : Nat} {piece : List Char} (h : Closes depth piece)
    (rest : List Char) :
    pieces depth (piece ++ ',' :: rest) = (pieces 0 rest).map (piece :: ·) := by
  induction piece generalizing depth with
  | nil =>
    obtain rfl : depth = 0 := by simpa using h
    exact pieces_comma rest
  | cons c piece ih =>
    rcases h.pieces_cons with ⟨inner, hinner, hpieces⟩
    rw [List.cons_append, hpieces, ih hinner, Option.map_map]
    rfl

/-- Parts with commas between them are the pieces of the whole. -/
theorem pieces_intercalate {parts : List (List Char)} (hne : parts ≠ [])
    (h : ∀ part ∈ parts, Closes 0 part) : pieces 0 ([','].intercalate parts) = some parts := by
  induction parts with
  | nil => exact absurd rfl hne
  | cons part parts ih =>
    have hpart : Closes (0 : Nat) part := h part List.mem_cons_self
    cases parts with
    | nil => rw [List.intercalate_singleton, hpart.pieces_eq]
    | cons next parts =>
      have hrest := ih (by simp) fun p hp => h p (List.mem_cons_of_mem part hp)
      rw [List.intercalate_cons_cons, List.append_assoc, List.singleton_append,
        hpart.pieces_append, hrest]
      rfl

/-- The first piece of a text closes the brackets around the text, and every other piece stands
outside of all brackets. -/
theorem closes_of_pieces {depth : Nat} {cs : List Char} {ps : List (List Char)}
    (h : pieces depth cs = some ps) :
    ∃ piece rest, ps = piece :: rest ∧ Closes depth piece ∧ ∀ p ∈ rest, Closes 0 p := by
  induction cs generalizing depth ps with
  | nil =>
    cases depth with
    | zero =>
      obtain rfl : [[]] = ps := Option.some.inj h
      exact ⟨[], [], rfl, closes_nil_iff.2 rfl, by simp⟩
    | succ depth => cases h
  | cons c cs ih =>
    by_cases hcomma : c = ',' ∧ depth = 0
    · rcases hcomma with ⟨rfl, rfl⟩
      rw [pieces_comma] at h
      rcases Option.map_eq_some_iff.1 h with ⟨qs, hqs, rfl⟩
      rcases ih hqs with ⟨piece, rest, rfl, hpiece, hrest⟩
      exact ⟨[], piece :: rest, rfl, closes_nil_iff.2 rfl,
        List.forall_mem_cons.2 ⟨hpiece, hrest⟩⟩
    · rw [pieces_cons hcomma] at h
      split at h
      · cases h
      · rename_i hle
        rcases Option.map_eq_some_iff.1 h with ⟨qs, hqs, rfl⟩
        rcases ih hqs with ⟨piece, rest, rfl, hpiece, hrest⟩
        rw [Int.toNat_of_nonneg (by omega)] at hpiece
        exact ⟨c :: piece, rest, rfl,
          closes_cons_iff.2 ⟨by omega, by simpa using hcomma, hpiece⟩, hrest⟩

/-- The pieces of a text are the only parts of the right form that give the text. -/
theorem pieces_eq_some_iff {cs : List Char} {ps : List (List Char)} :
    pieces 0 cs = some ps ↔
      ps ≠ [] ∧ [','].intercalate ps = cs ∧ ∀ p ∈ ps, Closes 0 p := by
  constructor
  · intro h
    rcases closes_of_pieces h with ⟨piece, rest, rfl, hpiece, hrest⟩
    exact ⟨by simp, intercalate_pieces h, List.forall_mem_cons.2 ⟨hpiece, hrest⟩⟩
  · rintro ⟨hne, rfl, h⟩
    exact pieces_intercalate hne h

/-! ## Tuple names -/

/-- A part of a tuple name without the white space around it. -/
def trimmed (part : String) : String :=
  String.ofList (Text.trim part.toList)

/-- A tuple name is spelled by level parts without outer commas: between parentheses, with a comma
between each two of them. -/
structure Spells (parts : List String) (name : String) : Prop where
  ne_nil : parts ≠ []
  name_eq : name = "(" ++ ",".intercalate parts ++ ")"
  level : ∀ part ∈ parts, Level part.toList
  comma : ∀ part ∈ parts, ¬HasOuterComma part.toList

/-- A name is spelled by the pieces of what stands between its parentheses. -/
theorem spells_iff {parts : List String} {name : String} :
    Spells parts name ↔
      ∃ inner, between? ['('] [')'] name.toList = some inner ∧
        pieces 0 inner = some (parts.map String.toList) := by
  have hname (inner : List Char) (hinner : [','].intercalate (parts.map String.toList) = inner) :
      name = "(" ++ ",".intercalate parts ++ ")" ↔
        between? ['('] [')'] name.toList = some inner := by
    rw [between?_eq_some_iff, ← hinner, ← String.toList_inj]
    simp [String.toList_intercalate]
  simp only [pieces_eq_some_iff]
  constructor
  · intro h
    refine ⟨_, (hname _ rfl).1 h.name_eq, by simpa using h.ne_nil, rfl, ?_⟩
    rw [List.forall_mem_map]
    exact fun part hpart => closes_zero_iff.2 ⟨h.level part hpart, h.comma part hpart⟩
  · rintro ⟨inner, hbetween, hne, hinner, hcloses⟩
    rw [List.forall_mem_map] at hcloses
    exact ⟨by simpa using hne, (hname inner hinner).2 hbetween,
      fun part hpart => (closes_zero_iff.1 (hcloses part hpart)).1,
      fun part hpart => (closes_zero_iff.1 (hcloses part hpart)).2⟩

/-- There is only one way to spell a name. -/
theorem Spells.unique {parts parts' : List String} {name : String} (h : Spells parts name)
    (h' : Spells parts' name) : parts = parts' := by
  rcases spells_iff.1 h with ⟨inner, hinner, hpieces⟩
  rcases spells_iff.1 h' with ⟨inner', hinner', hpieces'⟩
  obtain rfl : inner = inner' := Option.some.inj (hinner.symm.trans hinner')
  have hparts := Option.some.inj (hpieces.symm.trans hpieces')
  exact List.map_injective_iff.2 (fun _ _ => String.toList_inj.1) hparts

/-- The elements of a name that is spelled by parts are these parts without white space, if
something is left of each of them. -/
theorem Spells.tuple?_eq {parts : List String} {name : String} (h : Spells parts name) :
    tuple? name = if ∀ part ∈ parts, trimmed part ≠ "" then some (parts.map trimmed) else none := by
  rcases spells_iff.1 h with ⟨inner, hinner, hpieces⟩
  have helements : ((parts.map String.toList).map Text.trim).map String.ofList =
      parts.map trimmed := by
    rw [List.map_map, List.map_map]
    rfl
  have hempty : ((parts.map String.toList).map Text.trim).any List.isEmpty = true ↔
      ¬∀ part ∈ parts, trimmed part ≠ "" := by
    simp [trimmed]
  simp only [tuple?, hinner, hpieces, Option.bind_eq_bind, Option.bind_some, helements]
  by_cases hall : ∀ part ∈ parts, trimmed part ≠ ""
  · rw [if_pos hall, if_neg (fun hany => hempty.1 hany hall)]
  · rw [if_neg hall, if_pos (hempty.2 hall)]

/-- A name that has elements is spelled by parts. -/
theorem exists_spells_of_tuple? {name : String} {elements : List String}
    (h : tuple? name = some elements) : ∃ parts, Spells parts name := by
  simp only [tuple?, Option.bind_eq_bind, Option.bind_eq_some_iff] at h
  rcases h with ⟨inner, hinner, ps, hps, _⟩
  refine ⟨ps.map String.ofList, spells_iff.2 ⟨inner, hinner, ?_⟩⟩
  rw [hps, List.map_map]
  simp [Function.comp_def]

end TypeName
end NodeApi
