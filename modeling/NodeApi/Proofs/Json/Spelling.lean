import Mathlib.Data.List.DropRight
import NodeApi.Json.Skip
import NodeApi.Proofs.Json.Literal
import NodeApi.Proofs.Json.Numeral
import NodeApi.Proofs.Json.Scan

/-!
# What a text spells

A text spells a value by the grammar of JSON: an object has its members in the order of the text,
with their repetitions, and containers may be nested without limit.  A number that is too large and
a string with half a pair of surrogates can be passed over but have no value; they count as null.

Main results:

- Theorem `skipLiteral_eq_ok_iff`: a string is passed over exactly if the text goes on like one.
- Theorem `Spells.unique`: a text spells one value, with one rest behind it.
- Theorem `spells_of_skipValue`: whatever is passed over is a value of the grammar.
-/

namespace NodeApi
namespace Json

/-! ## Grammar -/

/-- A text goes on like a string up to the closing quote, where any four digits are a code. -/
inductive PassesCharacters : List Char → List Char → Prop where
  | closed {rest : List Char} : PassesCharacters ('"' :: rest) rest
  | itself {c : Char} {s rest : List Char} :
      c ≠ '"' → c ≠ '\\' → 0x20 ≤ c.toNat → PassesCharacters s rest →
        PassesCharacters (c :: s) rest
  | letter {e c : Char} {s rest : List Char} :
      (e, c) ∈ escapeLetters → PassesCharacters s rest → PassesCharacters ('\\' :: e :: s) rest
  | code {s t rest : List Char} {n : Nat} :
      SpellsCode s n t → PassesCharacters t rest → PassesCharacters ('\\' :: 'u' :: s) rest

/-- A string from behind its opening quote on, with its characters, if it has any. -/
inductive SpellsString : List Char → Option String → List Char → Prop where
  | known {s rest : List Char} {text : String} :
      SpellsCharacters s text.toList rest → SpellsString s (some text) rest
  | broken {s rest : List Char} :
      (∀ own rest', ¬SpellsCharacters s own rest') → PassesCharacters s rest →
        SpellsString s none rest

/-- The value of a string. -/
def ofString? (text : Option String) : Json :=
  text.elim .null .string

/-- The value of a numeral. -/
def ofNumeral (n : Numeral) : Json :=
  n.value.toOption.elim .null .number

/-- Moves to the next item of a container, which stands behind a comma unless it is the first. -/
inductive AtItem : Bool → List Char → List Char → Prop where
  | first {s : List Char} : AtItem true s s
  | comma {s rest : List Char} : skipBlanks s = ',' :: rest → AtItem false s rest

mutual

/-- The front of a text spells a value, behind which the rest of the text stands. -/
inductive Spells : List Char → Json → List Char → Prop where
  | null {s rest : List Char} :
      skipBlanks s = 'n' :: 'u' :: 'l' :: 'l' :: rest → Spells s .null rest
  | ofTrue {s rest : List Char} :
      skipBlanks s = 't' :: 'r' :: 'u' :: 'e' :: rest → Spells s (.bool true) rest
  | ofFalse {s rest : List Char} :
      skipBlanks s = 'f' :: 'a' :: 'l' :: 's' :: 'e' :: rest → Spells s (.bool false) rest
  | string {s t rest : List Char} {text : Option String} :
      skipBlanks s = '"' :: t → SpellsString t text rest → Spells s (ofString? text) rest
  | number {s rest : List Char} {numeral : Numeral} :
      SpellsNumeral (skipBlanks s) numeral rest → Spells s (ofNumeral numeral) rest
  | array {s t rest : List Char} {elements : List Json} :
      skipBlanks s = '[' :: t → SpellsElements true t elements rest →
        Spells s (.array elements) rest
  | object {s t rest : List Char} {members : List (String × Json)} :
      skipBlanks s = '\x7b' :: t → SpellsMembers true t members rest →
        Spells s (.object members) rest

/-- The elements of a list up to its closing bracket. -/
inductive SpellsElements : Bool → List Char → List Json → List Char → Prop where
  | closed {first : Bool} {s rest : List Char} :
      skipBlanks s = ']' :: rest → SpellsElements first s [] rest
  | item {first : Bool} {s t u rest : List Char} {element : Json} {elements : List Json} :
      AtItem first s t → Spells t element u → SpellsElements false u elements rest →
        SpellsElements first s (element :: elements) rest

/-- The members of an object up to its closing bracket.  A key without characters is empty. -/
inductive SpellsMembers : Bool → List Char → List (String × Json) → List Char → Prop where
  | closed {first : Bool} {s rest : List Char} :
      skipBlanks s = '\x7d' :: rest → SpellsMembers first s [] rest
  | item {first : Bool} {s t u v w x rest : List Char} {key : Option String} {value : Json}
      {members : List (String × Json)} :
      AtItem first s t → skipBlanks t = '"' :: u → SpellsString u key v →
      skipBlanks v = ':' :: w → Spells w value x → SpellsMembers false x members rest →
        SpellsMembers first s ((key.getD "", value) :: members) rest

end

/-- A text spells a value if the value fills it up to blanks. -/
def TextOf (text : String) (j : Json) : Prop :=
  ∃ rest, Spells text.toList j rest ∧ skipBlanks rest = []

/-! ## Strings that are passed over -/

section
variable (b : Char) (bound s : List Char)

/-- One round of passing over a string goes over one letter that is escaped. -/
theorem skipCharacters_letter {e c : Char} (h : (e, c) ∈ escapeLetters) :
    skipCharacters (b :: bound) ('\\' :: e :: s) = skipCharacters bound s := by
  have hall : ∀ letter ∈ escapeLetters,
      skipCharacters (b :: bound) ('\\' :: letter.1 :: s) = skipCharacters bound s := by
    simp only [escapeLetters, List.forall_mem_cons, List.not_mem_nil, false_implies, implies_true,
      and_true]
    exact ⟨rfl, rfl, rfl, rfl, rfl, rfl, rfl, rfl⟩
  exact hall (e, c) h

/-- One round of passing over a string goes over four digits. -/
theorem skipCharacters_code {s rest : List Char} {code : Nat} (h : SpellsCode s code rest) :
    skipCharacters (b :: bound) ('\\' :: 'u' :: s) = skipCharacters bound rest := by
  simp [skipCharacters, readHex_eq_ok_iff.2 h]

theorem skipCharacters_plain {c : Char} (hquote : c ≠ '"') (hslash : c ≠ '\\')
    (hcontrol : ¬c.toNat < 0x20) :
    skipCharacters (b :: bound) (c :: s) = skipCharacters bound s := by
  simp [skipCharacters, hquote, hslash, hcontrol]

end

/-- Whatever goes on like a string is passed over, if there are rounds enough. -/
theorem PassesCharacters.skip {s rest : List Char} (h : PassesCharacters s rest)
    {bound : List Char} (hbound : s.length ≤ bound.length) :
    skipCharacters bound s = .ok rest := by
  induction h generalizing bound with
  | closed =>
    cases bound with
    | nil => simp at hbound
    | cons b bound => rfl
  | itself hquote hslash hplain _ ih =>
    cases bound with
    | nil => simp at hbound
    | cons b bound =>
      rw [skipCharacters_plain b bound _ hquote hslash (by omega)]
      exact ih (Nat.le_of_succ_le_succ hbound)
  | letter hmem _ ih =>
    cases bound with
    | nil => simp at hbound
    | cons b bound =>
      simp only [List.length_cons] at hbound
      rw [skipCharacters_letter b bound _ hmem]
      exact ih (by omega)
  | code hcode _ ih =>
    cases bound with
    | nil => simp at hbound
    | cons b bound =>
      have hlength := hcode.length
      simp only [List.length_cons] at hbound
      rw [skipCharacters_code b bound hcode]
      exact ih (by omega)

/-- Whatever is passed over goes on like a string. -/
theorem passes_of_skipCharacters {bound s rest : List Char}
    (h : skipCharacters bound s = .ok rest) : PassesCharacters s rest := by
  induction bound generalizing s with
  | nil => cases h
  | cons b bound ih =>
    cases s with
    | nil => cases h
    | cons c s => ?_
    unfold skipCharacters at h
    split at h
    · rename_i hquote
      cases h
      exact hquote ▸ .closed
    rename_i hquote
    split at h
    · rename_i hslash
      subst hslash
      split at h
      · cases h
      rename_i e t
      split at h
      · rename_i hu
        subst hu
        split at h
        · rename_i hread
          exact .code (readHex_eq_ok_iff.1 hread) (ih h)
        · cases h
      split at h
      · rename_i hletter
        have hmem : ∃ c, (e, c) ∈ escapeLetters := by
          simpa [escapeLetters, exists_or] using hletter
        rcases hmem with ⟨c, hmem⟩
        exact .letter hmem (ih h)
      · cases h
    · rename_i hslash
      split at h
      · cases h
      · rename_i hcontrol
        exact .itself hquote hslash (Nat.le_of_not_lt hcontrol) (ih h)

/-- A string is passed over exactly if the text goes on like one. -/
theorem skipLiteral_eq_ok_iff {s rest : List Char} :
    skipLiteral s = .ok rest ↔ PassesCharacters s rest :=
  ⟨passes_of_skipCharacters, fun h => h.skip (Nat.le_refl _)⟩

/-- A string that has characters goes on like one.  A pair of surrogates counts as two codes. -/
theorem SpellsCharacters.passes {s own rest : List Char} (h : SpellsCharacters s own rest) :
    PassesCharacters s rest := by
  induction h with
  | closed => exact .closed
  | itself hquote hslash hplain _ ih => exact .itself hquote hslash hplain ih
  | escape hescape _ ih =>
    cases hescape with
    | letter hmem => exact .letter hmem ih
    | code hcode => exact .code hcode ih
    | pair hcode _ hu _ _ => exact .code hcode (.code hu ih)

theorem PassesCharacters.unique {s rest rest' : List Char} (h : PassesCharacters s rest)
    (h' : PassesCharacters s rest') : rest = rest' :=
  Except.ok.inj ((skipLiteral_eq_ok_iff.2 h).symm.trans (skipLiteral_eq_ok_iff.2 h'))

/-- A string that is passed over is spelled. -/
theorem spellsString_of_skipLiteral {s rest : List Char} (h : skipLiteral s = .ok rest) :
    ∃ text, SpellsString s text rest := by
  have hpasses := skipLiteral_eq_ok_iff.1 h
  by_cases hspelled : ∃ own rest', SpellsCharacters s own rest'
  · rcases hspelled with ⟨own, rest', hown⟩
    cases hpasses.unique hown.passes
    exact ⟨some (String.ofList own), .known (by simpa using hown)⟩
  · exact ⟨none, .broken (fun own rest' hown => hspelled ⟨own, rest', hown⟩) hpasses⟩

/-! ## Uniqueness -/

theorem SpellsString.unique {s rest rest' : List Char} {text text' : Option String}
    (h : SpellsString s text rest) (h' : SpellsString s text' rest') :
    text = text' ∧ rest = rest' := by
  cases h with
  | known hown =>
    cases h' with
    | known hown' =>
      cases (readLiteral_eq_ok_iff.2 hown).symm.trans (readLiteral_eq_ok_iff.2 hown')
      exact ⟨rfl, rfl⟩
    | broken hnone _ => exact absurd hown (hnone _ _)
  | broken hnone hskip =>
    cases h' with
    | known hown' => exact absurd hown' (hnone _ _)
    | broken _ hskip' =>
      exact ⟨rfl, hskip.unique hskip'⟩

theorem AtItem.unique {first : Bool} {s t t' : List Char} (h : AtItem first s t)
    (h' : AtItem first s t') : t = t' := by
  cases h with
  | first =>
    cases h'
    rfl
  | comma hs =>
    cases h' with
    | comma hs' => exact (List.cons.inj (hs.symm.trans hs')).2

/-- No value begins with a closing bracket. -/
theorem Spells.skipBlanks_ne {s rest rest' : List Char} {j : Json} (h : Spells s j rest) :
    skipBlanks s ≠ ']' :: rest' := by
  intro hs'
  cases h with
  | number hnumeral => exact hnumeral.ne_cons (by decide) (by decide) hs'
  | _ hs =>
    rw [hs] at hs'
    exact absurd (List.cons.inj hs').1 (by decide)

/-- One text does not begin with two characters. -/
theorem absurd_of_heads {p : Prop} {s t t' : List Char} {c c' : Char} (h : skipBlanks s = c :: t)
    (h' : skipBlanks s = c' :: t') (hne : c ≠ c') : p :=
  absurd (List.cons.inj (h.symm.trans h')).1 hne

theorem eq_of_heads {s t t' : List Char} {c : Char} (h : skipBlanks s = c :: t)
    (h' : skipBlanks s = c :: t') : t = t' :=
  (List.cons.inj (h.symm.trans h')).2

mutual

/-- A text spells one value, with one rest behind it. -/
theorem Spells.unique {s rest rest' : List Char} {j j' : Json} (h : Spells s j rest)
    (h' : Spells s j' rest') : j = j' ∧ rest = rest' := by
  cases h with
  | null hs =>
    cases h' with
    | null hs' =>
      cases eq_of_heads hs hs'
      exact ⟨rfl, rfl⟩
    | number hnumeral => exact absurd hs (hnumeral.ne_cons (by decide) (by decide))
    | _ hs' => exact absurd_of_heads hs hs' (by decide)
  | ofTrue hs =>
    cases h' with
    | ofTrue hs' =>
      cases eq_of_heads hs hs'
      exact ⟨rfl, rfl⟩
    | number hnumeral => exact absurd hs (hnumeral.ne_cons (by decide) (by decide))
    | _ hs' => exact absurd_of_heads hs hs' (by decide)
  | ofFalse hs =>
    cases h' with
    | ofFalse hs' =>
      cases eq_of_heads hs hs'
      exact ⟨rfl, rfl⟩
    | number hnumeral => exact absurd hs (hnumeral.ne_cons (by decide) (by decide))
    | _ hs' => exact absurd_of_heads hs hs' (by decide)
  | string hs htext =>
    cases h' with
    | string hs' htext' =>
      cases eq_of_heads hs hs'
      rcases htext.unique htext' with ⟨rfl, rfl⟩
      exact ⟨rfl, rfl⟩
    | number hnumeral => exact absurd hs (hnumeral.ne_cons (by decide) (by decide))
    | _ hs' => exact absurd_of_heads hs hs' (by decide)
  | number hnumeral =>
    cases h' with
    | number hnumeral' =>
      rcases hnumeral.unique hnumeral' with ⟨rfl, rfl⟩
      exact ⟨rfl, rfl⟩
    | _ hs' => exact absurd hs' (hnumeral.ne_cons (by decide) (by decide))
  | array hs hall =>
    cases h' with
    | array hs' hall' =>
      cases eq_of_heads hs hs'
      rcases hall.unique hall' with ⟨rfl, rfl⟩
      exact ⟨rfl, rfl⟩
    | number hnumeral => exact absurd hs (hnumeral.ne_cons (by decide) (by decide))
    | _ hs' => exact absurd_of_heads hs hs' (by decide)
  | object hs hall =>
    cases h' with
    | object hs' hall' =>
      cases eq_of_heads hs hs'
      rcases hall.unique hall' with ⟨rfl, rfl⟩
      exact ⟨rfl, rfl⟩
    | number hnumeral => exact absurd hs (hnumeral.ne_cons (by decide) (by decide))
    | _ hs' => exact absurd_of_heads hs hs' (by decide)

theorem SpellsElements.unique {first : Bool} {s rest rest' : List Char}
    {elements elements' : List Json} (h : SpellsElements first s elements rest)
    (h' : SpellsElements first s elements' rest') : elements = elements' ∧ rest = rest' := by
  cases h with
  | closed hs =>
    cases h' with
    | closed hs' =>
      cases eq_of_heads hs hs'
      exact ⟨rfl, rfl⟩
    | item hat helement _ =>
      cases hat with
      | first => exact absurd hs helement.skipBlanks_ne
      | comma hs' => exact absurd_of_heads hs hs' (by decide)
  | item hat helement hrest =>
    cases h' with
    | closed hs' =>
      cases hat with
      | first => exact absurd hs' helement.skipBlanks_ne
      | comma hs => exact absurd_of_heads hs hs' (by decide)
    | item hat' helement' hrest' =>
      cases hat.unique hat'
      rcases helement.unique helement' with ⟨rfl, rfl⟩
      rcases hrest.unique hrest' with ⟨rfl, rfl⟩
      exact ⟨rfl, rfl⟩

theorem SpellsMembers.unique {first : Bool} {s rest rest' : List Char}
    {members members' : List (String × Json)} (h : SpellsMembers first s members rest)
    (h' : SpellsMembers first s members' rest') : members = members' ∧ rest = rest' := by
  cases h with
  | closed hs =>
    cases h' with
    | closed hs' =>
      cases eq_of_heads hs hs'
      exact ⟨rfl, rfl⟩
    | item hat hquote _ _ _ _ =>
      cases hat with
      | first => exact absurd_of_heads hs hquote (by decide)
      | comma hs' => exact absurd_of_heads hs hs' (by decide)
  | item hat hquote hkey hcolon hvalue hrest =>
    cases h' with
    | closed hs' =>
      cases hat with
      | first => exact absurd_of_heads hs' hquote (by decide)
      | comma hs => exact absurd_of_heads hs hs' (by decide)
    | item hat' hquote' hkey' hcolon' hvalue' hrest' =>
      cases hat.unique hat'
      cases eq_of_heads hquote hquote'
      rcases hkey.unique hkey' with ⟨rfl, rfl⟩
      cases eq_of_heads hcolon hcolon'
      rcases hvalue.unique hvalue' with ⟨rfl, rfl⟩
      rcases hrest.unique hrest' with ⟨rfl, rfl⟩
      exact ⟨rfl, rfl⟩

end

/-- A text spells at most one value. -/
theorem TextOf.unique {text : String} {j j' : Json} (h : TextOf text j) (h' : TextOf text j') :
    j = j' := by
  rcases h with ⟨_, hspells, _⟩
  rcases h' with ⟨_, hspells', _⟩
  exact (hspells.unique hspells').1

/-! ## Blanks and keywords -/

@[simp]
theorem skipBlanks_skipBlanks (s : List Char) : skipBlanks (skipBlanks s) = skipBlanks s :=
  List.dropWhile_idempotent isBlank s

/-- Blanks before a value do not matter. -/
theorem Spells.of_skipBlanks_eq {s t rest : List Char} {j : Json} (h : Spells s j rest)
    (heq : skipBlanks s = skipBlanks t) : Spells t j rest := by
  cases h with
  | null hs => exact .null (heq ▸ hs)
  | ofTrue hs => exact .ofTrue (heq ▸ hs)
  | ofFalse hs => exact .ofFalse (heq ▸ hs)
  | string hs htext => exact .string (heq ▸ hs) htext
  | number hnumeral => exact .number (heq ▸ hnumeral)
  | array hs hall => exact .array (heq ▸ hs) hall
  | object hs hall => exact .object (heq ▸ hs) hall

/-! ## Values that are passed over -/

/-- Behind an item, the containers that are open are closed one after the other, the innermost one
first. -/
inductive Ends : List Container → List Char → List Char → Prop where
  | done {s : List Char} : Ends [] s s
  | list {outer : List Container} {s t rest : List Char} {elements : List Json} :
      SpellsElements false s elements t → Ends outer t rest → Ends (.list :: outer) s rest
  | object {outer : List Container} {s t rest : List Char} {members : List (String × Json)} :
      SpellsMembers false s members t → Ends outer t rest → Ends (.object :: outer) s rest

/-- In the containers that are open the next item stands, behind which they are closed. -/
inductive GoesOn : List Container → List Char → List Char → Prop where
  | done {s : List Char} : GoesOn [] s s
  | list {outer : List Container} {s t rest : List Char} {element : Json} :
      Spells s element t → Ends (.list :: outer) t rest → GoesOn (.list :: outer) s rest
  | object {outer : List Container} {s t u v w rest : List Char} {key : Option String}
      {value : Json} :
      skipBlanks s = '"' :: t → SpellsString t key u → skipBlanks u = ':' :: v →
      Spells v value w → Ends (.object :: outer) w rest → GoesOn (.object :: outer) s rest

theorem ends_of_closeContainers {containers left : List Container} {s t rest : List Char}
    (h : closeContainers true containers s = .ok (left, t)) (hrest : GoesOn left t rest) :
    Ends containers s rest := by
  induction containers generalizing s with
  | nil =>
    cases h
    cases hrest
    exact .done
  | cons inner outer ih =>
    rw [closeContainers] at h
    split at h
    · cases h
    rename_i c u hs
    split at h
    · rename_i hc
      subst hc
      cases inner with
      | list => exact .list (.closed hs) (ih h)
      | object => exact .object (.closed hs) (ih h)
    rw [if_neg (by decide)] at h
    split at h
    · rename_i hc
      subst hc
      cases h
      cases hrest with
      | list helement hends =>
        cases hends with
        | list hrest hends => exact .list (.item (.comma hs) helement hrest) hends
      | object hquote hkey hcolon hvalue hends =>
        cases hends with
        | object hrest hends =>
          exact .object (.item (.comma hs) hquote hkey hcolon hvalue hrest) hends
    · cases h

theorem spellsElements_of_closeContainers {outer left : List Container} {s t rest : List Char}
    (h : closeContainers false (.list :: outer) s = .ok (left, t)) (hrest : GoesOn left t rest) :
    ∃ elements u, SpellsElements true s elements u ∧ Ends outer u rest := by
  rw [closeContainers] at h
  split at h
  · cases h
  rename_i c u hs
  split at h
  · rename_i hc
    subst hc
    exact ⟨[], u, .closed hs, ends_of_closeContainers h hrest⟩
  · rw [if_pos (by decide)] at h
    cases h
    cases hrest with
    | list helement hends =>
      cases hends with
      | list hrest hends =>
        have helement := helement.of_skipBlanks_eq (t := s) (by rw [← hs, skipBlanks_skipBlanks])
        exact ⟨_, _, .item .first helement hrest, hends⟩

theorem spellsMembers_of_closeContainers {outer left : List Container} {s t rest : List Char}
    (h : closeContainers false (.object :: outer) s = .ok (left, t)) (hrest : GoesOn left t rest) :
    ∃ members u, SpellsMembers true s members u ∧ Ends outer u rest := by
  rw [closeContainers] at h
  split at h
  · cases h
  rename_i c u hs
  split at h
  · rename_i hc
    subst hc
    exact ⟨[], u, .closed hs, ends_of_closeContainers h hrest⟩
  · rw [if_pos (by decide)] at h
    cases h
    cases hrest with
    | object hquote hkey hcolon hvalue hends =>
      cases hends with
      | object hrest hends =>
        rw [← hs, skipBlanks_skipBlanks] at hquote
        exact ⟨_, _, .item .first hquote hkey hcolon hvalue hrest, hends⟩

/-- A value is passed over if it is no container, and of a container its opening bracket. -/
theorem skipScalar_cases {s rest : List Char} {opened : Option Container}
    (h : skipScalar s = .ok (opened, rest)) :
    (opened = none ∧ ∃ j, Spells s j rest) ∨
      (opened = some .list ∧ skipBlanks s = '[' :: rest) ∨
      (opened = some .object ∧ skipBlanks s = '\x7b' :: rest) := by
  unfold skipScalar at h
  split at h
  · cases h
  rename_i c t hs
  split at h
  · rename_i hc
    cases h
    exact .inr (.inl ⟨rfl, hc ▸ hs⟩)
  split at h
  · rename_i hc
    cases h
    exact .inr (.inr ⟨rfl, hc ▸ hs⟩)
  left
  split at h
  · rename_i hc
    rcases readKeyword_eq_ok_iff.1 h with ⟨hnone, rfl⟩
    exact ⟨hnone, .null, .null (hc ▸ hs)⟩
  split at h
  · rename_i hc
    rcases readKeyword_eq_ok_iff.1 h with ⟨hnone, rfl⟩
    exact ⟨hnone, .bool true, .ofTrue (hc ▸ hs)⟩
  split at h
  · rename_i hc
    rcases readKeyword_eq_ok_iff.1 h with ⟨hnone, rfl⟩
    exact ⟨hnone, .bool false, .ofFalse (hc ▸ hs)⟩
  split at h
  · rename_i hc
    rcases map_eq_ok_iff.1 h with ⟨rest', hskip, heq⟩
    cases heq
    rcases spellsString_of_skipLiteral hskip with ⟨text, htext⟩
    exact ⟨rfl, ofString? text, .string (hc ▸ hs) htext⟩
  split at h
  · rename_i hc
    rcases map_eq_ok_iff.1 h with ⟨⟨numeral, rest'⟩, hread, heq⟩
    cases heq
    exact ⟨rfl, ofNumeral numeral, .number (hs ▸ readNumeral_eq_ok_iff.1 hread)⟩
  · cases h

theorem readColon_eq_ok {s rest : List Char} (h : readColon s = .ok rest) :
    skipBlanks s = ':' :: rest := by
  unfold readColon at h
  split at h
  · cases h
  rename_i c t hs
  split at h
  · rename_i hc
    cases h
    exact hc ▸ hs
  · cases h

theorem skipKey_eq_ok {s rest : List Char} (h : skipKey s = .ok rest) :
    ∃ t key u, skipBlanks s = '"' :: t ∧ SpellsString t key u ∧ skipBlanks u = ':' :: rest := by
  unfold skipKey at h
  split at h
  · cases h
  rename_i c t hs
  split at h
  · rename_i hc
    rcases bind_eq_ok_iff.1 h with ⟨u, hskip, hcolon⟩
    rcases spellsString_of_skipLiteral hskip with ⟨key, hkey⟩
    exact ⟨t, key, u, hc ▸ hs, hkey, readColon_eq_ok hcolon⟩
  · cases h

/-- One round passes over a value or an opening bracket, then over closing brackets, and goes on
with what is left open. -/
theorem skipItems_cons_eq_ok {b : Char} {bound s rest : List Char} {containers : List Container}
    (h : skipItems (b :: bound) containers s = .ok rest) :
    ∃ opened t left u, skipScalar s = .ok (opened, t) ∧
      closeContainers opened.isNone (opened.toList ++ containers) t = .ok (left, u) ∧
      (left = [] ∧ u = rest ∨
        (∃ outer, left = .list :: outer ∧ skipItems bound left u = .ok rest) ∨
        ∃ outer v, left = .object :: outer ∧ skipKey u = .ok v ∧
          skipItems bound left v = .ok rest) := by
  rw [skipItems] at h
  rcases bind_eq_ok_iff.1 h with ⟨⟨opened, t⟩, hscalar, h⟩
  -- with and without an opening bracket it goes on in the same way
  rcases opened with _ | container
  all_goals
    rcases bind_eq_ok_iff.1 h with ⟨⟨left, u⟩, hclose, h⟩
    refine ⟨_, t, left, u, hscalar, hclose, ?_⟩
    rcases left with _ | ⟨_ | _, outer⟩
    · cases h
      exact .inl ⟨rfl, rfl⟩
    · exact .inr (.inl ⟨outer, rfl, h⟩)
    · rcases bind_eq_ok_iff.1 h with ⟨v, hkey, h⟩
      exact .inr (.inr ⟨outer, v, rfl, hkey, h⟩)

/-- What is passed over is a value, behind which the containers that are open are closed. -/
theorem spells_of_skipItems {bound s rest : List Char} {containers : List Container}
    (h : skipItems bound containers s = .ok rest) :
    ∃ j t, Spells s j t ∧ Ends containers t rest := by
  induction bound generalizing containers s with
  | nil => cases h
  | cons b bound ih =>
    rcases skipItems_cons_eq_ok h with ⟨opened, t, left, u, hscalar, hclose, hleft⟩
    have hgoes : GoesOn left u rest := by
      rcases hleft with ⟨rfl, rfl⟩ | ⟨outer, rfl, hleft⟩ | ⟨outer, v, rfl, hkey, hleft⟩
      · exact .done
      · rcases ih hleft with ⟨j, v, hj, hends⟩
        exact .list hj hends
      · rcases skipKey_eq_ok hkey with ⟨_, _, _, hquote, hstring, hcolon⟩
        rcases ih hleft with ⟨j, w, hj, hends⟩
        exact .object hquote hstring hcolon hj hends
    rcases skipScalar_cases hscalar with ⟨rfl, j, hj⟩ | ⟨rfl, hs⟩ | ⟨rfl, hs⟩
    · exact ⟨j, t, hj, ends_of_closeContainers hclose hgoes⟩
    · rcases spellsElements_of_closeContainers hclose hgoes with ⟨elements, v, hall, hends⟩
      exact ⟨.array elements, v, .array hs hall, hends⟩
    · rcases spellsMembers_of_closeContainers hclose hgoes with ⟨members, v, hall, hends⟩
      exact ⟨.object members, v, .object hs hall, hends⟩

/-- Whatever is passed over is a value of the grammar. -/
theorem spells_of_skipValue {s rest : List Char} (h : skipValue s = .ok rest) :
    ∃ j, Spells s j rest := by
  rcases spells_of_skipItems h with ⟨j, t, hj, hends⟩
  cases hends
  exact ⟨j, hj⟩

end Json
end NodeApi
