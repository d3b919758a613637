import NodeApi.Json.Literal
import NodeApi.Json.Numeral

/-!
# Reading JSON values

A value is read under a budget of nesting: every list and object takes one level, and a container
for which none is left is refused.

Main results:

- Theorem `readValue_zero_list`: without budget a list is refused at its bracket.
- Theorem `readAll_eq_ok_iff`: a text is read if what is read fills it up to blanks.
-/

namespace NodeApi
namespace Json

/-- How deeply lists and objects may be nested in a text. -/
def maxDepth : Nat :=
  127

/-- Reads a value that is no container. -/
def readScalar : Reader Json
  | [] => stopAt .endInValue []
  | c :: rest =>
    if c = 'n' then readKeyword .null ['u', 'l', 'l'] rest
    else if c = 't' then readKeyword (.bool true) ['r', 'u', 'e'] rest
    else if c = 'f' then readKeyword (.bool false) ['a', 'l', 's', 'e'] rest
    else if c = '"' then (readLiteral rest).map fun (s, rest) => (.string s, rest)
    else if c = '-' ∨ c.isDigit then
      (readNumber (c :: rest)).map fun (n, rest) => (.number n, rest)
    else stopAt .expectedValue (c :: rest)

/-- Reads a member from within its key on. -/
def readMember {α : Type} (value : Reader α) : Reader (String × α) := fun s => do
  let (key, s) ← readLiteral s
  let (x, rest) ← value (← readColon s)
  return ((key, x), rest)

/-- Reads a value that may nest `depth` containers. -/
def readValue (depth : Nat) : Reader Json := fun s =>
  match skipBlanks s with
  | [] => stopAt .endInValue []
  | c :: rest =>
    if c = '[' then
      match depth with
      | 0 => stopAt .tooDeep (c :: rest)
      | inner + 1 => (readElements (readValue inner) rest).map fun (elements, rest) =>
          (.array elements, rest)
    else if c = '\x7b' then
      match depth with
      | 0 => stopAt .tooDeep (c :: rest)
      | inner + 1 => (readMembers (readMember (readValue inner)) rest).map fun (members, rest) =>
          (.ofMembers members, rest)
    else readScalar (c :: rest)

/-- Reads a whole text, which may have blanks at its end. -/
def readAll {α : Type} (reader : Reader α) (text : String) : Except Error α :=
  match reader text.toList with
  | .error fault => .error (fault.toError text.toList)
  | .ok (x, rest) =>
    match skipBlanks rest with
    | [] => .ok x
    | c :: rest => .error ((Fault.malformed .trailingCharacters (c :: rest) 1).toError text.toList)

/-- The value of a JSON text. -/
def read (text : String) : Except Error Json :=
  readAll (readValue maxDepth) text

/-- Without budget a list is refused at its bracket. -/
theorem readValue_zero_list (rest : List Char) :
    readValue 0 ('[' :: rest) = stopAt .tooDeep ('[' :: rest) := by
  rw [readValue]
  rfl

/-- A text is read if what is read fills it up to blanks. -/
theorem readAll_eq_ok_iff {α : Type} {reader : Reader α} {text : String} {x : α} :
    readAll reader text = .ok x ↔
      ∃ rest, reader text.toList = .ok (x, rest) ∧ skipBlanks rest = [] := by
  unfold readAll
  split
  · rename_i h
    simp [h]
  · rename_i x rest h
    simp only [h, Except.ok.injEq, Prod.mk.injEq]
    split
    · rename_i hrest
      exact ⟨fun hx => ⟨rest, ⟨Except.ok.inj hx, rfl⟩, hrest⟩, fun ⟨_, ⟨hx, _⟩, _⟩ => hx ▸ rfl⟩
    · rename_i hrest
      simp only [reduceCtorEq, false_iff, not_exists, not_and, and_imp]
      rintro _ - rfl hnil
      simp [hrest] at hnil

end Json
end NodeApi
