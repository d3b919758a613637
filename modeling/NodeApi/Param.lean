import NodeApi.Schema.Resolution
import NodeApi.Text.CamelCase

/-!
# Parameters, names and descriptions as they are shown

A parameter of a method or call, as the document shows it.  Its name is in lower camel case, and
two names that cannot be shown are replaced.  A description is shown with ASCII letters, digits and
common punctuation only; every other character becomes one space.

Main results:

- Theorem `parameterName_notMem`: no parameter is shown by a name that is replaced.
- Theorem `plain_eq_self_iff`: a description is shown as it is exactly if it is plain.
-/

namespace NodeApi

/-- A parameter as the document shows it. -/
structure ParamEntry where
  name : String
  description : String
  type : String
  required : Bool
  schema : Schema
deriving DecidableEq

namespace ParamEntry

/-- The parameter as a member of the document. -/
def toJson (p : ParamEntry) : Json :=
  .object [("name", .string p.name), ("description", .string p.description),
    ("type", .string p.type), ("required", .bool p.required), ("schema", p.schema.usage)]

/-- A parameter that has no description, with the meaning found for its type. -/
def ofResolution (name type : String) (resolution : Resolution) : ParamEntry where
  name
  description := ""
  type
  required := resolution.required
  schema := resolution.schema

end ParamEntry

/-! ## Names -/

/-- Names that cannot be shown, with those shown instead. -/
def replacedNames : List (String × String) :=
  [("class", "clazz"), ("new", "updated")]

/-- The name that a declared one is shown by. -/
def parameterName (declared : String) : String :=
  let name := Text.camelCase declared
  (replacedNames.lookup name).getD name

/-- No parameter is shown by a name that is replaced. -/
theorem parameterName_notMem (declared : String) :
    parameterName declared ∉ replacedNames.map Prod.fst := by
  have hnew : ∀ entry ∈ replacedNames, entry.2 ∉ replacedNames.map Prod.fst := by decide
  unfold parameterName
  generalize Text.camelCase declared = name
  cases hlookup : replacedNames.lookup name with
  | none =>
    intro hmem
    obtain ⟨entry, hentry, hname⟩ := List.mem_map.1 hmem
    have hne := List.lookup_eq_none_iff.1 hlookup entry hentry
    simp [hlookup, hname] at hne
  | some shown =>
    obtain ⟨before, after, heq, _⟩ := List.lookup_eq_some_iff.1 hlookup
    have hmem : (name, shown) ∈ replacedNames := by simp [heq]
    simpa only [hlookup, Option.getD_some] using hnew (name, shown) hmem

namespace Text

/-! ## Descriptions -/

/-- The punctuation that a description may hold. -/
def plainPunctuation : List Char :=
  "., #:;[_%]/*->&'\"`~<^$)(@!".toList

/-- Whether a description may hold the character. -/
def isPlain (c : Char) : Bool :=
  c.isAlphanum || plainPunctuation.contains c

/-- The character itself, or a space in its place. -/
def plainChar (c : Char) : Char :=
  if isPlain c then c else ' '

/-- The text with one space for each character that is not plain. -/
def plain (s : String) : String :=
  String.ofList (s.toList.map plainChar)

@[simp]
theorem isPlain_plainChar (c : Char) : isPlain (plainChar c) = true := by
  unfold plainChar
  split
  · assumption
  · decide

theorem isPlain_of_mem_plain {s : String} {c : Char} (h : c ∈ (plain s).toList) :
    isPlain c = true := by
  simp only [plain, String.toList_ofList, List.mem_map] at h
  obtain ⟨d, _, rfl⟩ := h
  exact isPlain_plainChar d

theorem plain_eq_self_iff {s : String} : plain s = s ↔ ∀ c ∈ s.toList, isPlain c = true := by
  constructor
  · intro h c hc
    rw [← h] at hc
    exact isPlain_of_mem_plain hc
  · intro h
    have hmap : s.toList.map plainChar = s.toList.map id :=
      List.map_congr_left fun c hc => by simp [plainChar, h c hc]
    simp [plain, hmap]

end Text
end NodeApi
