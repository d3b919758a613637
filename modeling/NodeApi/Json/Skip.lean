import NodeApi.Json.Literal
import NodeApi.Json.Numeral

/-!
# Passing over values

A value that nobody asks for is passed over without being built.  Its grammar is a little wider
than that of a value that is read: containers nest without limit, numbers may have any size, and
surrogates need no partner.  The containers that are open are kept in a list, innermost first.

Main results:

- Definition `skipValue`: passing over a value, containers and all.
-/

namespace NodeApi
namespace Json

/-- The two kinds of containers. -/
inductive Container where
  | list
  | object
deriving DecidableEq

namespace Container

/-- The closing bracket. -/
def closing : Container → Char
  | list => ']'
  | object => '\x7d'

/-- What is wrong if the text ends inside. -/
def ending : Container → Malformation
  | list => .endInList
  | object => .endInObject

/-- What is wrong if neither a comma nor the closing bracket follows an item. -/
def separatorFault : Container → Malformation
  | list => .expectedListSeparator
  | object => .expectedObjectSeparator

end Container

/-- Passes over a string from behind its opening quote; `bound` counts the rounds. -/
def skipCharacters : (bound : List Char) → List Char → Except Fault (List Char)
  | [], _ => stopAt .endInString []
  | _ :: _, [] => stopAt .endInString []
  | _ :: bound, c :: rest =>
    if c = '"' then .ok rest
    else if c = '\\' then
      match rest with
      | [] => stopAt .endInString []
      | e :: rest =>
        if e = 'u' then
          match readHex rest with
          | .ok (_, rest) => skipCharacters bound rest
          | .error fault => .error fault
        else if e ∈ ['"', '\\', '/', 'b', 'f', 'n', 'r', 't'] then skipCharacters bound rest
        else stopAt .invalidEscape (e :: rest)
    else if c.toNat < 0x20 then stopBefore .controlCharacter (c :: rest)
    else skipCharacters bound rest

/-- Passes over a string behind its opening quote. -/
def skipLiteral (s : List Char) : Except Fault (List Char) :=
  skipCharacters s s

/-- Passes over a value that is no container, or over the bracket that opens one. -/
def skipScalar (s : List Char) : Except Fault (Option Container × List Char) :=
  match skipBlanks s with
  | [] => stopAt .endInValue []
  | c :: rest =>
    if c = '[' then .ok (some .list, rest)
    else if c = '\x7b' then .ok (some .object, rest)
    else if c = 'n' then readKeyword none ['u', 'l', 'l'] rest
    else if c = 't' then readKeyword none ['r', 'u', 'e'] rest
    else if c = 'f' then readKeyword none ['a', 'l', 's', 'e'] rest
    else if c = '"' then (skipLiteral rest).map (none, ·)
    else if c = '-' ∨ c.isDigit then
      (readNumeral .invalidNumber (c :: rest)).map fun (_, rest) => (none, rest)
    else stopAt .expectedValue (c :: rest)

/-- Passes over closing brackets, and over a comma behind an item.  Gives the containers that are
still open. -/
def closeContainers (afterItem : Bool) :
    List Container → List Char → Except Fault (List Container × List Char)
  | [], s => .ok ([], s)
  | inner :: outer, s =>
    match skipBlanks s with
    | [] => stopAt inner.ending []
    | c :: rest =>
      if c = inner.closing then closeContainers true outer rest
      else if !afterItem then .ok (inner :: outer, c :: rest)
      else if c = ',' then .ok (inner :: outer, rest)
      else stopAt inner.separatorFault (c :: rest)

/-- Passes over a key and its colon. -/
def skipKey (s : List Char) : Except Fault (List Char) :=
  match skipBlanks s with
  | [] => stopAt .endInObject []
  | c :: rest =>
    if c = '"' then do readColon (← skipLiteral rest)
    else stopAt .keyNotString (c :: rest)

/-- Passes over items until every open container is closed; `bound` counts the rounds. -/
def skipItems : (bound : List Char) → List Container → List Char → Except Fault (List Char)
  | [], _, _ => stopAt .endInValue []
  | _ :: bound, containers, s => do
    let (opened, s) ← skipScalar s
    let (containers, s) ← match opened with
      | some container => closeContainers false (container :: containers) s
      | none => closeContainers true containers s
    match containers with
    | [] => return s
    | .list :: _ => skipItems bound containers s
    | .object :: _ => skipItems bound containers (← skipKey s)

/-- Passes over a value. -/
def skipValue (s : List Char) : Except Fault (List Char) :=
  skipItems s [] s

end Json
end NodeApi
