import NodeApi.Json.Error

/-!
# Scanning a JSON text

A reader takes the unread text and gives what it has read together with the text that is left.
This module holds the parts that lists and objects share: blanks, keywords, commas and brackets,
each parametric in what is read between them.

Main results:

- Theorem `skipBlanks_of_not_isBlank`: a text that begins with no blank is left alone.
-/

namespace NodeApi
namespace Json

/-- Reads the front of a text and leaves the rest. -/
abbrev Reader (α : Type) : Type :=
  List Char → Except Fault (α × List Char)

/-- The next byte is the one that does not fit. -/
def stopAt {α : Type} (what : Malformation) (unread : List Char) : Except Fault α :=
  .error (.malformed what unread 1)

/-- The text that has just been read does not fit. -/
def stopBefore {α : Type} (what : Malformation) (unread : List Char) : Except Fault α :=
  .error (.malformed what unread 0)

/-- The blanks that may stand between the parts of a JSON text. -/
def isBlank (c : Char) : Bool :=
  c = ' ' || c = '\t' || c = '\n' || c = '\r'

/-- The text from its first character on that is not blank. -/
def skipBlanks (s : List Char) : List Char :=
  s.dropWhile isBlank

/-- Reads the given letters, which stand for a value. -/
def readKeyword {α : Type} (value : α) : List Char → Reader α
  | [], s => .ok (value, s)
  | _ :: _, [] => stopAt .endInValue []
  | k :: ks, c :: s => if c = k then readKeyword value ks s else stopAt .expectedKeyword (c :: s)

/-- What comes next in a container: an item, at which the text stands, or the text behind the
closing bracket. -/
inductive Upcoming where
  | item (text : List Char)
  | closed (rest : List Char)
deriving DecidableEq

/-- Moves to the next element of a list, over the comma that has to stand before every element but
the first. -/
def nextElement (first : Bool) (s : List Char) : Except Fault Upcoming :=
  match skipBlanks s with
  | [] => stopAt .endInList []
  | c :: rest =>
    if c = ']' then .ok (.closed rest)
    else if first then .ok (.item (c :: rest))
    else if c = ',' then
      match skipBlanks rest with
      | [] => stopAt .endInValue []
      | d :: rest => if d = ']' then stopAt .trailingComma (d :: rest) else .ok (.item (d :: rest))
    else stopAt .expectedListSeparator (c :: rest)

/-- Moves into the key of the next member of an object, over the comma that has to stand before
every member but the first. -/
def nextMember (first : Bool) (s : List Char) : Except Fault Upcoming :=
  match skipBlanks s with
  | [] => stopAt .endInObject []
  | c :: rest =>
    if c = '\x7d' then .ok (.closed rest)
    else if first then
      if c = '"' then .ok (.item rest) else stopAt .keyNotString (c :: rest)
    else if c = ',' then
      match skipBlanks rest with
      | [] => stopAt .endInValue []
      | d :: rest =>
        if d = '"' then .ok (.item rest)
        else if d = '\x7d' then stopAt .trailingComma (d :: rest)
        else stopAt .keyNotString (d :: rest)
    else stopAt .expectedObjectSeparator (c :: rest)

/-- Reads the colon behind a key. -/
def readColon (s : List Char) : Except Fault (List Char) :=
  match skipBlanks s with
  | [] => stopAt .endInObject []
  | c :: rest => if c = ':' then .ok rest else stopAt .expectedColon (c :: rest)

/-- Reads the items of a container up to its end, each changing what has been gathered: `next` moves
to the next item or behind the closing bracket.  Every round reads at least one character, so the
characters of the bound, at first the whole text, are enough to count the rounds; `missing` is what
is wrong if they are used up. -/
def foldItems {σ : Type} (next : Bool → List Char → Except Fault Upcoming)
    (missing : Malformation) (step : σ → Reader σ) :
    (bound : List Char) → (first : Bool) → (gathered : σ) → Reader σ
  | [], _, _, _ => stopAt missing []
  | _ :: bound, first, gathered, s =>
    match next first s with
    | .error fault => .error fault
    | .ok (.closed rest) => .ok (gathered, rest)
    | .ok (.item s) =>
      match step gathered s with
      | .error fault => .error fault
      | .ok (gathered, s) => foldItems next missing step bound false gathered s

/-- One more item in front of those that have been read. -/
def gather {α : Type} (item : Reader α) (gathered : List α) : Reader (List α) := fun s => do
  let (x, rest) ← item s
  return (x :: gathered, rest)

/-- Items in a row, behind the opening bracket of their container. -/
def readItems {α : Type} (next : Bool → List Char → Except Fault Upcoming)
    (missing : Malformation) (item : Reader α) : Reader (List α) := fun s =>
  (foldItems next missing (gather item) s true [] s).map
    fun (items, rest) => (items.reverse, rest)

/-- The elements of a list, behind its opening bracket. -/
def readElements {α : Type} (element : Reader α) : Reader (List α) :=
  readItems nextElement .endInList element

/-- The members of an object, behind its opening bracket. -/
def readMembers {α : Type} (member : Reader α) : Reader (List α) :=
  readItems nextMember .endInObject member

theorem skipBlanks_of_not_isBlank {c : Char} {s : List Char} (h : isBlank c = false) :
    skipBlanks (c :: s) = c :: s := by
  simp [skipBlanks, h]

end Json
end NodeApi
