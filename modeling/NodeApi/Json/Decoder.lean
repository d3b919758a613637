import NodeApi.Json.Reader
import NodeApi.Json.Skip

/-!
# Decoders

A decoder makes a value of a given type from JSON, either from a value that has been read or
directly from a text.  From a text it finds the first fault in the order of the text, whether the
text is malformed there or merely not what is wanted.

Main results:

- Structure `Decoder`: a way from JSON to a type, by value and by text.
- Definitions `string`, `boolean`, `word`, `optional`, `list`, `members` and `wordMembers`: the
  decoders that records are made of.
-/

namespace NodeApi
namespace Json

/-- How a type is decoded. -/
structure Decoder (α : Type) where
  /-- Reads the front of a text, which may nest so many containers. -/
  read : Nat → Reader α
  /-- Decodes a value. -/
  ofJson : Json → Except Error α

/-- A value that is not what is wanted. -/
def unfit {α : Type} (found : Json) (wanted : String) : Except Error α :=
  .error (.mismatch (.wrongType (.ofJson found) wanted))

/-- The front of a text is not what is wanted there.  It is still read, as far as it is no
container, and a fault in it comes first. -/
def unfitText {α : Type} (s : List Char) (wanted : String) : Except Fault α :=
  match s with
  | '[' :: _ => .error (.mismatch (.wrongType .list wanted))
  | '\x7b' :: _ => .error (.mismatch (.wrongType .object wanted))
  | s =>
    match readScalar s with
    | .ok (found, _) => .error (.mismatch (.wrongType (.ofJson found) wanted))
    | .error fault => .error fault

/-- Goes behind an opening bracket, with the budget that is left inside. -/
def enter {α : Type} (depth : Nat) (s : List Char) (inside : Nat → Reader α) :
    Except Fault (α × List Char) :=
  match depth with
  | 0 => stopAt .tooDeep s
  | inner + 1 => inside inner s.tail

namespace Decoder

variable {α β : Type}

/-- Decodes a whole text. -/
def ofText (d : Decoder α) (text : String) : Except Error α :=
  readAll (d.read maxDepth) text

/-- A decoded value in another form. -/
def map (f : α → β) (d : Decoder α) : Decoder β where
  read depth s := (d.read depth s).map fun (x, rest) => (f x, rest)
  ofJson json := (d.ofJson json).map f

/-- A string. -/
def string : Decoder String where
  read _ s :=
    match skipBlanks s with
    | '"' :: rest => readLiteral rest
    | s => unfitText s "a string"
  ofJson
    | .string s => .ok s
    | json => unfit json "a string"

/-- A truth value. -/
def boolean : Decoder Bool where
  read _ s :=
    match skipBlanks s with
    | 't' :: rest => readKeyword true ['r', 'u', 'e'] rest
    | 'f' :: rest => readKeyword false ['a', 'l', 's', 'e'] rest
    | s => unfitText s "a boolean"
  ofJson
    | .bool b => .ok b
    | json => unfit json "a boolean"

/-- A number as a count of 32 bits. -/
def wordOfNumber : Number → Except Mismatch UInt32
  | .integer value =>
    if 0 ≤ value ∧ value < 0x100000000 then .ok (UInt32.ofNat value.toNat)
    else .error (.outOfRange value "u32")
  | .float value => .error (.wrongType (.number (.float value)) "u32")

/-- Reads a count of 32 bits from its first character on. -/
def readWord (s : List Char) : Except Fault (UInt32 × List Char) := do
  let (n, rest) ← readNumber s
  match wordOfNumber n with
  | .ok word => return (word, rest)
  | .error what => .error (.mismatch what)

/-- A count of 32 bits. -/
def word : Decoder UInt32 where
  read _ s :=
    match skipBlanks s with
    | [] => stopAt .endInValue []
    | c :: rest =>
      if c = '-' ∨ c.isDigit then readWord (c :: rest) else unfitText (c :: rest) "u32"
  ofJson
    | .number n => (wordOfNumber n).mapError .mismatch
    | json => unfit json "u32"

/-- A value or `null`. -/
def optional (d : Decoder α) : Decoder (Option α) where
  read depth s :=
    match skipBlanks s with
    | 'n' :: rest => readKeyword none ['u', 'l', 'l'] rest
    | s => (d.read depth s).map fun (x, rest) => (some x, rest)
  ofJson
    | .null => .ok none
    | json => (d.ofJson json).map some

/-- A list. -/
def list (d : Decoder α) : Decoder (List α) where
  read depth s :=
    match skipBlanks s with
    | '[' :: rest => enter depth ('[' :: rest) fun inner => readElements (d.read inner)
    | s => unfitText s "a sequence"
  ofJson
    | .array elements => elements.mapM d.ofJson
    | json => unfit json "a sequence"

/-- The members of an object, in order and with their repetitions. -/
def members (d : Decoder α) : Decoder (List (String × α)) where
  read depth s :=
    match skipBlanks s with
    | '\x7b' :: rest =>
      enter depth ('\x7b' :: rest) fun inner => readMembers (readMember (d.read inner))
    | s => unfitText s "a map"
  ofJson
    | .object members => members.mapM fun (key, value) => do return (key, ← d.ofJson value)
    | json => unfit json "a map"

/-- A key that holds a count of 32 bits and nothing else. -/
def wordOfKey (key : String) : Except Error UInt32 :=
  match key.toList with
  | [] => .error (.malformed .keyNotNumeric none)
  | c :: rest =>
    if c = '-' ∨ c.isDigit then
      match readWord (c :: rest) with
      | .error fault => .error (fault.toError (c :: rest))
      | .ok (word, []) => .ok word
      | .ok (_, _ :: _) => .error (.malformed .keyNotNumeric none)
    else .error (.malformed .keyNotNumeric none)

/-- Reads a key that holds a count of 32 bits, from behind its opening quote on. -/
def readWordKey (s : List Char) : Except Fault (UInt32 × List Char) :=
  match s with
  | [] => stopBefore .keyNotNumeric []
  | c :: rest =>
    if c = '-' ∨ c.isDigit then do
      let (word, rest) ← readWord (c :: rest)
      match rest with
      | '"' :: rest => return (word, rest)
      | rest => stopAt .expectedQuote rest
    else stopBefore .keyNotNumeric (c :: rest)

/-- The members of an object whose keys are counts of 32 bits. -/
def wordMembers (d : Decoder α) : Decoder (List (UInt32 × α)) where
  read depth s :=
    match skipBlanks s with
    | '\x7b' :: rest => enter depth ('\x7b' :: rest) fun inner => readMembers fun s => do
        let (key, s) ← readWordKey s
        let (x, rest) ← d.read inner (← readColon s)
        return ((key, x), rest)
    | s => unfitText s "a map"
  ofJson
    | .object members => members.mapM fun (key, value) => do
        return (← wordOfKey key, ← d.ofJson value)
    | json => unfit json "a map"

end Decoder
end Json
end NodeApi
