import NodeApi.Json.Basic
import NodeApi.Text.Graphic

/-!
# Errors of reading JSON

A text is refused because it is not JSON, and then the error has a place in the text, or because a
value in it is not of the form that is wanted there.  While a text is being read the place is known
only by what is still unread; afterwards it is given as a line and a column.

Main results:

- Theorem `Position.advance_lines`: the line counts line breaks, the column the bytes behind the
  last one.
-/

namespace NodeApi
namespace Json

/-- What keeps a text from being JSON. -/
inductive Malformation where
  | endInValue
  | endInList
  | endInObject
  | endInString
  | expectedValue
  | expectedKeyword
  | expectedListSeparator
  | expectedObjectSeparator
  | expectedColon
  | keyNotString
  | trailingComma
  | trailingCharacters
  | invalidNumber
  | numberOutOfRange
  | invalidEscape
  | loneSurrogate
  | unfinishedPair
  | controlCharacter
  | tooDeep
  | keyNotNumeric
  | expectedQuote
deriving DecidableEq

/-- The wording of a malformation. -/
def Malformation.text : Malformation → String
  | endInValue => "EOF while parsing a value"
  | endInList => "EOF while parsing a list"
  | endInObject => "EOF while parsing an object"
  | endInString => "EOF while parsing a string"
  | expectedValue => "expected value"
  | expectedKeyword => "expected ident"
  | expectedListSeparator => "expected `,` or `]`"
  | expectedObjectSeparator => "expected `,` or `\x7d`"
  | expectedColon => "expected `:`"
  | keyNotString => "key must be a string"
  | trailingComma => "trailing comma"
  | trailingCharacters => "trailing characters"
  | invalidNumber => "invalid number"
  | numberOutOfRange => "number out of range"
  | invalidEscape => "invalid escape"
  | loneSurrogate => "lone leading surrogate in hex escape"
  | unfinishedPair => "unexpected end of hex escape"
  | controlCharacter => "control character (\\u0000-\\u001F) found while parsing a string"
  | tooDeep => "recursion limit exceeded"
  | keyNotNumeric => "invalid value: expected key to be a number in quotes"
  | expectedQuote => "expected `\"`"

/-- Whether the text is only too short. -/
def Malformation.isEnd : Malformation → Bool
  | endInValue | endInList | endInObject | endInString => true
  | _ => false

/-- What was found in the place of something else. -/
inductive Found where
  | null
  | bool (value : Bool)
  | number (value : Number)
  | string (value : String)
  | list
  | object
deriving DecidableEq

/-- How a value is mentioned in an error. -/
def Found.ofJson : Json → Found
  | .null => null
  | .bool value => bool value
  | .number value => number value
  | .string value => string value
  | .array _ => list
  | .object _ => object

/-- The wording of what was found. -/
def Found.text : Found → String
  | null => "null"
  | bool value => "boolean `" ++ toString value ++ "`"
  | number (.integer value) => "integer `" ++ String.ofList (integerText value) ++ "`"
  | number (.float value) => "floating point `" ++ String.ofList (floatText value) ++ "`"
  | string value => "string " ++ Text.quoted value
  | list => "sequence"
  | object => "map"

/-- How a well-formed value differs from what is wanted. -/
inductive Mismatch where
  | wrongType (found : Found) (wanted : String)
  | outOfRange (value : Int) (wanted : String)
  | missingField (name : String)
  | repeatedField (name : String)
  | tooShort (length : Nat) (record : String) (fields : Nat)
  | tooLong (length : Nat)
deriving DecidableEq

/-- The wording of a mismatch. -/
def Mismatch.text : Mismatch → String
  | wrongType found wanted => "invalid type: " ++ found.text ++ ", expected " ++ wanted
  | outOfRange value wanted =>
    "invalid value: integer `" ++ String.ofList (integerText value) ++ "`, expected " ++ wanted
  | missingField name => "missing field `" ++ name ++ "`"
  | repeatedField name => "duplicate field `" ++ name ++ "`"
  | tooShort length record fields =>
    "invalid length " ++ toString length ++ ", expected struct " ++ record ++ " with " ++
      toString fields ++ if fields = 1 then " element" else " elements"
  | tooLong length =>
    "invalid length " ++ toString length ++ ", expected fewer elements in array"

/-- The number of bytes of a text. -/
def byteCount : List Char → Nat
  | [] => 0
  | c :: rest => c.utf8Size + byteCount rest

/-- A place in a text: the line, counted from one, and the bytes of it that lie before. -/
structure Position where
  line : Nat
  column : Nat
deriving DecidableEq

namespace Position

/-- The beginning of a text. -/
def start : Position :=
  ⟨1, 0⟩

/-- The place behind one more character. -/
def next (p : Position) (c : Char) : Position :=
  if c = '\n' then ⟨p.line + 1, 0⟩ else ⟨p.line, p.column + c.utf8Size⟩

/-- The place behind a stretch of text. -/
def advance (p : Position) (cs : List Char) : Position :=
  cs.foldl next p

/-- The place some bytes further, or the end of the text. -/
def ahead (p : Position) (bytes : Nat) : List Char → Position
  | [] => p
  | c :: rest =>
    if bytes = 0 then p
    else if bytes < c.utf8Size then ⟨p.line, p.column + bytes⟩
    else (p.next c).ahead (bytes - c.utf8Size) rest

theorem advance_column (p : Position) {cs : List Char} (h : '\n' ∉ cs) :
    p.advance cs = ⟨p.line, p.column + byteCount cs⟩ := by
  induction cs generalizing p with
  | nil => rfl
  | cons c cs ih =>
    simp only [List.mem_cons, not_or] at h
    obtain ⟨hc, hcs⟩ := h
    have := ih (p.next c) hcs
    simp only [advance, List.foldl_cons] at this ⊢
    rw [this]
    simp [next, Ne.symm hc, byteCount, Nat.add_assoc]

theorem advance_line (p : Position) (cs : List Char) :
    (p.advance cs).line = p.line + cs.count '\n' := by
  induction cs generalizing p with
  | nil => rfl
  | cons c cs ih =>
    have := ih (p.next c)
    simp only [advance, List.foldl_cons] at this ⊢
    rw [this]
    by_cases hc : c = '\n'
    · subst hc
      simp only [next, if_true, List.count_cons_self]
      omega
    · simp only [next, if_neg hc, List.count_cons_of_ne hc]

/-- The line counts line breaks, the column the bytes behind the last one. -/
theorem advance_lines (p : Position) (before : List Char) {last : List Char} (h : '\n' ∉ last) :
    p.advance (before ++ '\n' :: last) =
      ⟨p.line + before.count '\n' + 1, byteCount last⟩ := by
  have hbreak : (p.advance before).next '\n' = ⟨p.line + before.count '\n' + 1, 0⟩ := by
    simp [next, advance_line]
  calc p.advance (before ++ '\n' :: last) = ((p.advance before).next '\n').advance last := by
        simp [advance]
    _ = ⟨p.line + before.count '\n' + 1, byteCount last⟩ := by
        rw [hbreak, advance_column _ h, Nat.zero_add]

end Position

/-- Why reading stopped: the text is malformed so many bytes behind the beginning of what was then
unread, or a value is not as wanted. -/
inductive Fault where
  | malformed (what : Malformation) (unread : List Char) (bytes : Nat)
  | mismatch (what : Mismatch)
deriving DecidableEq

/-- Why a text or a value was refused. -/
inductive Error where
  | malformed (what : Malformation) (place : Option Position)
  | mismatch (what : Mismatch)
deriving DecidableEq

/-- The place in a text some bytes behind the beginning of its unread part. -/
def locate (text unread : List Char) (bytes : Nat) : Position :=
  (Position.start.advance (text.take (text.length - unread.length))).ahead bytes unread

/-- The fault as an error of the whole text. -/
def Fault.toError (text : List Char) : Fault → Error
  | malformed what unread bytes => .malformed what (some (locate text unread bytes))
  | mismatch what => .mismatch what

/-- The wording of an error. -/
def Error.message : Error → String
  | malformed what none => what.text
  | malformed what (some place) =>
    what.text ++ " at line " ++ toString place.line ++ " column " ++ toString place.column
  | mismatch what => what.text

/-- The three ways to be refused. -/
inductive Error.Kind where
  | unfinished
  | malformed
  | unfit
deriving DecidableEq

/-- In which way a text or a value was refused. -/
def Error.kind : Error → Error.Kind
  | malformed what _ => if what.isEnd then .unfinished else .malformed
  | mismatch _ => .unfit

end Json
end NodeApi
