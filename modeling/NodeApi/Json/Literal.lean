import NodeApi.Json.Scan

/-!
# Reading strings

A string runs up to the first quote that is not escaped.  Characters beyond the basic plane are
escaped as a pair of surrogates, and a surrogate without its partner is refused.

Main results:

- Theorem `readHex_four`: four hexadecimal digits are read as one number.
-/

namespace NodeApi
namespace Json

/-- The value of a hexadecimal digit. -/
def hexValue? (c : Char) : Option Nat :=
  if c.isDigit then some (c.toNat - '0'.toNat)
  else if 'a' ≤ c ∧ c ≤ 'f' then some (c.toNat - 'a'.toNat + 10)
  else if 'A' ≤ c ∧ c ≤ 'F' then some (c.toNat - 'A'.toNat + 10)
  else none

/-- Reads four hexadecimal digits.  Four bytes are looked at, whatever they hold. -/
def readHex (s : List Char) : Except Fault (Nat × List Char) :=
  if byteCount (s.take 4) < 4 then stopAt .endInString []
  else
    match s with
    | a :: b :: c :: d :: rest =>
      match hexValue? a, hexValue? b, hexValue? c, hexValue? d with
      | some a, some b, some c, some d => .ok (((a * 16 + b) * 16 + c) * 16 + d, rest)
      | _, _, _, _ => .error (.malformed .invalidEscape s 4)
    | _ => .error (.malformed .invalidEscape s 4)

/-- Reads the second half of a pair of surrogates. -/
def readLowSurrogate (high : Nat) : List Char → Except Fault (Char × List Char)
  | [] => stopAt .endInString []
  | '\\' :: [] => stopAt .endInString []
  | '\\' :: 'u' :: rest => do
    let (low, rest) ← readHex rest
    if 0xDC00 ≤ low ∧ low ≤ 0xDFFF then
      return (Char.ofNat ((high - 0xD800) * 0x400 + (low - 0xDC00) + 0x10000), rest)
    else stopBefore .loneSurrogate rest
  | '\\' :: rest => stopAt .unfinishedPair rest
  | s => stopAt .unfinishedPair s

/-- Reads what stands behind a backslash. -/
def readEscape : Reader Char
  | [] => stopAt .endInString []
  | '"' :: rest => .ok ('"', rest)
  | '\\' :: rest => .ok ('\\', rest)
  | '/' :: rest => .ok ('/', rest)
  | 'b' :: rest => .ok ('\x08', rest)
  | 'f' :: rest => .ok ('\x0c', rest)
  | 'n' :: rest => .ok ('\n', rest)
  | 'r' :: rest => .ok ('\r', rest)
  | 't' :: rest => .ok ('\t', rest)
  | 'u' :: rest => do
    let (code, rest) ← readHex rest
    if 0xD800 ≤ code ∧ code ≤ 0xDBFF then readLowSurrogate code rest
    else if 0xDC00 ≤ code ∧ code ≤ 0xDFFF then stopBefore .loneSurrogate rest
    else return (Char.ofNat code, rest)
  | s => stopAt .invalidEscape s

/-- Reads characters up to the closing quote, those read so far in reverse.  Every round reads at
least one character, so the characters of `bound` count the rounds. -/
def readCharacters : (bound gathered : List Char) → Reader (List Char)
  | [], _, _ => stopAt .endInString []
  | _ :: _, _, [] => stopAt .endInString []
  | _ :: bound, gathered, c :: rest =>
    if c = '"' then .ok (gathered.reverse, rest)
    else if c = '\\' then
      match readEscape rest with
      | .ok (c, rest) => readCharacters bound (c :: gathered) rest
      | .error fault => .error fault
    else if c.toNat < 0x20 then stopAt .controlCharacter (c :: rest)
    else readCharacters bound (c :: gathered) rest

/-- Reads a string behind its opening quote. -/
def readLiteral : Reader String := fun s => do
  let (characters, rest) ← readCharacters s [] s
  return (String.ofList characters, rest)

/-- Four hexadecimal digits are read as one number. -/
theorem readHex_four {a b c d : Char} {i j k l : Nat} (rest : List Char) (ha : hexValue? a = some i)
    (hb : hexValue? b = some j) (hc : hexValue? c = some k) (hd : hexValue? d = some l) :
    readHex (a :: b :: c :: d :: rest) = .ok (((i * 16 + j) * 16 + k) * 16 + l, rest) := by
  have hsize : ¬byteCount ((a :: b :: c :: d :: rest).take 4) < 4 := by
    have := a.utf8Size_pos
    have := b.utf8Size_pos
    have := c.utf8Size_pos
    have := d.utf8Size_pos
    simp only [List.take_succ_cons, byteCount]
    omega
  rw [readHex, if_neg hsize]
  simp [ha, hb, hc, hd]

end Json
end NodeApi
