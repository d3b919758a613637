import NodeApi.Json.Scan

/-!
# Reading numbers

A numeral is cut into its digits first and evaluated afterwards.  Digits are taken into a 64-bit
significand as long as they fit; those that do not fit are dropped and only counted.

Main results:

- Theorem `absorb_of_le`: digits that fit are all taken in.
-/

namespace NodeApi
namespace Json

/-- The parts of a written number. -/
structure Numeral where
  negative : Bool
  whole : List Char
  /-- The digits behind the point, none if there is no point. -/
  fraction : List Char
  /-- The digits of the exponent, and whether it is negative. -/
  exponent : Option (Bool × List Char)
deriving DecidableEq

/-- Reads the digits before the point; a zero stands alone. -/
def readWhole (ending : Malformation) : Reader (List Char)
  | [] => stopAt ending []
  | c :: rest =>
    if c = '0' then
      match rest with
      | [] => .ok ([c], [])
      | d :: rest => if d.isDigit then stopAt .invalidNumber (d :: rest) else .ok ([c], d :: rest)
    else if c.isDigit then
      .ok (c :: rest.takeWhile Char.isDigit, rest.dropWhile Char.isDigit)
    else stopAt .invalidNumber (c :: rest)

/-- Reads digits, of which there has to be one. -/
def readDigits (ending : Malformation) : Reader (List Char)
  | [] => stopAt ending []
  | c :: rest =>
    if c.isDigit then .ok (c :: rest.takeWhile Char.isDigit, rest.dropWhile Char.isDigit)
    else stopAt .invalidNumber (c :: rest)

/-- Reads the point and the digits behind it, if there is one. -/
def readFraction (ending : Malformation) : Reader (List Char)
  | [] => .ok ([], [])
  | c :: rest => if c = '.' then readDigits ending rest else .ok ([], c :: rest)

/-- Reads the minus of a negative number. -/
def readMinus (s : List Char) : Bool × List Char :=
  match s with
  | '-' :: rest => (true, rest)
  | _ => (false, s)

/-- Reads the sign of an exponent, which may also be a plus. -/
def readSign (s : List Char) : Bool × List Char :=
  match s with
  | '+' :: rest => (false, rest)
  | _ => readMinus s

/-- Reads the exponent, if there is one. -/
def readExponent (ending : Malformation) : Reader (Option (Bool × List Char))
  | [] => .ok (none, [])
  | c :: rest =>
    if c = 'e' ∨ c = 'E' then
      let (negative, unsigned) := readSign rest
      match readDigits ending unsigned with
      | .ok (digits, rest) => .ok (some (negative, digits), rest)
      | .error fault => .error fault
    else .ok (none, c :: rest)

/-- Reads a numeral.  Where the text ends too soon, `ending` is what is wrong. -/
def readNumeral (ending : Malformation) : Reader Numeral := fun s => do
  let (negative, s) := readMinus s
  let (whole, s) ← readWhole ending s
  let (fraction, s) ← readFraction ending s
  let (exponent, s) ← readExponent ending s
  return (⟨negative, whole, fraction, exponent⟩, s)

/-- Takes digits into a total as long as it stays within a limit; gives the digits that are left. -/
def absorb (limit total : Nat) : List Char → Nat × List Char
  | [] => (total, [])
  | digit :: rest =>
    let next := 10 * total + (digit.toNat - '0'.toNat)
    if next ≤ limit then absorb limit next rest else (total, digit :: rest)

/-- The largest significand. -/
def maxSignificand : Nat :=
  0xFFFFFFFFFFFFFFFF

/-- The largest exponent that is looked at. -/
def maxExponent : Nat :=
  0x7FFFFFFF

/-- A power of ten; from the exponent 309 on it would be infinite. -/
def powerOfTen (exponent : Nat) : Float :=
  Float.ofScientific 1 false exponent

/-- A number divided by a power of ten, in steps that are themselves numbers. -/
def divideByPower (x : Float) (exponent : Nat) : Float :=
  if exponent ≤ 308 then x / powerOfTen exponent
  else if x == 0 then x
  else divideByPower (x / powerOfTen 308) (exponent - 308)
termination_by exponent

/-- A significand times a power of ten, rounded, unless it is too large for a number. -/
def scaled? (significand : Nat) (exponent : Int) : Option Float :=
  let x := (UInt64.ofNat significand).toFloat
  match exponent with
  | .negSucc n => some (divideByPower x (n + 1))
  | .ofNat n =>
    if n ≤ 308 then
      let y := x * powerOfTen n
      if y.isInf then none else some y
    else if x == 0 then some x
    else none

/-- A floating point number with the sign of the numeral. -/
def Numeral.signed (n : Numeral) (x : Float) : Number :=
  .float (if n.negative then -x else x)

/-- The value of a numeral without point and exponent.  A negative zero is no integer. -/
def Numeral.plainValue (n : Numeral) (significand : Nat) : Number :=
  if !n.negative then .integer significand
  else if significand = 0 ∨ 0x8000000000000000 < significand then
    n.signed (UInt64.ofNat significand).toFloat
  else .integer (-significand)

/-- The value of a numeral.  If it is too large, those digits of the exponent are given that need
not be looked at to tell so. -/
def Numeral.value (n : Numeral) : Except (List Char) Number :=
  let (significand, dropped) := absorb maxSignificand 0 n.whole
  if n.fraction.isEmpty ∧ n.exponent.isNone ∧ dropped.isEmpty then
    .ok (n.plainValue significand)
  else
    let (significand, left) := absorb maxSignificand significand n.fraction
    let scale : Int := dropped.length - (n.fraction.length - left.length : Nat)
    let scaled (scale : Int) : Except (List Char) Number :=
      match scaled? significand scale with
      | some x => .ok (n.signed x)
      | none => .error []
    match n.exponent with
    | none => scaled scale
    | some (negative, digits) =>
      match absorb maxExponent 0 digits with
      | (exponent, []) => scaled (if negative then scale - exponent else scale + exponent)
      | (_, _ :: unseen) =>
        if significand ≠ 0 ∧ !negative then .error unseen else .ok (n.signed 0)

/-- Reads a number. -/
def readNumber : Reader Number := fun s => do
  let (numeral, rest) ← readNumeral .endInValue s
  match numeral.value with
  | .ok x => return (x, rest)
  | .error unseen => stopBefore .numberOutOfRange (unseen ++ rest)

/-- Digits whose value stays within the limit are all taken in. -/
theorem absorb_of_le {limit total : Nat} {digits : List Char}
    (h : digits.foldl (fun n d => 10 * n + (d.toNat - '0'.toNat)) total ≤ limit) :
    absorb limit total digits =
      (digits.foldl (fun n d => 10 * n + (d.toNat - '0'.toNat)) total, []) := by
  induction digits generalizing total with
  | nil => rfl
  | cons d ds ih =>
    have hgrow : ∀ (ds : List Char) (n : Nat),
        n ≤ ds.foldl (fun n d => 10 * n + (d.toNat - '0'.toNat)) n := fun ds => by
      induction ds with
      | nil => exact fun n => Nat.le_refl n
      | cons d ds ih => exact fun n => Nat.le_trans (by simp only; omega) (ih _)
    have hnext := Nat.le_trans (hgrow ds _) h
    rw [absorb]
    simp only [hnext, if_true]
    exact ih h

end Json
end NodeApi
