import NodeApi.Decimal.Shortest

/-!
# Numbers of a JSON text

A number without fraction and exponent that fits 64 bits, with a sign or without one, is kept
exactly; every other number is a binary floating point number.

An integer is written with all its digits.  A floating point number is written as the shortest
decimal that rounds to it, and always so that it cannot be taken for an integer.

Main results:

- Theorem `Number.fits_ofNatural`: every count of 64 bits fits.
- Definition `numberText`: the text of a number.
-/

namespace NodeApi
namespace Json

/-- A number of a JSON text. -/
inductive Number where
  | integer (value : Int)
  | float (value : Float)
deriving DecidableEq

/-- The integers that are kept exactly. -/
def Number.Fits (value : Int) : Prop :=
  -0x8000000000000000 ≤ value ∧ value < 0x10000000000000000

instance (value : Int) : Decidable (Number.Fits value) :=
  inferInstanceAs (Decidable (_ ∧ _))

theorem Number.fits_ofNatural {n : Nat} (h : n < 0x10000000000000000) : Number.Fits n := by
  unfold Number.Fits
  omega

/-! ## How numbers are written -/

/-- The decimal digits of a count. -/
def naturalText (n : Nat) : List Char :=
  Nat.toDigits 10 n

/-- An integer, a negative one with a sign. -/
def integerText : Int → List Char
  | .ofNat n => naturalText n
  | .negSucc n => '-' :: naturalText (n + 1)

/-- A positive decimal.  From `10 ^ -5` on and below `10 ^ 16` it is written with a point at its
place, otherwise with one digit before the point and a signed exponent. -/
def decimalText (d : Decimal) : List Char :=
  let digits := (naturalText d.digits).reverse.dropWhile (· = '0') |>.reverse
  let zeros := (naturalText d.digits).length - digits.length
  let exponent := d.exponent + zeros
  let point := exponent + digits.length
  if 0 ≤ exponent ∧ point ≤ 16 then
    digits ++ List.replicate exponent.toNat '0' ++ ['.', '0']
  else if 0 < point ∧ point ≤ 16 then
    digits.take point.toNat ++ '.' :: digits.drop point.toNat
  else if -5 < point ∧ point ≤ 0 then
    ['0', '.'] ++ List.replicate (-point).toNat '0' ++ digits
  else
    let mantissa := match digits with
      | first :: second :: rest => first :: '.' :: second :: rest
      | short => short
    mantissa ++ 'e' :: (if 0 < point then ['+'] else []) ++ integerText (point - 1)

/-- A finite floating point number; zero keeps its sign. -/
def floatText (x : Float) : List Char :=
  let sign := if x.toBits < 0x8000000000000000 then [] else ['-']
  let b := Decimal.Binary.ofFloat x
  sign ++ if b.significand = 0 then ['0', '.', '0'] else decimalText b.shortest

/-- The text of a number. -/
def numberText : Number → List Char
  | .integer value => integerText value
  | .float value => floatText value

end Json
end NodeApi
