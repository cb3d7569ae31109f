import MachineConsole.Number.Numeral

/-!
Contract: double precision numbers as 64-bit words, in exact integer arithmetic.

Owns:
- the fields of a word and the exact value of a finite one;
- rounding of an exact quotient to the nearest number, ties to the even significand;
- reading positional decimal text, conversion from integers, truncation to integers;
- the comparison under which a NaN differs from itself and both zeros are equal.

Does not own: written forms, which are `MachineConsole.Number.Shortest`.
-/

namespace MachineConsole.Number

/-- A double precision number, given by its bits. -/
structure Binary64 where
  bits : UInt64
deriving DecidableEq, Repr

namespace Binary64

/-- Whether the sign bit is set. -/
def isNegative (number : Binary64) : Bool :=
  twoTo 63 ≤ number.bits.toNat

/-- The word without its sign bit. -/
def magnitude (number : Binary64) : Nat :=
  number.bits.toNat % twoTo 63

/-- The biased exponent. -/
def exponentField (number : Binary64) : Nat :=
  number.magnitude / twoTo 52

/-- The stored part of the significand. -/
def fractionField (number : Binary64) : Nat :=
  number.magnitude % twoTo 52

def isFinite (number : Binary64) : Bool :=
  number.exponentField != 2047

def isNaN (number : Binary64) : Bool :=
  number.exponentField == 2047 && number.fractionField != 0

/-- The integer significand of a finite number. -/
def significand (number : Binary64) : Nat :=
  if number.exponentField = 0 then number.fractionField else number.fractionField + twoTo 52

/-- A finite number is `significand * 2 ^ (scale - 1074)`. -/
def scale (number : Binary64) : Nat :=
  number.exponentField - 1

def ofSignAndMagnitude (negative : Bool) (magnitude : Nat) : Binary64 :=
  ⟨UInt64.ofNat (if negative then magnitude + twoTo 63 else magnitude)⟩

def infinity (negative : Bool) : Binary64 :=
  ofSignAndMagnitude negative (2047 * twoTo 52)

def notANumber : Binary64 :=
  ofSignAndMagnitude false (2047 * twoTo 52 + twoTo 51)

/-- A quotient rounded to the nearest integer, ties to the even one. -/
def roundHalfEven (numerator denominator : Nat) : Nat :=
  let quotient := numerator / denominator
  let remainder := numerator % denominator
  if 2 * remainder < denominator then quotient
  else if denominator < 2 * remainder then quotient + 1
  else if quotient % 2 = 0 then quotient
  else quotient + 1

/-- The number nearest to `numerator / denominator`.

The quotient is scaled so that its significand has 53 bits, or by the least scale when that would
be a negative one. Adding the rounded significand to the exponent field carries a significand that
was rounded up to 54 bits into the next exponent. -/
def ofRatio (negative : Bool) (numerator denominator : Nat) : Binary64 :=
  if numerator = 0 then ofSignAndMagnitude negative 0
  else
    let scaled := numerator * twoTo 1074
    let whole := scaled / denominator
    let scale := Nat.log2 whole - 52
    let significand := roundHalfEven scaled (denominator * twoTo scale)
    let magnitude := scale * twoTo 52 + significand
    if 2047 * twoTo 52 ≤ magnitude then infinity negative
    else ofSignAndMagnitude negative magnitude

/-- The number nearest to an integer. -/
def ofInt (integer : Int) : Binary64 :=
  ofRatio (decide (integer < 0)) integer.natAbs 1

/-- The number nearest to `digits` with a decimal point `places` digits from the right. -/
def ofDecimal (negative : Bool) (digits : List Char) (places : Nat) : Binary64 :=
  ofRatio negative (ofDecimalDigits digits) (tenTo places)

/-- Positional decimal text: an optional sign, then digits with at most one point among them. -/
def ofText (text : List Char) : Binary64 :=
  let negative := text.head? == some '-'
  let unsigned := match text with
    | '-' :: rest => rest
    | '+' :: rest => rest
    | _ => text
  let whole := unsigned.takeWhile Char.isDigit
  let fraction := (unsigned.drop (whole.length + 1)).takeWhile Char.isDigit
  ofDecimal negative (whole ++ fraction) fraction.length

/-- The integer part of a finite number. -/
def truncate (number : Binary64) : Int :=
  let whole : Int := (number.significand * twoTo number.scale / twoTo 1074 : Nat)
  if number.isNegative then -whole else whole

/-- Equality of values: a NaN differs from itself and both zeros are equal. -/
def equals (left right : Binary64) : Bool :=
  !left.isNaN && !right.isNaN &&
    (left.bits == right.bits || (left.magnitude == 0 && right.magnitude == 0))

end Binary64

end MachineConsole.Number
