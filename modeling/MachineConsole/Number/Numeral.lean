/-!
Contract: whole numbers written with digits.

Owns:
- powers of two and of ten;
- reading decimal and hexadecimal digit strings as exact numbers;
- writing numbers in hexadecimal, in full or at a fixed width.

Does not own: signs, bounds and radix marks, which belong to the formats that use them.
-/

namespace MachineConsole.Number

/-- A power of two. -/
def twoTo (exponent : Nat) : Nat :=
  Nat.pow 2 exponent

/-- A power of ten. -/
def tenTo (exponent : Nat) : Nat :=
  Nat.pow 10 exponent

/-- The number written by decimal digits. -/
def ofDecimalDigits (digits : List Char) : Nat :=
  Nat.ofDigitChars 10 digits 0

/-- Whether a character is a hexadecimal digit. -/
def isHexDigit (character : Char) : Bool :=
  character.isDigit || ('a' ≤ character && character ≤ 'f') ||
    ('A' ≤ character && character ≤ 'F')

/-- The value of a hexadecimal digit. -/
def hexDigitValue (character : Char) : Nat :=
  if character.isDigit then character.toNat - '0'.toNat
  else if 'a' ≤ character && character ≤ 'f' then character.toNat - 'a'.toNat + 10
  else character.toNat - 'A'.toNat + 10

/-- The number written by hexadecimal digits. -/
def ofHexDigits (digits : List Char) : Nat :=
  digits.foldl (fun value digit => 16 * value + hexDigitValue digit) 0

/-- The upper case hexadecimal digit of a value below sixteen. -/
def upperHexDigit (value : Nat) : Char :=
  if value < 10 then Char.ofNat ('0'.toNat + value) else Char.ofNat ('A'.toNat + (value - 10))

/-- The last `width` hexadecimal digits of a number. -/
def hexAtWidth : Nat → Nat → List Char
  | 0, _ => []
  | width + 1, number => hexAtWidth width (number / 16) ++ [upperHexDigit (number % 16)]

/-- A number in upper case hexadecimal digits. -/
def upperHex (number : Nat) : String :=
  String.ofList ((Nat.toDigits 16 number).map Char.toUpper)

/-- A number in lower case hexadecimal digits. -/
def lowerHex (number : Nat) : String :=
  String.ofList (Nat.toDigits 16 number)

end MachineConsole.Number
