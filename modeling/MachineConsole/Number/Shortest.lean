import MachineConsole.Number.Binary64

/-!
Contract: the written form of a double precision number.

Owns: `Binary64.text`: the fewest decimal digits that read back to the same number, in positional
notation without an exponent.

The reals that round to a finite number form an interval around it. The written form is a multiple
of the greatest power of ten that has a multiple in this interval; of two such multiples it is the
nearer one, and of two at equal distance the greater.
-/

namespace MachineConsole.Number

namespace Binary64

/-- The reals that round to a positive finite number, in units of `2 ^ -1076`. -/
structure RoundingInterval where
  low : Nat
  value : Nat
  high : Nat
  closed : Bool

/-- The neighbour below is half as far away when the significand is the least one of its scale. -/
def roundingInterval (number : Binary64) : RoundingInterval :=
  let significand := number.significand
  let unit := twoTo number.scale
  let below := if significand = twoTo 52 && 0 < number.scale then unit else 2 * unit
  { low := 4 * significand * unit - below
    value := 4 * significand * unit
    high := 4 * significand * unit + 2 * unit
    closed := significand % 2 == 0 }

/-- The multiple of `unit` inside the interval that is nearest to its value. -/
def RoundingInterval.multiple? (interval : RoundingInterval) (unit : Nat) : Option Nat :=
  let lower := interval.value / unit
  let upper := lower + 1
  let lowerFits := if interval.closed then interval.low ≤ lower * unit
    else interval.low < lower * unit
  let upperFits := if interval.closed then upper * unit ≤ interval.high
    else upper * unit < interval.high
  if lowerFits && upperFits then
    if 2 * (interval.value - lower * unit) < unit then some lower else some upper
  else if lowerFits then some lower
  else if upperFits then some upper
  else none

/-- The interval with every bound multiplied by a factor. -/
def RoundingInterval.scaledBy (interval : RoundingInterval) (factor : Nat) : RoundingInterval :=
  { interval with
    low := interval.low * factor
    value := interval.value * factor
    high := interval.high * factor }

/-- Digits followed by as many zeros as the power of ten says, when it is not a negative one. -/
def wholeMultiple? (interval : RoundingInterval) (power : Nat) : Option (List Char) :=
  (interval.multiple? (tenTo power * twoTo 1076)).map fun multiple =>
    Nat.toDigits 10 multiple ++ List.replicate power '0'

/-- Digits with a decimal point `places` digits from the right. -/
def fractionMultiple? (interval : RoundingInterval) (places : Nat) : Option (List Char) :=
  ((interval.scaledBy (tenTo places)).multiple? (twoTo 1076)).map fun multiple =>
    let digits := Nat.toDigits 10 multiple
    let padded := List.replicate (places + 1 - digits.length) '0' ++ digits
    let whole := padded.take (padded.length - places)
    let fraction := ((padded.drop (padded.length - places)).reverse.dropWhile (· == '0')).reverse
    if fraction = [] then whole else whole ++ '.' :: fraction

/-- The greatest power of ten below `bound` with a multiple in the interval. -/
def greatestWhole? (interval : RoundingInterval) : Nat → Option (List Char)
  | 0 => none
  | bound + 1 =>
    match wholeMultiple? interval bound with
    | some text => some text
    | none => greatestWhole? interval bound

/-- The digits of a positive finite number. No finite number reaches `10 ^ 309`, and every one has
a multiple of `10 ^ -324` in its interval. -/
def positiveText (interval : RoundingInterval) : List Char :=
  match greatestWhole? interval 310 with
  | some text => text
  | none => ((List.range 325).findSome? (fractionMultiple? interval)).getD ['0']

/-- The written form of a number. -/
def text (number : Binary64) : String :=
  if number.isNaN then "NaN"
  else
    let sign := if number.isNegative then "-" else ""
    if !number.isFinite then sign ++ "inf"
    else if number.magnitude = 0 then sign ++ "0"
    else sign ++ String.ofList (positiveText number.roundingInterval)

end Binary64

end MachineConsole.Number
