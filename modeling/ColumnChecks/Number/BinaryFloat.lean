import ColumnChecks.Number.Integer

/-!
Binary floating point by bit patterns: rounding a quotient to the nearest float, the quotient that
a float denotes, conversion between formats and the total order of bit patterns.
-/

namespace ColumnChecks.Number

structure BinaryFormat where
  exponentBits : Nat
  fractionBits : Nat

def binary32 : BinaryFormat := ⟨8, 23⟩

def binary64 : BinaryFormat := ⟨11, 52⟩

/-- The quotient rounded to the nearest natural number, a tie to the even one. -/
def roundDiv (numerator denominator : Nat) : Nat :=
  let quotient := numerator / denominator
  let twice := 2 * (numerator % denominator)
  if twice > denominator || (twice = denominator && quotient % 2 = 1) then quotient + 1
  else quotient

def unscale (numerator denominator : Nat) (exponent : Int) : Nat × Nat :=
  if 0 ≤ exponent then (numerator, denominator * 2 ^ exponent.toNat)
  else (numerator * 2 ^ (-exponent).toNat, denominator)

namespace BinaryFormat

variable (format : BinaryFormat)

/-- The pattern of positive infinity; the greater patterns below the sign bit are not numbers. -/
def infinity : Nat :=
  (2 ^ format.exponentBits - 1) * 2 ^ format.fractionBits

def signBit : Nat :=
  2 ^ (format.exponentBits + format.fractionBits)

def quietBit : Nat :=
  2 ^ (format.fractionBits - 1)

def leastExponent : Int :=
  2 - 2 ^ (format.exponentBits - 1) - format.fractionBits

def ofRatio (numerator denominator : Nat) : Nat :=
  if numerator = 0 then 0
  else
    let estimate : Int := numerator.log2 - denominator.log2 - format.fractionBits - 1
    let (scaled, divisor) := unscale numerator denominator estimate
    let fits := scaled / divisor < 2 ^ (format.fractionBits + 1)
    let normal := if fits then estimate else estimate + 1
    let exponent := max format.leastExponent normal
    let (scaled, divisor) := unscale numerator denominator exponent
    min format.infinity
      ((exponent - format.leastExponent).toNat * 2 ^ format.fractionBits + roundDiv scaled divisor)

def significand (pattern : Nat) : Nat × Int :=
  let fraction := pattern % 2 ^ format.fractionBits
  let biased := pattern / 2 ^ format.fractionBits
  if biased = 0 then (fraction, format.leastExponent)
  else (2 ^ format.fractionBits + fraction, format.leastExponent + biased - 1)

def toRatio (pattern : Nat) : Nat × Nat :=
  let (integer, exponent) := format.significand pattern
  if 0 ≤ exponent then (integer * 2 ^ exponent.toNat, 1) else (integer, 2 ^ (-exponent).toNat)

/-- The pattern in another format: the nearest number, or a quiet not-a-number with the leading
bits of the fraction. -/
def convert (target : BinaryFormat) (pattern : Nat) : Nat :=
  let sign := if format.signBit ≤ pattern then target.signBit else 0
  let magnitude := pattern % format.signBit
  if magnitude < format.infinity then
    let (numerator, denominator) := format.toRatio magnitude
    sign + target.ofRatio numerator denominator
  else if magnitude = format.infinity then sign + target.infinity
  else
    let payload := magnitude - format.infinity
    let shifted := payload * 2 ^ target.fractionBits / 2 ^ format.fractionBits
    sign + target.infinity + (shifted ||| target.quietBit)

end BinaryFormat

def totalOrderKey (bits : UInt64) : Nat :=
  if bits.toNat < 2 ^ 63 then 2 ^ 63 + bits.toNat else 2 ^ 64 - 1 - bits.toNat

end ColumnChecks.Number
