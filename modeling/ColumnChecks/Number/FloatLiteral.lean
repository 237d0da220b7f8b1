import ColumnChecks.Number.BinaryFloat

/-!
Floating point literals: a sign, then digits with an optional point and exponent, or one of the
words for infinity and not-a-number. The number written is rounded once, to the format asked for.
-/

namespace ColumnChecks.Number

structure Decimal where
  digits : List Char
  exponent : Int

namespace Decimal

/-- Beyond this power of ten no format has finite numbers, and below its inverse every format
rounds to zero. -/
def extreme : Int := 400

def toPattern (format : BinaryFormat) (decimal : Decimal) : Nat :=
  let significant := decimal.digits.dropWhile (· = '0')
  let magnitude := significant.length + decimal.exponent
  if significant.isEmpty || magnitude < -extreme then 0
  else if extreme < magnitude then format.infinity
  else if 0 ≤ decimal.exponent then
    format.ofRatio (ofDigits significant * 10 ^ decimal.exponent.toNat) 1
  else format.ofRatio (ofDigits significant) (10 ^ (-decimal.exponent).toNat)

end Decimal

def exponentLimit : Nat := 65536

/-- The size that the digits of an exponent denote; digits after the limit is reached count for
nothing. -/
def exponentSize (digits : List Char) : Nat :=
  digits.foldl (fun total digit =>
    if total < exponentLimit then total * 10 + (digit.toNat - '0'.toNat) else total) 0

def exponent? : List Char → Option Int
  | [] => some 0
  | char :: rest =>
    let (negative, digits) := splitSign rest
    if (char = 'e' || char = 'E') && (natural? digits).isSome then
      let size : Int := exponentSize digits
      some (if negative then -size else size)
    else none

def decimal? (chars : List Char) : Option Decimal :=
  let whole := chars.takeWhile Char.isDigit
  let rest := chars.dropWhile Char.isDigit
  let (fraction, rest) := match rest with
    | '.' :: rest => (rest.takeWhile Char.isDigit, rest.dropWhile Char.isDigit)
    | rest => ([], rest)
  if (whole ++ fraction).isEmpty then none
  else (exponent? rest).map fun exponent => ⟨whole ++ fraction, exponent - fraction.length⟩

def unsignedFloat? (format : BinaryFormat) (chars : List Char) : Option Nat :=
  let word := String.ofList (chars.map Char.toLower)
  if word = "inf" || word = "infinity" then some format.infinity
  else if word = "nan" then some (format.infinity + format.quietBit)
  else (decimal? chars).map (·.toPattern format)

def float? (format : BinaryFormat) (chars : List Char) : Option Nat :=
  let (negative, magnitude) := splitSign chars
  (unsignedFloat? format magnitude).map fun pattern =>
    if negative then format.signBit + pattern else pattern

end ColumnChecks.Number
