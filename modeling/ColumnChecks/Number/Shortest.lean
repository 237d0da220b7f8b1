import ColumnChecks.Number.BinaryFloat

/-!
The text of a float with the fewest digits that read back as the same float, and among those the
digits nearest to it.
-/

namespace ColumnChecks.Number

structure RoundingInterval where
  low : Nat
  center : Nat
  high : Nat
  exponent : Int
  closed : Bool

/-- The numbers that round to a finite pattern without sign. The interval reaches half a step in
either direction, and half as far below a power of two. -/
def BinaryFormat.interval (format : BinaryFormat) (pattern : Nat) : RoundingInterval :=
  let (integer, exponent) := format.significand pattern
  let narrow := integer = 2 ^ format.fractionBits && format.leastExponent < exponent
  { low := 4 * integer - (if narrow then 1 else 2)
    center := 4 * integer
    high := 4 * integer + 2
    exponent := exponent - 2
    closed := integer % 2 = 0 }

namespace RoundingInterval

variable (interval : RoundingInterval)

def common (units tens : Nat) (power : Int) : Nat × Nat :=
  (units * 2 ^ interval.exponent.toNat * 10 ^ (-power).toNat,
    tens * 10 ^ power.toNat * 2 ^ (-interval.exponent).toNat)

def holds (tens : Nat) (power : Int) : Bool :=
  let (low, value) := interval.common interval.low tens power
  let (high, _) := interval.common interval.high tens power
  if interval.closed then low ≤ value && value ≤ high else low < value && value < high

/-- The multiple of the power of ten that lies in the interval nearest to its centre. -/
def onGrid? (power : Int) : Option Nat :=
  let (center, one) := interval.common interval.center 1 power
  let below := center / one
  let above := below + 1
  match interval.holds below power, interval.holds above power with
  | true, true =>
    let twice := 2 * (center % one)
    some (if twice < one || (twice = one && below % 2 = 0) then below else above)
  | true, false => some below
  | false, true => some above
  | false, false => none

def coarsest : (grids : Nat) → (power : Int) → Nat × Int
  | 0, power => (0, power)
  | grids + 1, power =>
    match interval.onGrid? power with
    | some tens => (tens, power)
    | none => coarsest grids (power - 1)

end RoundingInterval

def shortest (pattern : Nat) : List Char × Int :=
  let (tens, power) := (binary64.interval pattern).coarsest 700 310
  (Nat.toDigits 10 tens, power)

structure FloatStyle where
  leastPositional : Int
  greatestPositional : Int

def exponentText (exponent : Int) : List Char :=
  ['e', if exponent < 0 then '-' else '+'] ++ Nat.toDigits 10 exponent.natAbs

namespace FloatStyle

variable (style : FloatStyle)

def magnitudeText (pattern : Nat) : List Char :=
  if pattern = 0 then ['0', '.', '0']
  else
    let (digits, power) := shortest pattern
    let exponent := digits.length + power - 1
    if style.leastPositional ≤ exponent && exponent ≤ style.greatestPositional then
      if 0 ≤ power then digits ++ List.replicate power.toNat '0' ++ ['.', '0']
      else if 0 ≤ exponent then
        let whole := (exponent + 1).toNat
        digits.take whole ++ ['.'] ++ digits.drop whole
      else ['0', '.'] ++ List.replicate (-exponent - 1).toNat '0' ++ digits
    else
      match digits with
      | [digit] => digit :: exponentText exponent
      | first :: rest => first :: '.' :: rest ++ exponentText exponent
      | [] => []

def write (bits : Nat) : String :=
  String.ofList <|
    (if binary64.signBit ≤ bits then ['-'] else []) ++
      style.magnitudeText (bits % binary64.signBit)

end FloatStyle

end ColumnChecks.Number
