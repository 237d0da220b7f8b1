/-!
Decimal integers in text, and the ranges of signed words.
-/

-- Powers of numbers are those of the core library, whatever else is imported.
attribute [instance (2000), default_instance 20000] instPowNat

namespace ColumnChecks.Number

def ofDigits (digits : List Char) : Nat :=
  digits.foldl (fun total digit => total * 10 + (digit.toNat - '0'.toNat)) 0

/-- One or more ASCII digits and nothing else, with any number of leading zeros. -/
def natural? (chars : List Char) : Option Nat :=
  if chars.isEmpty || chars.any (!·.isDigit) then none else some (ofDigits chars)

def splitSign : List Char → Bool × List Char
  | '-' :: rest => (true, rest)
  | '+' :: rest => (false, rest)
  | chars => (false, chars)

def integer? (chars : List Char) : Option Int :=
  let (negative, digits) := splitSign chars
  (natural? digits).map fun (magnitude : Nat) => if negative then -(magnitude : Int) else magnitude

def InSignedRange (width : Nat) (number : Int) : Prop :=
  -(2 ^ (8 * width - 1) : Int) ≤ number ∧ number < 2 ^ (8 * width - 1)

instance (width : Nat) (number : Int) : Decidable (InSignedRange width number) :=
  inferInstanceAs (Decidable (_ ∧ _))

def signed? (width : Nat) (chars : List Char) : Option Int :=
  (integer? chars).filter fun number => InSignedRange width number

end ColumnChecks.Number
