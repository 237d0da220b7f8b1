import ColumnChecks.Column.Type
import ColumnChecks.Number.BinaryFloat
import ColumnChecks.Text.Utf8

/-!
Values of columns and their order.
-/

namespace ColumnChecks

structure Uuid where
  bytes : Bytes
  length_eq : bytes.length = 16
  deriving DecidableEq

/-- A column value. The integer types share one kind of value and so do the two floating point
types, which are held as 64-bit patterns. -/
inductive Value where
  | boolean (value : Bool)
  | integer (value : Int64)
  | float (bits : UInt64)
  | text (value : String)
  | bytes (value : Bytes)
  | timestamp (milliseconds : Int64)
  | uuid (value : Uuid)
  deriving DecidableEq

inductive ValueError where
  | invalidLiteral (type : ColumnType) (literal : String)
  | wrongLength (type : ColumnType) (expected actual : Nat)
  | invalidText (type : ColumnType)
  deriving DecidableEq

def ValueError.message : ValueError → String
  | .invalidLiteral type literal => "unable to make " ++ type.name ++ " from '" ++ literal ++ "'"
  | .wrongLength type expected actual =>
    "expected " ++ toString expected ++ " bytes for " ++ type.name ++ " value, got " ++
      toString actual
  | .invalidText type => "invalid " ++ type.name ++ " bytes"

namespace Value

/-- The order of two values of one kind. Texts are ordered by their bytes and floats by the total
order of bit patterns. -/
def compare? : Value → Value → Option Ordering
  | boolean first, boolean second => some (compare first second)
  | integer first, integer second => some (compare first.toInt second.toInt)
  | float first, float second =>
    some (compare (Number.totalOrderKey first) (Number.totalOrderKey second))
  | text first, text second => some (compare (Text.utf8 first) (Text.utf8 second))
  | bytes first, bytes second => some (compare first second)
  | timestamp first, timestamp second => some (compare first.toInt second.toInt)
  | uuid first, uuid second => some (compare first.bytes second.bytes)
  | _, _ => none

end Value

end ColumnChecks
