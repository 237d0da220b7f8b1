import ColumnChecks.Number.BigEndian
import ColumnChecks.Value.Literal

/-!
The stored form of values.
-/

namespace ColumnChecks

/-- The number of bytes to which an integer is cut for a column type. -/
def ColumnType.integerWidth : ColumnType → Nat
  | tinyint => 1
  | smallint => 2
  | int => 4
  | _ => 8

namespace Value

def encode (type : ColumnType) : Value → Bytes
  | boolean value => [if value then 1 else 0]
  | integer value => Number.bigEndian type.integerWidth value.toUInt64.toNat
  | float bits =>
    if type = .float then
      Number.bigEndian 4 (Number.binary64.convert Number.binary32 bits.toNat)
    else Number.bigEndian 8 bits.toNat
  | text value => Text.utf8 value
  | bytes value => value
  | timestamp milliseconds => Number.bigEndian 8 milliseconds.toUInt64.toNat
  | uuid value => value.bytes

def exactly (type : ColumnType) (width : Nat) (stored : Bytes)
    (value : stored.length = width → Value) : Except ValueError Value :=
  if length_eq : stored.length = width then .ok (value length_eq)
  else .error (.wrongLength type width stored.length)

def storedInteger (stored : Bytes) : Int64 :=
  Int64.ofInt (Number.ofSignedBigEndian stored)

def storedText (type : ColumnType) (stored : Bytes) : Except ValueError Value :=
  match Text.ofUtf8? stored with
  | some value => .ok (text value)
  | none => .error (.invalidText type)

def decode (type : ColumnType) (stored : Bytes) : Except ValueError Value :=
  match type with
  | .tinyint => exactly type 1 stored fun _ => integer (storedInteger stored)
  | .smallint => exactly type 2 stored fun _ => integer (storedInteger stored)
  | .int => exactly type 4 stored fun _ => integer (storedInteger stored)
  | .bigint | .counter => exactly type 8 stored fun _ => integer (storedInteger stored)
  | .float => exactly type 4 stored fun _ =>
    float (UInt64.ofNat (Number.binary32.convert Number.binary64 (Number.ofBigEndian stored)))
  | .double => exactly type 8 stored fun _ => float (UInt64.ofNat (Number.ofBigEndian stored))
  | .boolean => exactly type 1 stored fun _ => boolean (Number.ofBigEndian stored ≠ 0)
  | .timestamp => exactly type 8 stored fun _ => timestamp (storedInteger stored)
  | .uuid => exactly type 16 stored fun length_eq => uuid ⟨stored, length_eq⟩
  | .blob => .ok (bytes stored)
  | .ascii => if stored.all (· < 0x80) then storedText type stored else .error (.invalidText type)
  | .text => storedText type stored

def encodeLiteral (type : ColumnType) (literal : String) : Except ValueError Bytes :=
  (ofLiteral type literal).map (encode type)

end Value

end ColumnChecks
