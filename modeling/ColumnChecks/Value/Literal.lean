import ColumnChecks.Number.FloatLiteral
import ColumnChecks.Text.Hexadecimal
import ColumnChecks.Value.Basic

/-!
Values from literals. Strings are taken as written; for all other types blanks around the literal
are dropped.
-/

namespace ColumnChecks

namespace Uuid

def ofLiteral? (chars : List Char) : Option Uuid :=
  let hyphens := [8, 13, 18, 23].all fun place => chars[place]? = some '-'
  let group (first length : Nat) := (chars.drop first).take length
  let digits := group 0 8 ++ group 9 4 ++ group 14 4 ++ group 19 4 ++ group 24 12
  if chars.length = 36 && hyphens then
    (Text.ofHexChars? digits).bind fun bytes =>
      if length_eq : bytes.length = 16 then some ⟨bytes, length_eq⟩ else none
  else none

end Uuid

namespace Value

def integerLiteral? (width : Nat) (chars : List Char) : Option Value :=
  (Number.signed? width chars).map fun number => integer (Int64.ofInt number)

def timestampLiteral? (chars : List Char) : Option Value :=
  (Number.signed? 8 chars).map fun number => timestamp (Int64.ofInt number)

/-- A literal of the short format is rounded to it once, and then widened. -/
def shortFloatLiteral? (chars : List Char) : Option Value :=
  (Number.float? Number.binary32 chars).map fun pattern =>
    float (UInt64.ofNat (Number.binary32.convert Number.binary64 pattern))

def longFloatLiteral? (chars : List Char) : Option Value :=
  (Number.float? Number.binary64 chars).map fun pattern => float (UInt64.ofNat pattern)

def booleanLiteral? (chars : List Char) : Option Value :=
  let word := String.ofList (chars.map Char.toLower)
  if word = "true" then some (boolean true)
  else if word = "false" then some (boolean false)
  else none

def blobLiteral? : List Char → Option Value
  | '0' :: mark :: digits =>
    if mark = 'x' || mark = 'X' then (Text.ofHexChars? digits).map bytes else none
  | _ => none

def ofLiteral? (type : ColumnType) (literal : String) : Option Value :=
  let chars := Text.trim literal.toList
  match type with
  | .tinyint => integerLiteral? 1 chars
  | .smallint => integerLiteral? 2 chars
  | .int => integerLiteral? 4 chars
  | .bigint | .counter => integerLiteral? 8 chars
  | .float => shortFloatLiteral? chars
  | .double => longFloatLiteral? chars
  | .boolean => booleanLiteral? chars
  | .timestamp => timestampLiteral? chars
  | .uuid => (Uuid.ofLiteral? chars).map uuid
  | .blob => blobLiteral? chars
  | .ascii => if literal.toList.all (·.toNat < 0x80) then some (text literal) else none
  | .text => some (text literal)

def ofLiteral (type : ColumnType) (literal : String) : Except ValueError Value :=
  match ofLiteral? type literal with
  | some value => .ok value
  | none => .error (.invalidLiteral type literal)

end Value

end ColumnChecks
