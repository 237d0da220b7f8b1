import ColumnChecks.Text.Utf8

/-!
Bytes written as pairs of hexadecimal digits, the high half first. Main statement: the written
form of bytes reads back.
-/

namespace ColumnChecks.Text

def hexDigit? (char : Char) : Option Nat :=
  if '0' ≤ char && char ≤ '9' then some (char.toNat - '0'.toNat)
  else if 'a' ≤ char && char ≤ 'f' then some (char.toNat - 'a'.toNat + 10)
  else if 'A' ≤ char && char ≤ 'F' then some (char.toNat - 'A'.toNat + 10)
  else none

def isHexDigit (char : Char) : Bool :=
  (hexDigit? char).isSome

def hexByte (byte : UInt8) : List Char :=
  [Nat.digitChar (byte.toNat / 16), Nat.digitChar (byte.toNat % 16)]

def hexChars (bytes : Bytes) : List Char :=
  bytes.flatMap hexByte

def ofHexChars? : List Char → Option Bytes
  | [] => some []
  | [_] => none
  | high :: low :: rest => do
    let high ← hexDigit? high
    let low ← hexDigit? low
    let bytes ← ofHexChars? rest
    return UInt8.ofNat (high * 16 + low) :: bytes

theorem hexDigit?_digitChar {digit : Nat} (small : digit < 16) :
    hexDigit? (Nat.digitChar digit) = some digit := by
  have all : ∀ digit ∈ List.range 16, hexDigit? (Nat.digitChar digit) = some digit := by decide
  exact all digit (List.mem_range.mpr small)

theorem ofHexChars?_hexChars (bytes : Bytes) : ofHexChars? (hexChars bytes) = some bytes := by
  induction bytes with
  | nil => rfl
  | cons byte rest ih =>
    have bound : byte.toNat < 256 := byte.toNat_lt
    have whole : UInt8.ofNat (byte.toNat / 16 * 16 + byte.toNat % 16) = byte := by
      rw [Nat.div_add_mod', UInt8.ofNat_toNat]
    have read : ofHexChars? (rest.flatMap hexByte) = some rest := ih
    simp only [hexChars, List.flatMap_cons, hexByte, List.cons_append, List.nil_append, ofHexChars?,
      hexDigit?_digitChar (show byte.toNat / 16 < 16 by omega),
      hexDigit?_digitChar (show byte.toNat % 16 < 16 by omega), bind, Option.bind, pure, whole]
    exact congrArg (fun found => found.bind fun bytes => some (byte :: bytes)) read

end ColumnChecks.Text
