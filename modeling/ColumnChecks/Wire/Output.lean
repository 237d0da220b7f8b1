import ColumnChecks.Number.BigEndian
import ColumnChecks.Wire.Error

/-!
Writing: bytes are appended to an output, and a write that fails keeps what came before it.
-/

namespace ColumnChecks

/-- The bytes written so far, the latest first. -/
structure Output where
  reversed : Bytes
  deriving DecidableEq

namespace Output

def empty : Output := ⟨[]⟩

def bytes (output : Output) : Bytes :=
  output.reversed.reverse

def append (output : Output) (bytes : Bytes) : Output :=
  ⟨bytes.reverseAux output.reversed⟩

@[simp] theorem bytes_empty : empty.bytes = [] := rfl

@[simp] theorem bytes_append (output : Output) (bytes : Bytes) :
    (output.append bytes).bytes = output.bytes ++ bytes := by
  simp [append, Output.bytes, List.reverseAux_eq]

@[simp] theorem append_nil (output : Output) : output.append [] = output := rfl

theorem append_append (output : Output) (first second : Bytes) :
    (output.append first).append second = output.append (first ++ second) := by
  simp [append, List.reverseAux_eq]

end Output

abbrev Writer := EStateM WireError Output Unit

namespace Writer

def longestText : Nat := 65535

def bytes (bytes : Bytes) : Writer :=
  modify (·.append bytes)

def int32 (number : Int32) : Writer :=
  bytes (Number.bigEndian 4 number.toUInt32.toNat)

def text (text : String) : Writer :=
  let content := Text.utf8 text
  if content.length ≤ longestText then
    bytes (Number.bigEndian 2 content.length ++ content)
  else throw (.textTooLong content.length)

end Writer

def int32Size : Nat := 4

def textSize (text : String) : Nat :=
  2 + (Text.utf8 text).length

end ColumnChecks
