import ColumnChecks.Proofs.Number.FloatLiteral
import ColumnChecks.Value.Literal

/-! The values that float and blob literals stand for. Literals of either float type are rounded
once, to the format of the type, and the numbers of the short format are kept in the long one. Every
sequence of bytes has a literal. -/

namespace ColumnChecks

namespace Value

open Number

variable {literal : String} {value : Value}

theorem ofLiteral?_double_eq_some_iff
    (short : (Text.trim literal.toList).length + 400 < exponentLimit) :
    ofLiteral? .double literal = some value ↔
      ∃ pattern, DenotesFloat binary64 (Text.trim literal.toList) pattern ∧
        float (UInt64.ofNat pattern) = value := by
  simp only [ofLiteral?, longFloatLiteral?, Option.map_eq_some_iff,
    float?_eq_some_iff inRange_binary64 short]

theorem ofLiteral?_float_eq_some_iff
    (short : (Text.trim literal.toList).length + 400 < exponentLimit) :
    ofLiteral? .float literal = some value ↔
      ∃ pattern, DenotesFloat binary32 (Text.trim literal.toList) pattern ∧
        float (UInt64.ofNat (binary32.convert binary64 pattern)) = value := by
  simp only [ofLiteral?, shortFloatLiteral?, Option.map_eq_some_iff,
    float?_eq_some_iff inRange_binary32 short]

/-- What is widened keeps its number and its sign. -/
theorem value_widened {pattern : Nat} (finite : pattern < binary32.infinity) :
    binary64.value (binary32.convert binary64 pattern) = binary32.value pattern ∧
      binary32.convert binary64 (binary32.signBit + pattern) =
        binary64.signBit + binary32.convert binary64 pattern := by
  refine ⟨BinaryFormat.value_convert (by decide) (by decide) (by decide) ?_ finite,
    BinaryFormat.convert_signBit_add (BinaryFormat.lt_signBit finite)⟩
  rw [BinaryFormat.value_infinity (by decide), BinaryFormat.value_infinity (by decide)]
  exact pow_le_pow_right₀ (by norm_num) (by decide)

/-- Float values are in the order of the numbers that they stand for. -/
theorem compare?_float_of_lt {first second : UInt64}
    (less : binary64.signedValue first.toNat < binary64.signedValue second.toNat) :
    (float first).compare? (float second) = some .lt := by
  rw [compare?, Nat.compare_eq_lt.mpr (totalOrderKey_lt less)]

theorem trim_of_forall_not_isBlank {chars : List Char}
    (dense : ∀ char ∈ chars, Text.isBlank char = false) : Text.trim chars = chars := by
  have kept {chars : List Char} (dense : ∀ char ∈ chars, Text.isBlank char = false) :
      chars.dropWhile Text.isBlank = chars := by
    cases chars with
    | nil => rfl
    | cons first rest => exact List.dropWhile_cons_of_neg (by simp [dense first List.mem_cons_self])
  have reversed : ∀ char ∈ chars.reverse, Text.isBlank char = false :=
    fun char member => dense char (List.mem_reverse.mp member)
  rw [Text.trim, kept dense, kept reversed, List.reverse_reverse]

theorem isBlank_of_mem_hexChars {bytes : Bytes} {char : Char}
    (member : char ∈ Text.hexChars bytes) : Text.isBlank char = false := by
  have all : ∀ digit < 16, Text.isBlank (Nat.digitChar digit) = false := by decide
  obtain ⟨byte, _, member⟩ := List.mem_flatMap.mp member
  have bound : byte.toNat < 256 := byte.toNat_lt
  rcases List.mem_cons.mp member with rfl | member
  · exact all _ (by omega)
  · rw [List.mem_singleton.mp member]
    exact all _ (by omega)

theorem ofLiteral?_blob_hexChars (stored : Bytes) {mark : Char} (isMark : mark = 'x' ∨ mark = 'X') :
    ofLiteral? .blob (String.ofList ('0' :: mark :: Text.hexChars stored)) =
      some (bytes stored) := by
  have dense : ∀ char ∈ '0' :: mark :: Text.hexChars stored, Text.isBlank char = false := by
    simp only [List.forall_mem_cons]
    exact ⟨rfl, by rcases isMark with rfl | rfl <;> rfl, fun _ => isBlank_of_mem_hexChars⟩
  simp only [ofLiteral?, String.toList_ofList, trim_of_forall_not_isBlank dense, blobLiteral?]
  rw [if_pos (by simpa using isMark), Text.ofHexChars?_hexChars, Option.map_some]

end Value

end ColumnChecks
