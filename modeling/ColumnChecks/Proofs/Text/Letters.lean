/-! ASCII letters and digits by their codes, and the two cases of a letter. -/

namespace ColumnChecks.Text

theorem toNat_of_isLower {char : Char} (lower : char.isLower = true) :
    97 ≤ char.toNat ∧ char.toNat ≤ 122 := by
  change decide (97 ≤ char.val) && decide (char.val ≤ 122) at lower
  simpa [UInt32.le_iff_toNat_le] using lower

theorem toNat_of_isUpper {char : Char} (upper : char.isUpper = true) :
    65 ≤ char.toNat ∧ char.toNat ≤ 90 := by
  change decide (65 ≤ char.val ∧ char.val ≤ 90) = true at upper
  simpa [UInt32.le_iff_toNat_le] using upper

theorem toNat_of_isDigit {char : Char} (digit : char.isDigit = true) :
    48 ≤ char.toNat ∧ char.toNat ≤ 57 := by
  change decide (48 ≤ char.val) && decide (char.val ≤ 57) at digit
  simpa [UInt32.le_iff_toNat_le] using digit

theorem toNat_toUpper (char : Char) : char.toUpper.toNat =
    if 97 ≤ char.toNat ∧ char.toNat ≤ 122 then char.toNat - 32 else char.toNat := by
  unfold Char.toUpper
  split
  · rename_i lower
    have range : 97 ≤ char.toNat ∧ char.toNat ≤ 122 := lower
    have shift : ('A'.val - 'a'.val).toNat = 4294967264 := by decide
    have moved : (char.val + ('A'.val - 'a'.val)).toNat =
        (char.toNat + 4294967264) % 4294967296 := by
      rw [UInt32.toNat_add, shift]
      rfl
    rw [if_pos range]
    exact moved.trans (by omega)
  · rename_i other
    exact (if_neg other).symm

theorem toNat_toLower (char : Char) : char.toLower.toNat =
    if 65 ≤ char.toNat ∧ char.toNat ≤ 90 then char.toNat + 32 else char.toNat := by
  unfold Char.toLower
  split
  · rename_i upper
    have range : 65 ≤ char.toNat ∧ char.toNat ≤ 90 := upper
    have moved : (char.val + ('a'.val - 'A'.val)).toNat = (char.toNat + 32) % 4294967296 := by
      rw [UInt32.toNat_add]
      rfl
    rw [if_pos range]
    exact moved.trans (by omega)
  · rename_i other
    exact (if_neg other).symm

theorem toLower_eq_self {char : Char} (other : ¬(65 ≤ char.toNat ∧ char.toNat ≤ 90)) :
    char.toLower = char := by
  rw [← Char.toNat_inj, toNat_toLower, if_neg other]

theorem toLower_eq_iff {char letter : Char} (lower : letter.isLower = true) :
    char.toLower = letter ↔ char.toUpper = letter.toUpper := by
  have bounds := toNat_of_isLower lower
  simp only [← Char.toNat_inj, toNat_toUpper, toNat_toLower]
  split <;> split <;> omega

end ColumnChecks.Text
