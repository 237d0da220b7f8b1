import Mathlib.Data.Nat.Digits.Defs
import Mathlib.Tactic.Ring
import ColumnChecks.Number.BigEndian
import ColumnChecks.Number.Integer
import ColumnChecks.Text.Classes

/-! The integers that texts and bytes denote. A text is read exactly if it denotes an integer in
range, bytes are read as the number that they are the two's complement form of, and such integers
fit signed words of 64 bits, of which they are written and read without loss. -/

namespace ColumnChecks.Number

def decimal (digits : List Char) : Nat :=
  Nat.ofDigits 10 (digits.reverse.map fun digit => digit.toNat - '0'.toNat)

def IsDecimal (chars : List Char) : Prop :=
  chars ≠ [] ∧ ∀ digit ∈ chars, digit.isDigit = true

/-- The text is a decimal form of the integer: one or more ASCII digits after an optional sign. -/
inductive Denotes : List Char → Int → Prop
  | unsigned {digits : List Char} : IsDecimal digits → Denotes digits (decimal digits)
  | plus {digits : List Char} : IsDecimal digits → Denotes ('+' :: digits) (decimal digits)
  | minus {digits : List Char} : IsDecimal digits → Denotes ('-' :: digits) (-(decimal digits))

def IsLiteral (width : Nat) (term : String) (number : Int) : Prop :=
  Denotes (Text.trim term.toList) number ∧ InSignedRange width number

def unsigned (bytes : Bytes) : Nat :=
  Nat.ofDigits 256 (bytes.reverse.map UInt8.toNat)

/-- The integer of which the bytes are the two's complement form. Only the first byte has a sign. -/
def twosComplement : Bytes → Int
  | [] => 0
  | first :: rest => first.toInt8.toInt * 256 ^ rest.length + unsigned rest

theorem foldl_eq_ofDigits {α : Type} (base : Nat) (value : α → Nat) (items : List α) :
    items.foldl (fun total item => total * base + value item) 0 =
      Nat.ofDigits base (items.reverse.map value) := by
  rw [Nat.ofDigits_eq_foldr, List.foldr_map, List.foldr_reverse]
  simp [Nat.mul_comm, Nat.add_comm]

theorem ofDigits_eq_decimal (digits : List Char) : ofDigits digits = decimal digits :=
  foldl_eq_ofDigits 10 _ digits

theorem ofBigEndian_eq_unsigned (bytes : Bytes) : ofBigEndian bytes = unsigned bytes :=
  foldl_eq_ofDigits 256 _ bytes

theorem natural?_eq_some_iff {chars : List Char} {number : Nat} :
    natural? chars = some number ↔ IsDecimal chars ∧ decimal chars = number := by
  have refused : (chars.isEmpty || chars.any (!·.isDigit)) = true ↔ ¬ IsDecimal chars := by
    rw [IsDecimal, not_and_or]
    simp
  by_cases digits : IsDecimal chars
  · rw [natural?, if_neg (mt refused.mp (not_not_intro digits)), ofDigits_eq_decimal,
      Option.some.injEq, and_iff_right digits]
  · rw [natural?, if_pos (refused.mpr digits)]
    simp [digits]

theorem splitSign_of_isDecimal {chars : List Char} (digits : IsDecimal chars) :
    splitSign chars = (false, chars) := by
  fun_cases splitSign chars with
  | case1 rest => exact absurd (digits.2 '-' List.mem_cons_self) (by decide)
  | case2 rest => exact absurd (digits.2 '+' List.mem_cons_self) (by decide)
  | case3 => rfl

theorem integer?_eq_some_iff {chars : List Char} {number : Int} :
    integer? chars = some number ↔ Denotes chars number := by
  constructor
  · intro read
    simp only [integer?, Option.map_eq_some_iff, natural?_eq_some_iff] at read
    obtain ⟨_, ⟨digits, rfl⟩, rfl⟩ := read
    unfold splitSign at digits ⊢
    split at digits
    · exact .minus digits
    · exact .plus digits
    · exact .unsigned digits
  · intro denotes
    cases denotes with
    | unsigned digits =>
        simp [integer?, splitSign_of_isDecimal digits, natural?_eq_some_iff.mpr ⟨digits, rfl⟩]
    | plus digits => simp [integer?, splitSign, natural?_eq_some_iff.mpr ⟨digits, rfl⟩]
    | minus digits => simp [integer?, splitSign, natural?_eq_some_iff.mpr ⟨digits, rfl⟩]

theorem signed?_eq_some_iff {width : Nat} {chars : List Char} {number : Int} :
    signed? width chars = some number ↔ Denotes chars number ∧ InSignedRange width number := by
  rw [signed?, Option.filter_eq_some_iff, integer?_eq_some_iff, decide_eq_true_iff]

theorem signed?_trim_eq_some_iff {width : Nat} {term : String} {number : Int} :
    signed? width (Text.trim term.toList) = some number ↔ IsLiteral width term number :=
  signed?_eq_some_iff

theorem toInt_ofInt {width : Nat} {number : Int} (narrow : width ≤ 8)
    (inRange : InSignedRange width number) : (Int64.ofInt number).toInt = number := by
  obtain ⟨lower, upper⟩ := inRange
  have bound : (2 : Int) ^ (8 * width - 1) ≤ 2 ^ 63 :=
    pow_le_pow_right₀ (by norm_num) (by omega)
  exact Int64.toInt_ofInt_of_le (by omega) (by omega)

theorem toInt_toInt8 (byte : UInt8) :
    byte.toInt8.toInt = if byte.toNat < 128 then (byte.toNat : Int) else byte.toNat - 256 := by
  -- A byte counts with its sign as without it, or by a whole turn less.
  have bound : byte.toNat < 256 := byte.toNat_lt
  change byte.toBitVec.toInt = _
  rw [BitVec.toInt, UInt8.toNat_toBitVec]
  split <;> split <;> omega

theorem unsigned_lt (bytes : Bytes) : (unsigned bytes : Int) < 256 ^ bytes.length := by
  rw [← ofBigEndian_eq_unsigned]
  exact_mod_cast ofBigEndian_lt bytes

theorem signBit_place (width : Nat) : (2 : Int) ^ (8 * (width + 1) - 1) = 128 * 256 ^ width := by
  rw [show 8 * (width + 1) - 1 = 7 + 8 * width by omega, pow_add, pow_mul]
  norm_num

theorem inSignedRange_twosComplement {bytes : Bytes} (nonempty : bytes ≠ []) :
    InSignedRange bytes.length (twosComplement bytes) := by
  obtain ⟨first, rest, rfl⟩ := List.exists_cons_of_ne_nil nonempty
  have small := unsigned_lt rest
  have bound : first.toNat < 256 := first.toNat_lt
  have sign : -128 ≤ first.toInt8.toInt ∧ first.toInt8.toInt ≤ 127 := by
    rw [toInt_toInt8]
    split <;> omega
  have place : (0 : Int) ≤ 256 ^ rest.length := by positivity
  have lower := mul_le_mul_of_nonneg_right sign.1 place
  have upper := mul_le_mul_of_nonneg_right sign.2 place
  simp only [InSignedRange, List.length_cons, signBit_place, twosComplement]
  constructor <;> linarith

theorem ofSignedBigEndian_eq_twosComplement (bytes : Bytes) :
    ofSignedBigEndian bytes = twosComplement bytes := by
  cases bytes with
  | nil => rfl
  | cons first rest =>
      obtain ⟨lower, upper⟩ := inSignedRange_twosComplement (List.cons_ne_nil first rest)
      -- Read without a sign, the bytes give the same number or one that is a whole turn more.
      obtain ⟨turns, turned⟩ : ∃ turns : Int,
          (ofBigEndian (first :: rest) : Int) =
            twosComplement (first :: rest) + turns * (256 ^ (rest.length + 1) : Nat) := by
        rw [ofBigEndian_cons, ofBigEndian_eq_unsigned, twosComplement, toInt_toInt8]
        split
        · exact ⟨0, by push_cast; ring⟩
        · exact ⟨1, by push_cast; ring⟩
      rw [ofSignedBigEndian, turned, List.length_cons, Int.add_mul_bmod_self_right]
      simp only [List.length_cons, signBit_place] at lower upper
      apply Int.bmod_eq_of_le <;> push_cast <;> rw [pow_succ] <;> omega

theorem bigEndian_mod (width number : Nat) :
    bigEndian width (number % 256 ^ width) = bigEndian width number := by
  have high := bigEndian_add_mul width (number % 256 ^ width) (number / 256 ^ width)
  rw [Nat.mod_add_div'] at high
  exact high.symm

/-- A word of 64 bits agrees with the integer that it holds on all narrower widths. -/
theorem toNat_ofInt_emod {width : Nat} (narrow : width ≤ 8) (number : Int) :
    (((Int64.ofInt number).toUInt64.toNat % 256 ^ width : Nat) : Int) =
      number % (256 ^ width : Nat) := by
  have word : ((Int64.ofInt number).toUInt64.toNat : Int) = number % (2 ^ 64 : Nat) := by
    change ((BitVec.ofInt 64 number).toNat : Int) = _
    rw [BitVec.toNat_ofInt, Int.toNat_of_nonneg (Int.emod_nonneg _ (by decide))]
  have divides : 256 ^ width ∣ 2 ^ 64 := by
    rw [show 2 ^ 64 = 256 ^ 8 by decide]
    exact pow_dvd_pow 256 narrow
  rw [Int.natCast_emod, word, Int.emod_emod_of_dvd _ (Int.natCast_dvd_natCast.mpr divides)]

theorem ofSignedBigEndian_bigEndian {width : Nat} {number : Int} (positive : 0 < width)
    (narrow : width ≤ 8) (inRange : InSignedRange width number) :
    ofSignedBigEndian (bigEndian width (Int64.ofInt number).toUInt64.toNat) = number := by
  obtain ⟨lower, upper⟩ := inRange
  have place : (2 : Int) ^ (8 * width - 1) * 2 = 256 ^ width := by
    rw [← pow_succ, Nat.sub_add_cancel (by omega), pow_mul]
    norm_num
  rw [ofSignedBigEndian, length_bigEndian, ofBigEndian_bigEndian, toNat_ofInt_emod narrow,
    Int.emod_bmod]
  apply Int.bmod_eq_of_le <;> push_cast <;> omega

theorem bigEndian_ofSignedBigEndian {bytes : Bytes} (narrow : bytes.length ≤ 8) :
    bigEndian bytes.length (Int64.ofInt (ofSignedBigEndian bytes)).toUInt64.toNat = bytes := by
  have agree : (Int64.ofInt (ofSignedBigEndian bytes)).toUInt64.toNat % 256 ^ bytes.length =
      ofBigEndian bytes % 256 ^ bytes.length := by
    have word := toNat_ofInt_emod narrow (ofSignedBigEndian bytes)
    rw [ofSignedBigEndian, Int.bmod_emod] at word
    exact_mod_cast word
  rw [← bigEndian_mod, agree, bigEndian_mod, bigEndian_ofBigEndian]

theorem inSignedRange_toInt (word : Int64) : InSignedRange 8 word.toInt := by
  have lower := word.le_toInt
  have upper := word.toInt_lt
  constructor <;> norm_num <;> omega

end ColumnChecks.Number
