import ColumnChecks.Number.Integer
import ColumnChecks.Text.Utf8

/-!
Natural numbers as bytes, the most significant first. Main statements: a number reads back from its
bytes up to their width, and bytes are the written form of the number that they denote.
-/

namespace ColumnChecks.Number

def bigEndian : (width number : Nat) → Bytes
  | 0, _ => []
  | width + 1, number => UInt8.ofNat (number / 256 ^ width) :: bigEndian width number

def ofBigEndian (bytes : Bytes) : Nat :=
  bytes.foldl (fun total byte => total * 256 + byte.toNat) 0

def ofSignedBigEndian (bytes : Bytes) : Int :=
  (ofBigEndian bytes : Int).bmod (256 ^ bytes.length)

theorem length_bigEndian (width number : Nat) : (bigEndian width number).length = width := by
  induction width with
  | zero => rfl
  | succ width ih => simp [bigEndian, ih]

theorem foldl_bigEndian (width number total : Nat) :
    (bigEndian width number).foldl (fun total byte => total * 256 + byte.toNat) total =
      total * 256 ^ width + number % 256 ^ width := by
  induction width generalizing total with
  | zero => simp [bigEndian, Nat.mod_one]
  | succ width ih =>
    have split : number % (256 ^ width * 256) =
        number % 256 ^ width + 256 ^ width * (number / 256 ^ width % 256) := Nat.mod_mul
    simp only [bigEndian, List.foldl_cons, ih, UInt8.toNat_ofNat', Nat.pow_succ, split]
    rw [Nat.add_mul, Nat.mul_assoc, Nat.mul_comm 256, Nat.add_assoc, Nat.add_comm (number % _),
      Nat.mul_comm (256 ^ width) (number / 256 ^ width % 256)]

theorem ofBigEndian_bigEndian (width number : Nat) :
    ofBigEndian (bigEndian width number) = number % 256 ^ width := by
  simp [ofBigEndian, foldl_bigEndian]

theorem foldl_bytes (bytes : Bytes) (total : Nat) :
    bytes.foldl (fun total byte => total * 256 + byte.toNat) total =
      total * 256 ^ bytes.length + ofBigEndian bytes := by
  induction bytes generalizing total with
  | nil => simp [ofBigEndian]
  | cons byte rest ih =>
    simp only [ofBigEndian, List.foldl_cons, List.length_cons]
    rw [ih, ih (0 * 256 + byte.toNat), Nat.pow_succ]
    grind

theorem ofBigEndian_cons (byte : UInt8) (rest : Bytes) :
    ofBigEndian (byte :: rest) = byte.toNat * 256 ^ rest.length + ofBigEndian rest := by
  have step := foldl_bytes rest byte.toNat
  simpa [ofBigEndian] using step

theorem ofBigEndian_lt (bytes : Bytes) : ofBigEndian bytes < 256 ^ bytes.length := by
  induction bytes with
  | nil => simp [ofBigEndian]
  | cons byte rest ih =>
    have bound : byte.toNat < 256 := byte.toNat_lt
    rw [ofBigEndian_cons, List.length_cons, Nat.pow_succ]
    calc byte.toNat * 256 ^ rest.length + ofBigEndian rest
        < byte.toNat * 256 ^ rest.length + 256 ^ rest.length := by omega
      _ = (byte.toNat + 1) * 256 ^ rest.length := by rw [Nat.add_mul, Nat.one_mul]
      _ ≤ 256 * 256 ^ rest.length := Nat.mul_le_mul_right _ bound
      _ = 256 ^ rest.length * 256 := Nat.mul_comm _ _

theorem bigEndian_add_mul (width number high : Nat) :
    bigEndian width (number + high * 256 ^ width) = bigEndian width number := by
  induction width generalizing high with
  | zero => rfl
  | succ width ih =>
    have regroup : high * 256 ^ (width + 1) = (256 * high) * 256 ^ width := by
      rw [Nat.pow_succ, Nat.mul_comm 256, Nat.mul_assoc, Nat.mul_comm 256]
    have positive : 0 < 256 ^ width := Nat.pow_pos (by decide)
    simp only [bigEndian, regroup, ih, Nat.add_mul_div_right _ _ positive]
    congr 1
    apply UInt8.toNat_inj.mp
    simp

theorem bigEndian_ofBigEndian (bytes : Bytes) :
    bigEndian bytes.length (ofBigEndian bytes) = bytes := by
  induction bytes with
  | nil => rfl
  | cons byte rest ih =>
    have positive : 0 < 256 ^ rest.length := Nat.pow_pos (by decide)
    have small := ofBigEndian_lt rest
    have quotient : ofBigEndian (byte :: rest) / 256 ^ rest.length = byte.toNat := by
      rw [ofBigEndian_cons, Nat.add_comm, Nat.add_mul_div_right _ _ positive,
        Nat.div_eq_of_lt small, Nat.zero_add]
    simp only [List.length_cons, bigEndian, quotient]
    rw [ofBigEndian_cons, Nat.add_comm, bigEndian_add_mul, ih]
    simp

end ColumnChecks.Number
