import ColumnChecks.Number.BigEndian
import ColumnChecks.Wire.Error

/-!
Reading: bytes are taken from the front of an input, and a read that fails leaves what it has not
consumed.
-/

namespace ColumnChecks

abbrev Reader (ε α : Type) := EStateM ε Bytes α

def split? : (count : Nat) → Bytes → Option (Bytes × Bytes)
  | 0, rest => some ([], rest)
  | _ + 1, [] => none
  | count + 1, byte :: rest =>
    (split? count rest).map fun (front, back) => (byte :: front, back)

theorem split?_append (front back : Bytes) :
    split? front.length (front ++ back) = some (front, back) := by
  induction front with
  | nil => rfl
  | cons byte front ih => simp [split?, ih]

theorem split?_eq_some_iff {count : Nat} {input front back : Bytes} :
    split? count input = some (front, back) ↔ input = front ++ back ∧ front.length = count := by
  induction count generalizing input front with
  | zero =>
    simp only [split?, Option.some.injEq, Prod.mk.injEq, List.length_eq_zero_iff]
    constructor
    · rintro ⟨rfl, rfl⟩
      simp
    · rintro ⟨rfl, rfl⟩
      simp
  | succ count ih =>
    cases input with
    | nil =>
      simp only [split?, reduceCtorEq, false_iff]
      rintro ⟨empty, length⟩
      cases front <;> simp_all
    | cons byte input =>
      cases front with
      | nil => simp [split?]
      | cons first front =>
        simp only [split?, Option.map_eq_some_iff, Prod.mk.injEq, List.cons.injEq, Prod.exists,
          List.cons_append, List.length_cons, Nat.add_right_cancel_iff]
        constructor
        · rintro ⟨front', back', found, ⟨rfl, rfl⟩, rfl⟩
          have whole := ih.mp found
          exact ⟨⟨rfl, whole.1⟩, whole.2⟩
        · rintro ⟨⟨rfl, whole⟩, length⟩
          exact ⟨front, back, ih.mpr ⟨whole, length⟩, ⟨rfl, rfl⟩, rfl⟩

namespace Reader

def take (count : Nat) : Reader WireError Bytes := fun input =>
  match split? count input with
  | some (front, back) => .ok front back
  | none => .error (.unexpectedEnd count input.length) input

def int32 : Reader WireError Int32 := do
  let bytes ← take 4
  return (UInt32.ofNat (Number.ofBigEndian bytes)).toInt32

/-- A length in two bytes, then that many bytes of UTF-8. -/
def text : Reader WireError String := do
  let length ← take 2
  let content ← take (Number.ofBigEndian length)
  match Text.ofUtf8? content with
  | some text => return text
  | none => throw .invalidUtf8

def times {ε α : Type} (read : Reader ε α) : (count : Nat) → Reader ε (List α)
  | 0 => pure []
  | count + 1 => do
    let first ← read
    let rest ← times read count
    return first :: rest

end Reader

end ColumnChecks
