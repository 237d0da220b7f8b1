import ColumnChecks.Constraint.Function
import ColumnChecks.Value.Encoding

/-! Kinds of values. A column type reads both literals and stored bytes into values of one kind, and
the measures that it supports apply to values of that kind. -/

namespace ColumnChecks

inductive ValueKind where
  | boolean
  | integer
  | float
  | text
  | bytes
  | timestamp
  | uuid
  deriving DecidableEq

def Value.kind : Value → ValueKind
  | boolean _ => .boolean
  | integer _ => .integer
  | float _ => .float
  | text _ => .text
  | bytes _ => .bytes
  | timestamp _ => .timestamp
  | uuid _ => .uuid

namespace ColumnType

def kind : ColumnType → ValueKind
  | tinyint | smallint | int | bigint | counter => .integer
  | float | double => .float
  | boolean => .boolean
  | ascii | text => .text
  | blob => .bytes
  | timestamp => .timestamp
  | uuid => .uuid

theorem kind_of_isNumber {type : ColumnType} (number : type.isNumber = true) :
    type.kind = .integer ∨ type.kind = .float := by
  cases type <;> simp [isNumber, kind] at number ⊢

end ColumnType

namespace Value

variable {type : ColumnType} {stored : Bytes} {value term : Value}

theorem kind_of_exactly {width : Nat} {make : stored.length = width → Value} {kind : ValueKind}
    (made : ∀ length_eq, (make length_eq).kind = kind)
    (read : exactly type width stored make = .ok value) : value.kind = kind := by
  unfold exactly at read
  split at read
  · cases read
    exact made _
  · cases read

theorem text_of_storedText (read : storedText type stored = .ok value) :
    ∃ content, value = text content ∧ Text.utf8 content = stored := by
  unfold storedText at read
  split at read
  · rename_i content found
    cases read
    exact ⟨content, rfl, Text.utf8_of_ofUtf8? found⟩
  · cases read

theorem text_of_decode (string : type.isString = true)
    (decoded : decode type stored = .ok value) :
    ∃ content, value = text content ∧ Text.utf8 content = stored := by
  cases type with
  | ascii =>
      simp only [decode] at decoded
      split at decoded
      · exact text_of_storedText decoded
      · cases decoded
  | text => exact text_of_storedText decoded
  | _ => cases string

theorem kind_of_decode (decoded : decode type stored = .ok value) : value.kind = type.kind := by
  cases type with
  | ascii | text =>
      obtain ⟨_, rfl, _⟩ := text_of_decode rfl decoded
      rfl
  | blob =>
      cases decoded
      rfl
  | _ =>
      simp only [decode] at decoded
      exact kind_of_exactly (fun _ => rfl) decoded

theorem kind_of_booleanLiteral? {chars : List Char} (read : booleanLiteral? chars = some term) :
    term.kind = .boolean := by
  simp only [booleanLiteral?] at read
  split at read
  · cases read
    rfl
  · split at read
    · cases read
      rfl
    · cases read

theorem kind_of_blobLiteral? {chars : List Char} (read : blobLiteral? chars = some term) :
    term.kind = .bytes := by
  unfold blobLiteral? at read
  split at read
  · split at read
    · obtain ⟨_, _, rfl⟩ := Option.map_eq_some_iff.mp read
      rfl
    · cases read
  · cases read

theorem kind_of_ofLiteral? {literal : String} (read : ofLiteral? type literal = some term) :
    term.kind = type.kind := by
  cases type with
  | ascii =>
      simp only [ofLiteral?] at read
      split at read
      · cases read
        rfl
      · cases read
  | text =>
      cases read
      rfl
  | boolean => exact kind_of_booleanLiteral? read
  | blob => exact kind_of_blobLiteral? read
  | _ =>
      simp only [ofLiteral?, integerLiteral?, timestampLiteral?, shortFloatLiteral?,
        longFloatLiteral?, Option.map_eq_some_iff] at read
      obtain ⟨_, _, rfl⟩ := read
      rfl

theorem eq_integer_of_kind (integral : value.kind = .integer) :
    ∃ number, value = integer number := by
  cases value with
  | integer number => exact ⟨number, rfl⟩
  | _ => cases integral

theorem eq_float_of_kind (floating : value.kind = .float) : ∃ bits, value = float bits := by
  cases value with
  | float bits => exact ⟨bits, rfl⟩
  | _ => cases floating

/-- A measure applies to every value of a type that it supports, and gives no more than the number
of stored bytes. -/
theorem exists_count? {measure : Measure} (supported : measure.supports type = true)
    (decoded : decode type stored = .ok value) :
    ∃ count ≤ stored.length, measure.count? value = some count := by
  cases measure with
  | length =>
      obtain ⟨content, rfl, rfl⟩ := text_of_decode supported decoded
      exact ⟨content.length, Text.length_le_length_utf8 content, rfl⟩
  | octetLength =>
      simp only [Measure.supports, Bool.or_eq_true, decide_eq_true_eq] at supported
      rcases supported with string | rfl
      · obtain ⟨content, rfl, rfl⟩ := text_of_decode string decoded
        exact ⟨_, Nat.le_refl _, rfl⟩
      · cases decoded
        exact ⟨_, Nat.le_refl _, rfl⟩

end Value

end ColumnChecks
