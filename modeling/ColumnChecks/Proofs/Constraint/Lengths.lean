import ColumnChecks.Proofs.Value.StoredForm

/-! Comparisons of lengths. The characters of a text are as many as the bytes that start one, so
`LENGTH` and `OCTET_LENGTH` both come to a count of the stored bytes, which a signed word holds. -/

namespace ColumnChecks

namespace Text

/-- The byte goes on with a character that an earlier byte started: its leading bits are one and
zero. -/
def isContinuation (byte : UInt8) : Bool :=
  0x80 ≤ byte && byte < 0xC0

def countStarts (bytes : Bytes) : Nat :=
  bytes.countP (!isContinuation ·)

theorem isContinuation_ofNat {code : Nat} (fits : code < 256) :
    isContinuation (UInt8.ofNat code) = true ↔ 0x80 ≤ code ∧ code < 0xC0 := by
  have same : (UInt8.ofNat code).toNat = code := UInt8.toNat_ofNat_of_lt' fits
  simp [isContinuation, UInt8.le_iff_toNat_le, UInt8.lt_iff_toNat_lt, same]

theorem countStarts_leading {code : Nat} (fits : code < 256) (leads : code < 0x80 ∨ 0xC0 ≤ code)
    (rest : Bytes) : countStarts (UInt8.ofNat code :: rest) = countStarts rest + 1 := by
  have start : isContinuation (UInt8.ofNat code) = false := by
    rw [← Bool.not_eq_true, isContinuation_ofNat fits]
    omega
  exact List.countP_cons_of_pos (by rw [start, Bool.not_false])

theorem countStarts_trailing {code : Nat} (lower : 0x80 ≤ code) (upper : code < 0xC0)
    (rest : Bytes) : countStarts (UInt8.ofNat code :: rest) = countStarts rest := by
  have continues : isContinuation (UInt8.ofNat code) = true :=
    (isContinuation_ofNat (by omega)).mpr ⟨lower, upper⟩
  exact List.countP_cons_of_neg (by rw [continues, Bool.not_true]; decide)

theorem countStarts_utf8EncodeChar (char : Char) :
    countStarts (String.utf8EncodeChar char) = 1 := by
  -- Only the first byte of a character starts one.
  have nothing : countStarts [] = 0 := rfl
  unfold String.utf8EncodeChar
  simp only
  split
  · rw [countStarts_leading, nothing] <;> omega
  · split
    · rw [countStarts_leading, countStarts_trailing, nothing] <;> omega
    · split
      · rw [countStarts_leading, countStarts_trailing, countStarts_trailing, nothing] <;> omega
      · rw [countStarts_leading, countStarts_trailing, countStarts_trailing,
          countStarts_trailing, nothing] <;> omega

theorem countStarts_utf8 (content : String) : countStarts (utf8 content) = content.length := by
  rw [← String.ofList_toList (s := content), utf8_ofList, String.length_ofList]
  induction content.toList with
  | nil => rfl
  | cons first rest ih =>
      have head := countStarts_utf8EncodeChar first
      simp only [countStarts] at head ih
      rw [countStarts, List.flatMap_cons, List.countP_append, head, ih, List.length_cons,
        Nat.add_comm]

theorem countStarts_of_ascii {bytes : Bytes} (ascii : ∀ byte ∈ bytes, byte.toNat < 0x80) :
    countStarts bytes = bytes.length := by
  refine List.countP_eq_length.mpr fun byte member => ?_
  have small := ascii byte member
  have whole : isContinuation byte = false := by
    rw [← Bool.not_eq_true, ← UInt8.ofNat_toNat (x := byte), isContinuation_ofNat byte.toNat_lt]
    omega
  rw [whole, Bool.not_false]

theorem countStarts_le_length (bytes : Bytes) : countStarts bytes ≤ bytes.length :=
  List.countP_le_length

end Text

section

variable {type : ColumnType} {stored : Bytes} {value : Value}

theorem Measure.count?_octetLength (supported : octetLength.supports type = true)
    (decoded : Value.decode type stored = .ok value) :
    octetLength.count? value = some stored.length := by
  simp only [supports, Bool.or_eq_true, decide_eq_true_eq] at supported
  rcases supported with string | rfl
  · obtain ⟨content, rfl, rfl⟩ := Value.text_of_decode string decoded
    rfl
  · cases decoded
    rfl

theorem Measure.count?_length (supported : length.supports type = true)
    (decoded : Value.decode type stored = .ok value) :
    length.count? value = some (Text.countStarts stored) := by
  obtain ⟨content, rfl, rfl⟩ := Value.text_of_decode supported decoded
  rw [Text.countStarts_utf8]
  rfl

namespace Constraint

theorem evaluate_function_eq_ok_iff (comparison : MeasureComparison) (count : Bytes → Nat)
    {limit : Int} (nonempty : stored ≠ [])
    (literal : Number.IsLiteral 8 comparison.term limit)
    (counts : ∀ value, Value.decode type stored = .ok value →
      comparison.measure.count? value = some (count stored)) :
    (function comparison).evaluate type stored = .ok () ↔
      (∃ value, Value.decode type stored = .ok value) ∧
        comparison.operator.Relates (count stored) limit := by
  have limited : comparison.limit? = some limit := Number.signed?_trim_eq_some_iff.mpr literal
  rw [evaluate_eq_evaluateStored nonempty]
  cases decoded : Value.decode type stored with
  | error cause => simp [evaluateStored, MeasureComparison.evaluate, limited, decoded]
  | ok value =>
      have evaluated :=
        Requirement.evaluateStored_of_compares decoded (.measure (counts value decoded) limited)
      simp only [Requirement.leaf, Requirement.operator] at evaluated
      rw [evaluated, ← Operator.holds_compare_iff]
      by_cases holds : comparison.operator.holds (compare (count stored : Int) limit) = true
      · simp [holds]
      · simp [holds]

section

variable {term : String} {limit : Int}

theorem evaluate_octetLength_eq_ok_iff (nonempty : stored ≠ [])
    (literal : Number.IsLiteral 8 term limit)
    (supported : Measure.octetLength.supports type = true) (column : ColumnName)
    (operator : Operator) :
    (function ⟨.octetLength, column, operator, term⟩).evaluate type stored = .ok () ↔
      (∃ value, Value.decode type stored = .ok value) ∧ operator.Relates stored.length limit :=
  evaluate_function_eq_ok_iff ⟨.octetLength, column, operator, term⟩ List.length nonempty literal
    fun _ => Measure.count?_octetLength supported

theorem evaluate_length_eq_ok_iff (nonempty : stored ≠ [])
    (literal : Number.IsLiteral 8 term limit) (supported : Measure.length.supports type = true)
    (column : ColumnName) (operator : Operator) :
    (function ⟨.length, column, operator, term⟩).evaluate type stored = .ok () ↔
      Value.IsStored type stored ∧ operator.Relates (Text.countStarts stored) limit := by
  rw [← Value.exists_decode_iff]
  exact evaluate_function_eq_ok_iff ⟨.length, column, operator, term⟩ Text.countStarts nonempty
    literal fun _ => Measure.count?_length supported

end

/-- On texts and byte strings `OCTET_LENGTH` compares the number of stored bytes with an integer
that the term denotes, and on texts `LENGTH` compares the number of those that are not continuation
bytes. Neither count overflows a signed word. So the two agree on ASCII, and on texts an upper bound
of bytes is one of characters. -/
theorem lengths_count {stored : Bytes} (nonempty : stored ≠ []) (short : stored.length < 2 ^ 63)
    {term : String} {limit : Int} (literal : Number.IsLiteral 8 term limit) (column : ColumnName)
    (operator : Operator) :
    (∀ type, type = .text ∨ type = .ascii ∨ type = .blob →
      ((function ⟨.octetLength, column, operator, term⟩).evaluate type stored = .ok () ↔
        (∃ value, Value.decode type stored = .ok value) ∧
          operator.Relates stored.length limit)) ∧
    (∀ type, type = .text ∨ type = .ascii →
      ((function ⟨.length, column, operator, term⟩).evaluate type stored = .ok () ↔
        Value.IsStored type stored ∧ operator.Relates (Text.countStarts stored) limit)) ∧
    (Number.InSignedRange 8 stored.length ∧ Number.InSignedRange 8 (Text.countStarts stored)) ∧
    ((function ⟨.octetLength, column, operator, term⟩).evaluate .ascii stored = .ok () ↔
      (function ⟨.length, column, operator, term⟩).evaluate .ascii stored = .ok ()) ∧
    ((function ⟨.octetLength, column, .atMost, term⟩).evaluate .text stored = .ok () →
      (function ⟨.length, column, .atMost, term⟩).evaluate .text stored = .ok ()) := by
  have fewer := Text.countStarts_le_length stored
  refine ⟨?octets, ?characters, ?words, ?ascii, ?bounds⟩
  case octets =>
    rintro type (rfl | rfl | rfl) <;>
      exact evaluate_octetLength_eq_ok_iff nonempty literal rfl column operator
  case characters =>
    rintro type (rfl | rfl) <;>
      exact evaluate_length_eq_ok_iff nonempty literal rfl column operator
  case words =>
    simp only [Number.InSignedRange]
    omega
  case ascii =>
    rw [evaluate_octetLength_eq_ok_iff nonempty literal rfl,
      evaluate_length_eq_ok_iff nonempty literal rfl, Value.exists_decode_iff]
    refine and_congr_right fun isStored => ?_
    rw [Text.countStarts_of_ascii (isStored.ascii rfl)]
  case bounds =>
    rw [evaluate_octetLength_eq_ok_iff nonempty literal rfl,
      evaluate_length_eq_ok_iff nonempty literal rfl, Value.exists_decode_iff]
    rintro ⟨isStored, bounded⟩
    simp only [Operator.Relates] at bounded ⊢
    exact ⟨isStored, by omega⟩

theorem lengths_count_accent :
    Number.IsLiteral 8 " +1 " 1 ∧
      (function ⟨.length, ⟨"initial"⟩, .equal, " +1 "⟩).evaluate .text [0xC3, 0xA9] = .ok () ∧
      Value.IsStored .text [0xC3, 0xA9] ∧ Text.countStarts [0xC3, 0xA9] = 1 ∧
      (function ⟨.octetLength, ⟨"initial"⟩, .equal, " +1 "⟩).evaluate .text [0xC3, 0xA9] ≠ .ok () ∧
      ((function ⟨.octetLength, ⟨"initial"⟩, .equal, " +1 "⟩).evaluate .ascii [0x65] = .ok () ↔
        (function ⟨.length, ⟨"initial"⟩, .equal, " +1 "⟩).evaluate .ascii [0x65] = .ok ()) := by
  have literal : Number.IsLiteral 8 " +1 " 1 := Number.signed?_trim_eq_some_iff.mp (by decide)
  obtain ⟨octets, characters, _⟩ :=
    lengths_count (List.cons_ne_nil 0xC3 [0xA9]) (by decide) literal ⟨"initial"⟩ .equal
  obtain ⟨_, _, _, agree, _⟩ :=
    lengths_count (List.cons_ne_nil 0x65 []) (by decide) literal ⟨"initial"⟩ .equal
  have accepted : (function ⟨.length, ⟨"initial"⟩, .equal, " +1 "⟩).evaluate .text [0xC3, 0xA9] =
      .ok () := by decide
  refine ⟨literal, accepted, ((characters .text (Or.inl rfl)).mp accepted).1, by decide, ?_, agree⟩
  rw [ne_eq, octets .text (Or.inl rfl)]
  rintro ⟨_, related⟩
  simp [Operator.Relates] at related

end Constraint

end

end ColumnChecks
