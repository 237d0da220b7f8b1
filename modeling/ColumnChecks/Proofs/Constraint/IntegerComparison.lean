import ColumnChecks.Proofs.Constraint.Requirements
import ColumnChecks.Proofs.Number.Integer

/-! Comparisons on columns of integers. The term and the stored bytes are compared as the integers
that they denote, whatever their length and at every end of the range. -/

namespace ColumnChecks

inductive ColumnType.IsInteger : ColumnType → Nat → Prop
  | tinyint : IsInteger .tinyint 1
  | smallint : IsInteger .smallint 2
  | int : IsInteger .int 4
  | bigint : IsInteger .bigint 8
  | counter : IsInteger .counter 8

section

variable {type : ColumnType} {width : Nat} {stored : Bytes} {expected : Int}

theorem ColumnType.IsInteger.narrow (integers : type.IsInteger width) : 0 < width ∧ width ≤ 8 := by
  cases integers <;> decide

namespace Value

theorem decode_of_isInteger (integers : type.IsInteger width) (stored : Bytes) :
    decode type stored = if stored.length = width then .ok (integer (storedInteger stored))
      else .error (.wrongLength type width stored.length) := by
  cases integers <;> rfl

theorem ofLiteral?_of_isInteger (integers : type.IsInteger width) (literal : String) :
    ofLiteral? type literal = integerLiteral? width (Text.trim literal.toList) := by
  cases integers <;> rfl

theorem toInt_storedInteger (positive : 0 < stored.length) (narrow : stored.length ≤ 8) :
    (storedInteger stored).toInt = Number.twosComplement stored := by
  -- Stored integers of up to eight bytes fit a value.
  rw [storedInteger, Number.ofSignedBigEndian_eq_twosComplement]
  exact Number.toInt_ofInt narrow
    (Number.inSignedRange_twosComplement (List.length_pos_iff.mp positive))

end Value

namespace Comparison

/-- What a comparison comes to on a column of integers of the width. -/
inductive IntegerOutcome (type : ColumnType) (width : Nat) (stored : Bytes)
    (comparison : Comparison) : Except Violation Unit → Prop
  | unread : (∀ expected, ¬ Number.IsLiteral width comparison.term expected) →
      IntegerOutcome type width stored comparison
        (.error (.nonNumericTerm comparison.column comparison.term))
  | malformed {expected : Int} : Number.IsLiteral width comparison.term expected →
      stored.length ≠ width → IntegerOutcome type width stored comparison
        (.error (.malformedValue comparison.column (.wrongLength type width stored.length)))
  | holds {expected : Int} : Number.IsLiteral width comparison.term expected →
      stored.length = width →
      comparison.operator.Relates (Number.twosComplement stored) expected →
      IntegerOutcome type width stored comparison (.ok ())
  | fails {expected : Int} : Number.IsLiteral width comparison.term expected →
      stored.length = width →
      ¬ comparison.operator.Relates (Number.twosComplement stored) expected →
      IntegerOutcome type width stored comparison (.error (.unsatisfied (.scalar comparison)))

variable {comparison : Comparison}

theorem ofLiteral?_of_isLiteral (integers : type.IsInteger width)
    (literal : Number.IsLiteral width comparison.term expected) :
    Value.ofLiteral? type comparison.term = some (.integer (Int64.ofInt expected)) := by
  rw [Value.ofLiteral?_of_isInteger integers, Value.integerLiteral?,
    Number.signed?_trim_eq_some_iff.mpr literal, Option.map_some]

theorem ofLiteral?_of_not_isLiteral (integers : type.IsInteger width)
    (unread : ∀ expected, ¬ Number.IsLiteral width comparison.term expected) :
    Value.ofLiteral? type comparison.term = none := by
  rw [Value.ofLiteral?_of_isInteger integers, Value.integerLiteral?, Option.map_eq_none_iff,
    Option.eq_none_iff_forall_not_mem]
  exact fun expected read => unread expected (Number.signed?_trim_eq_some_iff.mp read)

theorem evaluate_of_isLiteral (integers : type.IsInteger width)
    (literal : Number.IsLiteral width comparison.term expected) (fits : stored.length = width) :
    comparison.evaluate type stored =
      if comparison.operator.holds (compare (Number.twosComplement stored) expected) then .ok ()
      else .error (.unsatisfied (.scalar comparison)) := by
  have decoded : Value.decode type stored = .ok (.integer (Value.storedInteger stored)) := by
    rw [Value.decode_of_isInteger integers, if_pos fits]
  have evaluated := Requirement.evaluateStored_of_compares decoded
    (.integer rfl (ofLiteral?_of_isLiteral integers literal))
  obtain ⟨positive, narrow⟩ := integers.narrow
  -- Both integers fit a word of 64 bits, so neither changes when it becomes a value.
  rw [Value.toInt_storedInteger (by omega) (by omega), Number.toInt_ofInt narrow literal.2]
    at evaluated
  exact evaluated

theorem exists_integerOutcome (type : ColumnType) (width : Nat) (stored : Bytes)
    (comparison : Comparison) : ∃ outcome, comparison.IntegerOutcome type width stored outcome := by
  by_cases read : ∃ expected, Number.IsLiteral width comparison.term expected
  · obtain ⟨expected, literal⟩ := read
    by_cases fits : stored.length = width
    · by_cases related : comparison.operator.Relates (Number.twosComplement stored) expected
      · exact ⟨_, .holds literal fits related⟩
      · exact ⟨_, .fails literal fits related⟩
    · exact ⟨_, .malformed literal fits⟩
  · exact ⟨_, .unread (not_exists.mp read)⟩

theorem IntegerOutcome.evaluate_eq {outcome : Except Violation Unit}
    (integers : type.IsInteger width)
    (comes : comparison.IntegerOutcome type width stored outcome) :
    comparison.evaluate type stored = outcome := by
  cases comes with
  | unread unread => simp only [evaluate, ofLiteral?_of_not_isLiteral integers unread]
  | malformed literal misfits =>
      simp only [evaluate, ofLiteral?_of_isLiteral integers literal,
        Value.decode_of_isInteger integers, if_neg misfits]
  | holds literal fits related =>
      rw [evaluate_of_isLiteral integers literal fits,
        if_pos ((Operator.holds_compare_iff _ _ _).mpr related)]
  | fails literal fits unrelated =>
      rw [evaluate_of_isLiteral integers literal fits,
        if_neg (mt (Operator.holds_compare_iff _ _ _).mp unrelated)]

end Comparison

end

namespace Constraint

/-- On a column of integers, a comparison reports its term if that is no decimal form of an integer
in range, then bytes that are not as many as the width, and then a relation that is false of the
two integers. It accepts every other value. -/
theorem integer_comparison_exact {type : ColumnType} {width : Nat} {stored : Bytes}
    (integers : type.IsInteger width) (nonempty : stored ≠ []) (comparison : Comparison)
    (outcome : Except Violation Unit) :
    (scalar comparison).evaluate type stored = outcome ↔
      comparison.IntegerOutcome type width stored outcome := by
  rw [evaluate_eq_evaluateStored nonempty, evaluateStored]
  constructor
  · rintro rfl
    obtain ⟨other, comes⟩ := comparison.exists_integerOutcome type width stored
    rwa [comes.evaluate_eq integers]
  · exact Comparison.IntegerOutcome.evaluate_eq integers

def lowest : Comparison :=
  ⟨⟨"depth"⟩, .atMost, " -0000000000000000000000032768\n"⟩

theorem integer_comparison_exact_lowest :
    lowest.IntegerOutcome .smallint 2 [128, 0] (.ok ()) ∧
      lowest.IntegerOutcome .smallint 2 [128, 1] (.error (.unsatisfied (.scalar lowest))) ∧
      lowest.IntegerOutcome .smallint 2 [255, 128, 0]
        (.error (.malformedValue ⟨"depth"⟩ (.wrongLength .smallint 2 3))) ∧
      lowest.IntegerOutcome .tinyint 1 [128] (.error (.nonNumericTerm ⟨"depth"⟩ lowest.term)) := by
  refine ⟨?_, ?_, ?_, ?_⟩
  · exact (integer_comparison_exact .smallint (by simp) _ _).mp (by decide)
  · exact (integer_comparison_exact .smallint (by simp) _ _).mp (by decide)
  · exact (integer_comparison_exact .smallint (by simp) _ _).mp (by decide)
  · exact (integer_comparison_exact .tinyint (by simp) _ _).mp (by decide)

end Constraint

end ColumnChecks
