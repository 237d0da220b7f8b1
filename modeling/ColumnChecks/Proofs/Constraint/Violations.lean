import ColumnChecks.Constraint.Evaluation

/-! Why a value fails a constraint that is not composed, and which column the failure names. -/

namespace ColumnChecks

variable {type : ColumnType} {stored : Bytes} {violation : Violation}

theorem Comparison.evaluate_eq_error_iff {comparison : Comparison} :
    comparison.evaluate type stored = .error violation ↔
      (Value.ofLiteral? type comparison.term = none ∧
        Violation.nonNumericTerm comparison.column comparison.term = violation) ∨
      ∃ term, Value.ofLiteral? type comparison.term = some term ∧
        ((∃ cause, Value.decode type stored = .error cause ∧
          Violation.malformedValue comparison.column cause = violation) ∨
        ∃ value, Value.decode type stored = .ok value ∧
          (∀ order, value.compare? term = some order → comparison.operator.holds order = false) ∧
          Violation.unsatisfied (.scalar comparison) = violation) := by
  unfold evaluate
  cases Value.ofLiteral? type comparison.term with
  | none => simp
  | some term =>
      cases Value.decode type stored with
      | error cause => simp
      | ok value =>
          cases compared : value.compare? term with
          | none => simp [compared]
          | some order =>
              by_cases holds : comparison.operator.holds order = true
              · simp [compared, holds]
              · simp [compared, holds]

theorem MeasureComparison.evaluate_eq_error_iff {comparison : MeasureComparison} :
    comparison.evaluate type stored = .error violation ↔
      (comparison.limit? = none ∧
        Violation.nonNumericTerm comparison.column comparison.term = violation) ∨
      ∃ limit, comparison.limit? = some limit ∧
        ((∃ cause, Value.decode type stored = .error cause ∧
          Violation.malformedValue comparison.column cause = violation) ∨
        ∃ value, Value.decode type stored = .ok value ∧
          (∀ count : Nat, comparison.measure.count? value = some count →
            comparison.operator.holds (compare (count : Int) limit) = false) ∧
          Violation.unsatisfied (.function comparison) = violation) := by
  unfold evaluate
  cases comparison.limit? with
  | none => simp
  | some limit =>
      cases Value.decode type stored with
      | error cause => simp
      | ok value =>
          cases counted : comparison.measure.count? value with
          | none => simp [counted]
          | some count =>
              by_cases holds : comparison.operator.holds (compare (count : Int) limit) = true
              · simp [counted, holds]
              · simp [counted, holds]

/-- The column that is named when a value of it is refused. -/
def Violation.valueColumn? : Violation → Option ColumnName
  | nullValue column => some column
  | unsatisfied requirement => some requirement.column
  | nonNumericTerm column _ => some column
  | malformedValue column _ => some column
  | missingColumn _ => none
  | nullDeletion _ => none

namespace Constraint

theorem valueColumn?_of_evaluate {constraint : Constraint} (simple : constraint.kind ≠ .composed)
    (failed : constraint.evaluate type stored = .error violation) :
    violation.valueColumn? = some constraint.column := by
  by_cases null : stored.isEmpty = true
  · simp only [evaluate, null, if_true, Except.error.injEq] at failed
    subst violation
    rfl
  · simp only [evaluate, null, Bool.false_eq_true, if_false] at failed
    cases constraint with
    | composed => exact absurd rfl simple
    | function comparison =>
        rcases MeasureComparison.evaluate_eq_error_iff.mp failed with
          ⟨_, rfl⟩ | ⟨_, _, ⟨_, _, rfl⟩ | ⟨_, _, _, rfl⟩⟩
        all_goals rfl
    | scalar comparison =>
        rcases Comparison.evaluate_eq_error_iff.mp failed with
          ⟨_, rfl⟩ | ⟨_, _, ⟨_, _, rfl⟩ | ⟨_, _, _, rfl⟩⟩
        all_goals rfl
    | unary application => simp [evaluateStored, Application.evaluate] at failed

end Constraint

end ColumnChecks
