import ColumnChecks.Proofs.Constraint.Flattening
import ColumnChecks.Proofs.Constraint.Requirements
import ColumnChecks.Proofs.Constraint.Violations
import ColumnChecks.Proofs.Table.Decision

/-! Bytes that are no value of the column's type. Every comparison refuses them, whether it is of
the value or of a measure of it, and `NOT_NULL` lets them pass. -/

namespace ColumnChecks

namespace Requirement

def term : Requirement → String
  | scalar comparison => comparison.term
  | function comparison => comparison.term

def HasNoTerm (type : ColumnType) : Requirement → Prop
  | scalar comparison => Value.ofLiteral? type comparison.term = none
  | function comparison => comparison.limit? = none

/-- How a requirement refuses bytes that cannot be decoded. The term is read before the bytes. -/
inductive Rejects (type : ColumnType) (cause : ValueError) (requirement : Requirement) :
    Violation → Prop
  | term : requirement.HasNoTerm type →
      Rejects type cause requirement (.nonNumericTerm requirement.column requirement.term)
  | value : ¬ requirement.HasNoTerm type →
      Rejects type cause requirement (.malformedValue requirement.column cause)

theorem exists_rejects {type : ColumnType} {stored : Bytes} {cause : ValueError}
    (malformed : Value.decode type stored = .error cause) (requirement : Requirement) :
    ∃ violation, requirement.leaf.evaluateStored type stored = .error violation ∧
      requirement.Rejects type cause violation := by
  cases requirement with
  | scalar comparison =>
      cases read : Value.ofLiteral? type comparison.term with
      | none =>
          exact ⟨_, Comparison.evaluate_eq_error_iff.mpr (Or.inl ⟨read, rfl⟩), .term read⟩
      | some term =>
          refine ⟨_, Comparison.evaluate_eq_error_iff.mpr (Or.inr ⟨term, read, Or.inl ?_⟩),
            .value (by simp [HasNoTerm, read])⟩
          exact ⟨cause, malformed, rfl⟩
  | function comparison =>
      cases limited : comparison.limit? with
      | none =>
          exact ⟨_, MeasureComparison.evaluate_eq_error_iff.mpr (Or.inl ⟨limited, rfl⟩),
            .term limited⟩
      | some limit =>
          refine ⟨_, MeasureComparison.evaluate_eq_error_iff.mpr
            (Or.inr ⟨limit, limited, Or.inl ?_⟩), .value (by simp [HasNoTerm, limited])⟩
          exact ⟨cause, malformed, rfl⟩

end Requirement

namespace Constraint

def HasRequirement (constraint : Constraint) : Prop :=
  ∃ requirement : Requirement, requirement.leaf ∈ constraint.leaves

section

variable {type : ColumnType} {stored : Bytes} {cause : ValueError} {constraint : Constraint}

theorem evaluate_of_not_hasRequirement (nonempty : stored ≠ [])
    (free : ¬ constraint.HasRequirement) : constraint.evaluate type stored = .ok () := by
  rw [evaluate_eq_ok_iff_leaves nonempty]
  intro leaf member
  rcases eq_leaf_of_mem_leaves member with ⟨requirement, rfl⟩ | ⟨application, rfl⟩
  · exact absurd ⟨requirement, member⟩ free
  · rw [evaluate_eq_evaluateStored nonempty]
    rfl

theorem exists_rejects_of_hasRequirement (nonempty : stored ≠ [])
    (malformed : Value.decode type stored = .error cause) (required : constraint.HasRequirement) :
    ∃ violation, constraint.evaluate type stored = .error violation ∧
      ∃ requirement : Requirement, requirement.leaf ∈ constraint.leaves ∧
        requirement.Rejects type cause violation := by
  cases outcome : constraint.evaluate type stored with
  | ok =>
      obtain ⟨requirement, member⟩ := required
      have accepted := (evaluate_eq_ok_iff_leaves nonempty).mp outcome _ member
      obtain ⟨violation, refused, _⟩ := requirement.exists_rejects malformed
      rw [evaluate_eq_evaluateStored nonempty, refused] at accepted
      cases accepted
  | error violation =>
      refine ⟨violation, rfl, ?_⟩
      obtain ⟨leaf, ⟨_, _, split, _⟩, failed⟩ :=
        (evaluate_eq_error_iff_leaves nonempty).mp outcome
      have member : leaf ∈ constraint.leaves := by simp [split]
      rw [evaluate_eq_evaluateStored nonempty] at failed
      rcases eq_leaf_of_mem_leaves member with ⟨requirement, rfl⟩ | ⟨application, rfl⟩
      · obtain ⟨found, refused, rejects⟩ := requirement.exists_rejects malformed
        cases failed.symm.trans refused
        exact ⟨requirement, member, rejects⟩
      · cases failed

theorem evaluate_ne_ok_of_malformed (malformed : Value.decode type stored = .error cause)
    (required : constraint.HasRequirement) : constraint.evaluate type stored ≠ .ok () := by
  intro accepted
  obtain ⟨violation, refused, _⟩ :=
    exists_rejects_of_hasRequirement (ne_nil_of_evaluate accepted) malformed required
  simp [refused] at accepted

end

end Constraint

namespace Table

theorem exists_violation_of_malformed {table : Table} {config : Config}
    {assignments : List Assignment} {assignment : Assignment} {column : Column}
    {constraint : Constraint} {cause : ValueError} (enforced : config.enforceOnWrite = true)
    (assigned : assignment ∈ assignments) (defined : table.Defines assignment.column column)
    (notKey : column.isKey = false) (constrained : constraint ∈ column.constraints.constraints)
    (required : constraint.HasRequirement)
    (malformed : Value.decode column.type assignment.value = .error cause) :
    ∃ violation, table.checkUpdate config assignments = .error violation := by
  cases outcome : table.checkUpdate config assignments with
  | error violation => exact ⟨violation, rfl⟩
  | ok =>
      have satisfied := satisfies_of_checkUpdate enforced outcome assignment assigned
      have accepted := satisfied column defined notKey constraint constrained
      exact absurd accepted (Constraint.evaluate_ne_ok_of_malformed malformed required)

/-- Bytes that are no value of a type are refused by every constraint that compares something at
some depth, for the bytes or for its term, and pass every other. So where values are enforced, no
update is accepted that assigns such bytes to a column with a comparison. -/
theorem malformed_never_pass_comparisons :
    (∀ (constraint : Constraint) (type : ColumnType) (stored : Bytes) (cause : ValueError),
      stored ≠ [] → Value.decode type stored = .error cause →
      (constraint.HasRequirement → ∃ violation, constraint.evaluate type stored = .error violation ∧
        ∃ requirement : Requirement, requirement.leaf ∈ constraint.leaves ∧
          requirement.Rejects type cause violation) ∧
      (¬ constraint.HasRequirement → constraint.evaluate type stored = .ok ())) ∧
    ∀ (table : Table) (config : Config) (assignments : List Assignment) (assignment : Assignment)
      (column : Column) (cause : ValueError), config.enforceOnWrite = true →
      assignment ∈ assignments → table.Defines assignment.column column → column.isKey = false →
      (∃ constraint ∈ column.constraints.constraints, constraint.HasRequirement) →
      Value.decode column.type assignment.value = .error cause →
      ∃ violation, table.checkUpdate config assignments = .error violation := by
  refine ⟨?_, ?_⟩
  · intro constraint type stored cause nonempty malformed
    exact ⟨Constraint.exists_rejects_of_hasRequirement nonempty malformed,
      Constraint.evaluate_of_not_hasRequirement nonempty⟩
  · rintro table config assignments assignment column cause enforced assigned defined notKey
      ⟨constraint, constrained, required⟩ malformed
    exact exists_violation_of_malformed enforced assigned defined notKey constrained required
      malformed

def presence : Constraint :=
  .unary ⟨.notNull, ⟨"v"⟩⟩

theorem malformed_never_pass_comparisons_account :
    Value.decode .int [0, 5] = .error (.wrongLength .int 4 2) ∧
      presence.evaluate .int [0, 5] = .ok () ∧
      (∃ constraint ∈ balance.constraints.constraints, ∃ violation,
        constraint.evaluate .int [0, 5] = .error violation) ∧
      ∃ violation, account.checkUpdate {} [⟨⟨"balance"⟩, [0, 5]⟩] = .error violation := by
  obtain ⟨constraints, updates⟩ := malformed_never_pass_comparisons
  have malformed : Value.decode .int [0, 5] = .error (.wrongLength .int 4 2) := rfl
  have unrequired : ¬ presence.HasRequirement := by
    rintro ⟨_ | _, member⟩ <;> simp [presence, Constraint.leaves, Requirement.leaf] at member
  have compares : ∃ constraint ∈ balance.constraints.constraints, constraint.HasRequirement :=
    ⟨_, List.mem_singleton.mpr rfl, .scalar ⟨⟨"balance"⟩, .atLeast, "0"⟩, List.mem_cons_self⟩
  have defined : account.Defines ⟨"balance"⟩ balance :=
    column?_eq_some_iff.mp (by decide +kernel)
  refine ⟨malformed, (constraints _ _ _ _ (by simp) malformed).2 unrequired, ?_, ?_⟩
  · obtain ⟨constraint, member, required⟩ := compares
    obtain ⟨violation, refused, _⟩ :=
      (constraints constraint _ _ _ (List.cons_ne_nil _ _) malformed).1 required
    exact ⟨constraint, member, violation, refused⟩
  · exact updates account {} _ _ balance _ rfl (List.mem_singleton.mpr rfl) defined rfl compares
      malformed

def presenceTable : Table :=
  (Table.new "ks" "t").withColumn { Column.new "v" .int .regular with
    constraints := ⟨⟨"v"⟩, [presence]⟩ }

theorem presence_passes_malformed :
    presence.leaves = [presence] ∧
      Value.decode .int [0, 5] = .error (.wrongLength .int 4 2) ∧
      presence.evaluate .int [0, 5] = .ok () ∧
      (∃ column ∈ presenceTable.columns, presenceTable.Defines ⟨"v"⟩ column ∧
        column.isKey = false ∧ column.type = .int ∧ column.constraints.constraints = [presence]) ∧
      presenceTable.checkUpdate {} [⟨⟨"v"⟩, [0, 5]⟩] = .ok () := by
  refine ⟨rfl, rfl, rfl, ⟨_, List.mem_singleton.mpr rfl, ?_, rfl, rfl, rfl⟩, by decide +kernel⟩
  exact column?_eq_some_iff.mp (by decide +kernel)

end Table

end ColumnChecks
