import ColumnChecks.Proofs.Constraint.Checks
import ColumnChecks.Proofs.Value.Kind

/-! What the requirements of a validated constraint say about a value: evaluation succeeds if all of
them are true of it, and fails with a requirement only if that one is false. -/

namespace ColumnChecks

def Operator.Relates : Operator → Int → Int → Prop
  | equal, actual, expected => actual = expected
  | atLeast, actual, expected => expected ≤ actual
  | greater, actual, expected => expected < actual
  | atMost, actual, expected => actual ≤ expected
  | less, actual, expected => actual < expected
  | unequal, actual, expected => actual ≠ expected

theorem Operator.holds_compare_iff (operator : Operator) (actual expected : Int) :
    operator.holds (compare actual expected) = true ↔ operator.Relates actual expected := by
  cases operator <;>
    simp [holds, Relates, Int.compare_eq_lt, Int.compare_eq_gt]

theorem compare_natCast (first second : Nat) :
    compare (first : Int) second = compare first second := by
  rcases Nat.lt_trichotomy first second with less | rfl | greater
  · rw [Nat.compare_eq_lt.mpr less, Int.compare_eq_lt.mpr (by omega)]
  · rw [Nat.compare_eq_eq.mpr rfl, Int.compare_eq_eq.mpr rfl]
  · rw [Nat.compare_eq_gt.mpr greater, Int.compare_eq_gt.mpr (by omega)]

namespace Requirement

def leaf : Requirement → Constraint
  | scalar comparison => .scalar comparison
  | function comparison => .function comparison

def operator : Requirement → Operator
  | scalar comparison => comparison.operator
  | function comparison => comparison.operator

/-- The two numbers of which a requirement on a value of the type states its relation. Floats stand
for their places in the total order. -/
inductive Compares (type : ColumnType) (value : Value) : Requirement → Int → Int → Prop
  | integer {comparison : Comparison} {actual expected : Int64} : value = .integer actual →
      Value.ofLiteral? type comparison.term = some (.integer expected) →
      Compares type value (.scalar comparison) actual.toInt expected.toInt
  | float {comparison : Comparison} {actual expected : UInt64} : value = .float actual →
      Value.ofLiteral? type comparison.term = some (.float expected) →
      Compares type value (.scalar comparison) (Number.totalOrderKey actual)
        (Number.totalOrderKey expected)
  | measure {comparison : MeasureComparison} {count : Nat} {limit : Int} :
      comparison.measure.count? value = some count → comparison.limit? = some limit →
      Compares type value (.function comparison) count limit

def Holds (type : ColumnType) (value : Value) (requirement : Requirement) : Prop :=
  ∃ actual expected, requirement.Compares type value actual expected ∧
    requirement.operator.Relates actual expected

def Fails (type : ColumnType) (value : Value) (requirement : Requirement) : Prop :=
  ∃ actual expected, requirement.Compares type value actual expected ∧
    ¬ requirement.operator.Relates actual expected

/-- What the evaluation of a requirement on stored bytes comes to, if it may be declared on a column
of the type. -/
inductive Outcome (type : ColumnType) (stored : Bytes) : Requirement → Except Violation Unit → Prop
  | unread {comparison : Comparison} : Value.ofLiteral? type comparison.term = none →
      Outcome type stored (.scalar comparison)
        (.error (.nonNumericTerm comparison.column comparison.term))
  | malformed {requirement : Requirement} {cause : ValueError} :
      Value.decode type stored = .error cause →
      Outcome type stored requirement (.error (.malformedValue requirement.column cause))
  | holds {requirement : Requirement} {value : Value} : Value.decode type stored = .ok value →
      requirement.Holds type value → Outcome type stored requirement (.ok ())
  | fails {requirement : Requirement} {value : Value} : Value.decode type stored = .ok value →
      requirement.Fails type value →
      Outcome type stored requirement (.error (.unsatisfied requirement))

section

variable {type : ColumnType} {stored : Bytes} {value : Value} {requirement : Requirement}
variable {actual expected : Int}

theorem evaluateStored_of_compares (decoded : Value.decode type stored = .ok value)
    (compares : requirement.Compares type value actual expected) :
    requirement.leaf.evaluateStored type stored =
      if requirement.operator.holds (compare actual expected) then .ok ()
      else .error (.unsatisfied requirement) := by
  cases compares with
  | integer same read =>
      subst value
      simp only [leaf, Constraint.evaluateStored, Comparison.evaluate, read, decoded,
        Value.compare?, Option.any_some]
      rfl
  | float same read =>
      subst value
      simp only [leaf, Constraint.evaluateStored, Comparison.evaluate, read, decoded,
        Value.compare?, Option.any_some, compare_natCast]
      rfl
  | measure counted limited =>
      simp only [leaf, Constraint.evaluateStored, MeasureComparison.evaluate, limited, decoded,
        counted]
      rfl

theorem evaluateStored_of_holds (decoded : Value.decode type stored = .ok value)
    (holds : requirement.Holds type value) :
    requirement.leaf.evaluateStored type stored = .ok () := by
  obtain ⟨actual, expected, compares, related⟩ := holds
  rw [evaluateStored_of_compares decoded compares,
    if_pos ((Operator.holds_compare_iff _ _ _).mpr related)]

theorem outcome_of_compares (decoded : Value.decode type stored = .ok value)
    (compares : requirement.Compares type value actual expected) :
    requirement.Outcome type stored (requirement.leaf.evaluateStored type stored) := by
  rw [evaluateStored_of_compares decoded compares]
  by_cases related : requirement.operator.Relates actual expected
  · rw [if_pos ((Operator.holds_compare_iff _ _ _).mpr related)]
    exact .holds decoded ⟨actual, expected, compares, related⟩
  · rw [if_neg (mt (Operator.holds_compare_iff _ _ _).mp related)]
    exact .fails decoded ⟨actual, expected, compares, related⟩

theorem exists_compares_scalar {comparison : Comparison} {term : Value}
    (number : type.isNumber = true) (decoded : Value.decode type stored = .ok value)
    (read : Value.ofLiteral? type comparison.term = some term) :
    ∃ actual expected, (scalar comparison).Compares type value actual expected ∧
      value.compare? term = some (compare actual expected) := by
  have valueKind := Value.kind_of_decode decoded
  have termKind := Value.kind_of_ofLiteral? read
  rcases ColumnType.kind_of_isNumber number with integral | floating
  · obtain ⟨actual, rfl⟩ := Value.eq_integer_of_kind (valueKind.trans integral)
    obtain ⟨expected, rfl⟩ := Value.eq_integer_of_kind (termKind.trans integral)
    exact ⟨_, _, .integer rfl read, rfl⟩
  · obtain ⟨actual, rfl⟩ := Value.eq_float_of_kind (valueKind.trans floating)
    obtain ⟨expected, rfl⟩ := Value.eq_float_of_kind (termKind.trans floating)
    exact ⟨_, _, .float rfl read, by rw [Value.compare?, compare_natCast]⟩

theorem outcome_scalar {comparison : Comparison} {column : Column}
    (valid : comparison.validate column = .ok ()) :
    (scalar comparison).Outcome column.type stored (comparison.evaluate column.type stored) := by
  have number := comparison.isNumber_of_validate valid
  cases read : Value.ofLiteral? column.type comparison.term with
  | none =>
      simp only [Comparison.evaluate, read]
      exact .unread read
  | some term =>
      cases decoded : Value.decode column.type stored with
      | error cause =>
          simp only [Comparison.evaluate, read, decoded]
          exact .malformed decoded
      | ok value =>
          obtain ⟨_, _, compares, _⟩ := exists_compares_scalar number decoded read
          exact outcome_of_compares decoded compares

theorem outcome_function {comparison : MeasureComparison} {column : Column}
    (valid : comparison.validate column = .ok ()) :
    (function comparison).Outcome column.type stored (comparison.evaluate column.type stored) := by
  obtain ⟨_, supported, limit, limited⟩ := MeasureComparison.validate_eq_ok_iff.mp valid
  cases decoded : Value.decode column.type stored with
  | error cause =>
      simp only [MeasureComparison.evaluate, limited, decoded]
      exact .malformed decoded
  | ok value =>
      obtain ⟨count, _, counted⟩ := Value.exists_count? supported decoded
      exact outcome_of_compares decoded (.measure counted limited)

theorem outcome_of_validate {column : Column}
    (valid : requirement.leaf.validate column = .ok ()) :
    requirement.Outcome column.type stored
      (requirement.leaf.evaluateStored column.type stored) := by
  cases requirement with
  | scalar comparison => exact outcome_scalar valid
  | function comparison => exact outcome_function valid

end

end Requirement

namespace Constraint

theorem eq_leaf_of_mem_leaves {constraint leaf : Constraint} (member : leaf ∈ constraint.leaves) :
    (∃ requirement : Requirement, leaf = requirement.leaf) ∨
      ∃ application, leaf = .unary application := by
  cases leaf with
  | composed => exact absurd rfl (kind_of_mem_leaves member)
  | function comparison => exact Or.inl ⟨.function comparison, rfl⟩
  | scalar comparison => exact Or.inl ⟨.scalar comparison, rfl⟩
  | unary application => exact Or.inr ⟨application, rfl⟩

section

variable {column : Column} {constraint : Constraint} {stored : Bytes} {violation : Violation}

theorem outcome_of_mem_leaves (valid : constraint.validate column = .ok ())
    {requirement : Requirement} (member : requirement.leaf ∈ constraint.leaves) :
    requirement.Outcome column.type stored
      (requirement.leaf.evaluateStored column.type stored) := by
  rw [validate_eq_forM_leaves] at valid
  exact Requirement.outcome_of_validate (forM_eq_ok_iff.mp valid _ member)

theorem exists_outcome_of_evaluate (valid : constraint.validate column = .ok ())
    (nonempty : stored ≠ [])
    (failed : constraint.evaluate column.type stored = .error violation) :
    ∃ requirement : Requirement, requirement.leaf ∈ constraint.leaves ∧
      requirement.Outcome column.type stored (.error violation) := by
  rw [evaluate_eq_evaluateStored nonempty, evaluateStored_eq_forM_leaves] at failed
  obtain ⟨leaf, member, refused⟩ := exists_of_forM_eq_error failed
  rcases eq_leaf_of_mem_leaves member with ⟨requirement, rfl⟩ | ⟨application, rfl⟩
  · exact ⟨requirement, member, refused ▸ outcome_of_mem_leaves valid member⟩
  · simp [evaluateStored, Application.evaluate] at refused

theorem evaluate_eq_ok_iff (valid : constraint.validate column = .ok ())
    (nonempty : stored ≠ []) :
    constraint.evaluate column.type stored = .ok () ↔
      ∀ requirement : Requirement, requirement.leaf ∈ constraint.leaves →
        ∃ value, Value.decode column.type stored = .ok value ∧
          requirement.Holds column.type value := by
  rw [evaluate_eq_evaluateStored nonempty, evaluateStored_eq_forM_leaves, forM_eq_ok_iff]
  constructor
  · intro accepted requirement member
    have outcome : requirement.Outcome column.type stored _ := outcome_of_mem_leaves valid member
    rw [accepted _ member] at outcome
    cases outcome with
    | holds decoded holds => exact ⟨_, decoded, holds⟩
  · intro held leaf member
    rcases eq_leaf_of_mem_leaves member with ⟨requirement, rfl⟩ | ⟨application, rfl⟩
    · obtain ⟨value, decoded, holds⟩ := held requirement member
      exact Requirement.evaluateStored_of_holds decoded holds
    · rfl

end

/-- On a column for which it is validated, a constraint reports a requirement only if the value has
the column's type, the term is a literal and the relation between them is false. The value and the
term of a comparison are always compared, and measures always apply. A term is reported only by a
comparison, for not being a literal. A value is accepted exactly if all requirements hold of it. -/
theorem fails_as_stated {column : Column} {constraint : Constraint} {stored : Bytes}
    (valid : constraint.validate column = .ok ()) (nonempty : stored ≠ [])
    (short : stored.length < 2 ^ 63) :
    (∀ requirement, constraint.evaluate column.type stored = .error (.unsatisfied requirement) →
      requirement.leaf ∈ constraint.leaves ∧
        ∃ value, Value.decode column.type stored = .ok value ∧
          requirement.Fails column.type value) ∧
    (∀ comparison value term, .scalar comparison ∈ constraint.leaves →
      Value.decode column.type stored = .ok value →
      Value.ofLiteral? column.type comparison.term = some term →
      ∃ actual expected,
        (Requirement.scalar comparison).Compares column.type value actual expected ∧
        value.compare? term = some (compare actual expected)) ∧
    (∀ comparison, .function comparison ∈ constraint.leaves →
      (∃ limit, comparison.limit? = some limit) ∧
      ∀ value, Value.decode column.type stored = .ok value →
        ∃ count < 2 ^ 63, comparison.measure.count? value = some count) ∧
    (∀ name term,
      constraint.evaluate column.type stored = .error (.nonNumericTerm name term) →
      ∃ operator, .scalar ⟨name, operator, term⟩ ∈ constraint.leaves ∧
        Value.ofLiteral? column.type term = none) ∧
    (∀ comparison name term, .function comparison ∈ constraint.leaves →
      evaluate column.type stored (.function comparison) ≠ .error (.nonNumericTerm name term)) ∧
    (constraint.evaluate column.type stored = .ok () ↔
      ∀ requirement : Requirement, requirement.leaf ∈ constraint.leaves →
        ∃ value, Value.decode column.type stored = .ok value ∧
          requirement.Holds column.type value) := by
  have leafValid : ∀ leaf ∈ constraint.leaves, leaf.validate column = .ok () := by
    rw [validate_eq_forM_leaves] at valid
    exact forM_eq_ok_iff.mp valid
  refine ⟨?_, ?_, ?_, ?_, ?_, evaluate_eq_ok_iff valid nonempty⟩
  · intro requirement failed
    obtain ⟨other, member, outcome⟩ := exists_outcome_of_evaluate valid nonempty failed
    cases outcome with
    | fails decoded fails => exact ⟨member, _, decoded, fails⟩
  · intro comparison value term member decoded read
    have number := Comparison.isNumber_of_validate (leafValid _ member)
    exact Requirement.exists_compares_scalar number decoded read
  · intro comparison member
    obtain ⟨_, supported, limited⟩ :=
      MeasureComparison.validate_eq_ok_iff.mp (leafValid _ member)
    refine ⟨limited, fun value decoded => ?_⟩
    -- A count is at most the number of stored bytes, so it fits a signed word.
    obtain ⟨count, bound, counted⟩ := Value.exists_count? supported decoded
    exact ⟨count, by omega, counted⟩
  · intro name term failed
    obtain ⟨requirement, member, outcome⟩ := exists_outcome_of_evaluate valid nonempty failed
    cases outcome with
    | unread unread => exact ⟨_, member, unread⟩
  · intro comparison name term member failed
    rw [evaluate_eq_evaluateStored nonempty, evaluateStored] at failed
    have outcome : (Requirement.function comparison).Outcome column.type stored _ :=
      Requirement.outcome_function (leafValid _ member)
    rw [failed] at outcome
    cases outcome

def reading : Column :=
  ⟨⟨"reading"⟩, .int, .regular, 0, .none ⟨"reading"⟩⟩

def bounded : Constraint :=
  .composed ⟨"reading"⟩ [.unary ⟨.notNull, ⟨"reading"⟩⟩,
    .composed ⟨"reading"⟩ [.scalar ⟨⟨"reading"⟩, .atLeast, "0"⟩,
      .scalar ⟨⟨"reading"⟩, .less, "ten"⟩]]

theorem fails_as_stated_bounded :
    bounded.validate reading = .ok () ∧
      bounded.evaluate .int [255, 255, 255, 251] =
        .error (.unsatisfied (.scalar ⟨⟨"reading"⟩, .atLeast, "0"⟩)) ∧
      (∃ value, Value.decode .int [255, 255, 255, 251] = .ok value ∧
        (Requirement.scalar ⟨⟨"reading"⟩, .atLeast, "0"⟩).Fails .int value) ∧
      bounded.evaluate .int [0, 0, 0, 5] = .error (.nonNumericTerm ⟨"reading"⟩ "ten") ∧
      ∃ operator, .scalar ⟨⟨"reading"⟩, operator, "ten"⟩ ∈ bounded.leaves ∧
        Value.ofLiteral? .int "ten" = none := by
  have valid : bounded.validate reading = .ok () := rfl
  have negative : bounded.evaluate .int [255, 255, 255, 251] =
      .error (.unsatisfied (.scalar ⟨⟨"reading"⟩, .atLeast, "0"⟩)) := by decide
  have unread : bounded.evaluate .int [0, 0, 0, 5] =
      .error (.nonNumericTerm ⟨"reading"⟩ "ten") := by decide
  have fails := ((fails_as_stated valid (by simp) (by simp)).1 _ negative).2
  obtain ⟨_, _, _, terms, _⟩ := fails_as_stated valid (List.cons_ne_nil 0 [0, 0, 5]) (by simp)
  exact ⟨valid, negative, fails, unread, terms _ _ unread⟩

end Constraint

end ColumnChecks
