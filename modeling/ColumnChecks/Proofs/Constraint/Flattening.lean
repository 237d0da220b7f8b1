import ColumnChecks.Proofs.Constraint.Checks

/-! Constraints and their leaves. On every value but null, a constraint comes to what its leaves
come to, checked one after the other, so it does not matter how they are nested and grouped. -/

namespace ColumnChecks.Constraint

variable {type : ColumnType} {stored : Bytes}

theorem evaluate_composed (nonempty : stored ≠ []) (column : ColumnName)
    (children : List Constraint) :
    (composed column children).evaluate type stored = children.forM (evaluate type stored) := by
  have each : evaluate type stored = evaluateStored type stored :=
    funext fun _ => evaluate_eq_evaluateStored nonempty
  rw [each, evaluateStored, evaluateEach_eq_forM]

theorem evaluate_eq_forM_leaves (nonempty : stored ≠ []) (constraint : Constraint) :
    constraint.evaluate type stored = constraint.leaves.forM (evaluate type stored) :=
  eq_forM_leaves (evaluate_composed nonempty) constraint

theorem evaluate_eq_ok_iff_leaves (nonempty : stored ≠ []) {constraint : Constraint} :
    constraint.evaluate type stored = .ok () ↔
      ∀ leaf ∈ constraint.leaves, leaf.evaluate type stored = .ok () := by
  rw [evaluate_eq_forM_leaves nonempty, forM_eq_ok_iff]

theorem evaluate_eq_error_iff_leaves (nonempty : stored ≠ []) {constraint : Constraint}
    {violation : Violation} :
    constraint.evaluate type stored = .error violation ↔
      ∃ leaf, IsFirst (fun other => other.evaluate type stored ≠ .ok ()) constraint.leaves leaf ∧
        leaf.evaluate type stored = .error violation := by
  rw [evaluate_eq_forM_leaves nonempty, forM_eq_error_iff]

/-- A value that is not null has the outcome of the first leaf that refuses it, and is accepted if
there is none. So constraints with the same leaves in one order agree in every outcome, and those
with the same leaves in any order and number accept the same values. Null is refused in the name of
the outermost constraint, whatever is inside it. -/
theorem evaluate_ignores_nesting (type : ColumnType) :
    (∀ stored ≠ [], ∀ constraint : Constraint,
      (constraint.evaluate type stored = .ok () ↔
        ∀ leaf ∈ constraint.leaves, leaf.evaluate type stored = .ok ()) ∧
      ∀ violation, constraint.evaluate type stored = .error violation ↔
        ∃ leaf, IsFirst (fun other => other.evaluate type stored ≠ .ok ()) constraint.leaves leaf ∧
          leaf.evaluate type stored = .error violation) ∧
    (∀ stored ≠ [], ∀ first second : Constraint, first.leaves = second.leaves →
      first.evaluate type stored = second.evaluate type stored) ∧
    (∀ stored ≠ [], ∀ first second : Constraint,
      (∀ leaf, leaf ∈ first.leaves ↔ leaf ∈ second.leaves) →
      (first.evaluate type stored = .ok () ↔ second.evaluate type stored = .ok ())) ∧
    ∀ constraint : Constraint,
      constraint.evaluate type [] = .error (.nullValue constraint.column) := by
  refine ⟨?_, ?_, ?_, fun constraint => rfl⟩
  · intro stored nonempty constraint
    exact ⟨evaluate_eq_ok_iff_leaves nonempty, fun _ => evaluate_eq_error_iff_leaves nonempty⟩
  · intro stored nonempty first second same
    rw [evaluate_eq_forM_leaves nonempty, evaluate_eq_forM_leaves nonempty, same]
  · intro stored nonempty first second same
    rw [evaluate_eq_ok_iff_leaves nonempty, evaluate_eq_ok_iff_leaves nonempty]
    simp only [same]

def passMark : Constraint :=
  .scalar ⟨⟨"mark"⟩, .atLeast, "50"⟩

def topMark : Constraint :=
  .scalar ⟨⟨"mark"⟩, .atMost, "100"⟩

def nestedMarks : Constraint :=
  .composed ⟨"mark"⟩ [.composed ⟨"total"⟩ [passMark], .composed ⟨"mark"⟩ [],
    .composed ⟨"mark"⟩ [.unary ⟨.notNull, ⟨"mark"⟩⟩, topMark]]

def listedMarks : Constraint :=
  .composed ⟨"points"⟩ [passMark, .unary ⟨.notNull, ⟨"mark"⟩⟩, topMark]

def repeatedMarks : Constraint :=
  .composed ⟨"mark"⟩ [topMark, passMark, .unary ⟨.notNull, ⟨"mark"⟩⟩, topMark]

theorem evaluate_ignores_nesting_marks :
    nestedMarks.leaves = listedMarks.leaves ∧
      nestedMarks.evaluate .int [0, 0, 0, 7] =
        .error (.unsatisfied (.scalar ⟨⟨"mark"⟩, .atLeast, "50"⟩)) ∧
      listedMarks.evaluate .int [0, 0, 0, 7] = nestedMarks.evaluate .int [0, 0, 0, 7] ∧
      repeatedMarks.evaluate .int [0, 0, 0, 70] = .ok () ∧
      nestedMarks.evaluate .int [] = .error (.nullValue ⟨"mark"⟩) ∧
      listedMarks.evaluate .int [] = .error (.nullValue ⟨"points"⟩) := by
  obtain ⟨outcome, agree, accept, null⟩ := evaluate_ignores_nesting .int
  have refused : passMark.evaluate .int [0, 0, 0, 7] =
      .error (.unsatisfied (.scalar ⟨⟨"mark"⟩, .atLeast, "50"⟩)) := by decide
  have first : IsFirst (fun leaf => leaf.evaluate .int [0, 0, 0, 7] ≠ .ok ())
      nestedMarks.leaves passMark := ⟨[], _, rfl, by simp [refused], by simp⟩
  have accepted : nestedMarks.evaluate .int [0, 0, 0, 70] = .ok () := by decide
  have together (leaf : Constraint) :
      leaf ∈ repeatedMarks.leaves ↔ leaf ∈ nestedMarks.leaves := by
    change leaf ∈ [topMark, passMark, _, topMark] ↔ leaf ∈ [passMark, _, topMark]
    simp only [List.mem_cons, List.not_mem_nil, or_false]
    tauto
  refine ⟨rfl, ((outcome _ (by simp) nestedMarks).2 _).mpr ⟨passMark, first, refused⟩,
    agree _ (by simp) _ _ rfl, ?_, null _, null _⟩
  exact (accept _ (by simp) repeatedMarks nestedMarks together).mpr accepted

end ColumnChecks.Constraint
