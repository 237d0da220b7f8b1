import ColumnChecks.Constraint.Basic

/-! Constraints as trees: induction over them, how deep they nest and which leaves they have. -/

namespace ColumnChecks

namespace Constraint

/-- What holds of a composed constraint whenever it holds of its children, and of all leaves, holds
of every constraint. -/
@[elab_as_elim, induction_eliminator]
theorem tree_induction {motive : Constraint → Prop}
    (composed : ∀ column children, (∀ child ∈ children, motive child) →
      motive (.composed column children))
    (function : ∀ comparison, motive (.function comparison))
    (scalar : ∀ comparison, motive (.scalar comparison))
    (unary : ∀ application, motive (.unary application)) :
    ∀ constraint, motive constraint
  | .composed column children =>
      composed column children fun child _ =>
        tree_induction composed function scalar unary child
  | .function comparison => function comparison
  | .scalar comparison => scalar comparison
  | .unary application => unary application

mutual

/-- The greatest number of composed constraints that enclose one another in a constraint, the
constraint itself counted. -/
def nesting : Constraint → Nat
  | composed _ children => nestingEach children + 1
  | function _ => 0
  | scalar _ => 0
  | unary _ => 0

def nestingEach : List Constraint → Nat
  | [] => 0
  | first :: rest => max first.nesting (nestingEach rest)

end

theorem nestingEach_le_iff {constraints : List Constraint} {levels : Nat} :
    nestingEach constraints ≤ levels ↔ ∀ constraint ∈ constraints, constraint.nesting ≤ levels := by
  induction constraints with
  | nil => simp [nestingEach]
  | cons first rest ih => simp only [nestingEach, Nat.max_le, ih, List.forall_mem_cons]

mutual

def leaves : Constraint → List Constraint
  | composed _ children => eachLeaves children
  | function comparison => [.function comparison]
  | scalar comparison => [.scalar comparison]
  | unary application => [.unary application]

def eachLeaves : List Constraint → List Constraint
  | [] => []
  | first :: rest => first.leaves ++ eachLeaves rest

end

theorem mem_eachLeaves {constraints : List Constraint} {leaf : Constraint} :
    leaf ∈ eachLeaves constraints ↔ ∃ constraint ∈ constraints, leaf ∈ constraint.leaves := by
  induction constraints with
  | nil => simp [eachLeaves]
  | cons first rest ih => simp [eachLeaves, ih]

theorem kind_of_mem_leaves {constraint leaf : Constraint} (member : leaf ∈ constraint.leaves) :
    leaf.kind ≠ .composed := by
  induction constraint with
  | composed column children ih =>
      obtain ⟨child, inside, below⟩ := mem_eachLeaves.mp member
      exact ih child inside below
  | function comparison => simp [List.mem_singleton.mp member, kind]
  | scalar comparison => simp [List.mem_singleton.mp member, kind]
  | unary application => simp [List.mem_singleton.mp member, kind]

theorem anyRequiresValue_iff {constraints : List Constraint} :
    anyRequiresValue constraints = true ↔
      ∃ constraint ∈ constraints, constraint.requiresValue = true := by
  induction constraints with
  | nil => simp [anyRequiresValue]
  | cons first rest ih => simp [anyRequiresValue, ih]

theorem requiresValue_iff (constraint : Constraint) :
    constraint.requiresValue = true ↔ ∃ column, .unary ⟨.notNull, column⟩ ∈ constraint.leaves := by
  induction constraint with
  | composed column children ih =>
      simp only [requiresValue, anyRequiresValue_iff, leaves, mem_eachLeaves]
      constructor
      · rintro ⟨child, member, required⟩
        obtain ⟨argument, leaf⟩ := (ih child member).mp required
        exact ⟨argument, child, member, leaf⟩
      · rintro ⟨argument, child, member, leaf⟩
        exact ⟨child, member, (ih child member).mpr ⟨argument, leaf⟩⟩
  | function comparison => simp [requiresValue, leaves]
  | scalar comparison => simp [requiresValue, leaves]
  | unary application =>
      obtain ⟨⟨⟩, column⟩ := application
      simp [requiresValue, leaves]

end Constraint

theorem ConstraintSet.requiresValue_iff (set : ConstraintSet) :
    set.requiresValue = true ↔
      ∃ constraint ∈ set.constraints, ∃ column, .unary ⟨.notNull, column⟩ ∈ constraint.leaves := by
  simp only [requiresValue, Constraint.anyRequiresValue_iff, Constraint.requiresValue_iff]

end ColumnChecks
