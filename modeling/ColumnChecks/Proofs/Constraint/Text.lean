import ColumnChecks.Constraint.Printer
import ColumnChecks.Proofs.Constraint.Tree

/-! The text of a constraint tree is the conjunction of the texts of its leaves. -/

namespace ColumnChecks

theorem conjoined_cons {text : String} {texts : List String} (nonempty : texts ≠ []) :
    conjoined (text :: texts) = text ++ " AND " ++ conjoined texts :=
  String.intercalate_cons_of_ne_nil nonempty

theorem conjoined_append {first second : List String} (someFirst : first ≠ [])
    (someSecond : second ≠ []) :
    conjoined (first ++ second) = conjoined first ++ " AND " ++ conjoined second :=
  String.intercalate_append_of_ne_nil someFirst someSecond

namespace Constraint

mutual

def isFilled : Constraint → Bool
  | composed _ children => !children.isEmpty && eachFilled children
  | function _ => true
  | scalar _ => true
  | unary _ => true

def eachFilled : List Constraint → Bool
  | [] => true
  | first :: rest => first.isFilled && eachFilled rest

end

theorem eachFilled_iff {constraints : List Constraint} :
    eachFilled constraints = true ↔ ∀ constraint ∈ constraints, constraint.isFilled = true := by
  induction constraints with
  | nil => simp [eachFilled]
  | cons first rest ih => simp [eachFilled, ih]

theorem leaves_ne_nil {constraint : Constraint} (filled : constraint.isFilled = true) :
    constraint.leaves ≠ [] := by
  induction constraint with
  | composed column children ih =>
      simp only [isFilled, Bool.and_eq_true, eachFilled_iff] at filled
      cases children with
      | nil => simp at filled
      | cons first rest =>
          have nonempty := ih first (by simp) (filled.2 first (by simp))
          simp [leaves, eachLeaves, nonempty]
  | function => simp [leaves]
  | scalar => simp [leaves]
  | unary => simp [leaves]

theorem eachLeaves_ne_nil {constraints : List Constraint} (nonempty : constraints ≠ [])
    (filled : ∀ constraint ∈ constraints, constraint.isFilled = true) :
    eachLeaves constraints ≠ [] := by
  obtain ⟨first, rest, rfl⟩ := List.exists_cons_of_ne_nil nonempty
  have someLeaves := leaves_ne_nil (filled first (by simp))
  simp [eachLeaves, someLeaves]

theorem conjoined_eachToCql {constraints : List Constraint}
    (filled : ∀ constraint ∈ constraints, constraint.isFilled = true)
    (flat : ∀ constraint ∈ constraints,
      constraint.toCql = conjoined (constraint.leaves.map toCql)) :
    conjoined (eachToCql constraints) = conjoined ((eachLeaves constraints).map toCql) := by
  induction constraints with
  | nil => rfl
  | cons first rest ih =>
      simp only [List.forall_mem_cons] at filled flat
      by_cases last : rest = []
      · subst last
        simpa [eachToCql, eachLeaves, conjoined] using flat.1
      · have someTexts : eachToCql rest ≠ [] := by
          obtain ⟨next, others, rfl⟩ := List.exists_cons_of_ne_nil last
          simp [eachToCql]
        have someLeaves := leaves_ne_nil filled.1
        have moreLeaves := eachLeaves_ne_nil last filled.2
        rw [eachToCql, conjoined_cons someTexts, eachLeaves, List.map_append,
          conjoined_append (by simpa using someLeaves) (by simpa using moreLeaves), flat.1,
          ih filled.2 flat.2]

theorem toCql_of_isFilled {constraint : Constraint} (filled : constraint.isFilled = true) :
    constraint.toCql = conjoined (constraint.leaves.map toCql) := by
  induction constraint with
  | composed column children ih =>
      simp only [isFilled, Bool.and_eq_true, eachFilled_iff] at filled
      exact conjoined_eachToCql filled.2 fun child member => ih child member (filled.2 child member)
  | function => rfl
  | scalar => rfl
  | unary => rfl

def term? : Constraint → Option String
  | composed _ _ => none
  | function comparison => some comparison.term
  | scalar comparison => some comparison.term
  | unary _ => none

/-- The constraint is a leaf that a clause on the column can state. -/
def IsLeafOf (column : ColumnName) : Constraint → Prop
  | composed _ _ => False
  | function _ => True
  | scalar comparison => comparison.column = column
  | unary _ => True

theorem isLeafOf_of_mem_leaves {constraint leaf : Constraint} {column : ColumnName}
    (member : leaf ∈ constraint.leaves)
    (own : ∀ comparison, leaf = .scalar comparison → comparison.column = column) :
    leaf.IsLeafOf column := by
  cases leaf with
  | composed => exact absurd rfl (kind_of_mem_leaves member)
  | function comparison => trivial
  | scalar comparison => exact own comparison rfl
  | unary application => trivial

end Constraint

theorem ConstraintSet.toCql_of_isFilled {set : ConstraintSet}
    (filled : ∀ constraint ∈ set.constraints, constraint.isFilled = true) :
    set.toCql = conjoined ((Constraint.eachLeaves set.constraints).map Constraint.toCql) :=
  Constraint.conjoined_eachToCql filled fun constraint member =>
    Constraint.toCql_of_isFilled (filled constraint member)

end ColumnChecks
