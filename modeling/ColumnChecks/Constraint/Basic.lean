import ColumnChecks.Column.Name
import ColumnChecks.Constraint.Function
import ColumnChecks.Constraint.Operator

/-!
Constraints on the values of a column: comparisons, function applications, and conjunctions of
constraints nested to any depth.
-/

namespace ColumnChecks

structure Comparison where
  column : ColumnName
  operator : Operator
  term : String
  deriving DecidableEq

structure MeasureComparison where
  measure : Measure
  column : ColumnName
  operator : Operator
  term : String
  deriving DecidableEq

structure Application where
  function : UnaryFunction
  column : ColumnName
  deriving DecidableEq

/-- A constraint. A composed one holds when all its children do. -/
inductive Constraint where
  | composed (column : ColumnName) (children : List Constraint)
  | function (comparison : MeasureComparison)
  | scalar (comparison : Comparison)
  | unary (application : Application)

structure ConstraintSet where
  column : ColumnName
  constraints : List Constraint

inductive ConstraintKind where
  | composed
  | function
  | scalar
  | unaryFunction
  deriving DecidableEq

namespace ConstraintKind

def all : List ConstraintKind := [.composed, .function, .scalar, .unaryFunction]

def tag : ConstraintKind → Int32
  | composed => 0
  | function => 1
  | scalar => 2
  | unaryFunction => 3

def ofTag? (tag : Int32) : Option ConstraintKind :=
  all.find? (·.tag = tag)

def name : ConstraintKind → String
  | composed => "COMPOSED"
  | function => "FUNCTION"
  | scalar => "SCALAR"
  | unaryFunction => "UNARY_FUNCTION"

theorem mem_all (kind : ConstraintKind) : kind ∈ all := by
  cases kind <;> simp [all]

theorem ofTag?_tag (kind : ConstraintKind) : ofTag? kind.tag = some kind := by
  cases kind <;> rfl

end ConstraintKind

namespace Constraint

def kind : Constraint → ConstraintKind
  | composed _ _ => .composed
  | function _ => .function
  | scalar _ => .scalar
  | unary _ => .unaryFunction

def column : Constraint → ColumnName
  | composed column _ => column
  | function comparison => comparison.column
  | scalar comparison => comparison.column
  | unary application => application.column

mutual

/-- The constraint forbids null: it applies `NOT_NULL` at some depth. -/
def requiresValue : Constraint → Bool
  | composed _ children => anyRequiresValue children
  | unary application => application.function = .notNull
  | function _ => false
  | scalar _ => false

def anyRequiresValue : List Constraint → Bool
  | [] => false
  | first :: rest => first.requiresValue || anyRequiresValue rest

end

mutual

def decEq : (first second : Constraint) → Decidable (first = second)
  | composed column children, composed column' children' =>
    match decEqEach children children' with
    | isTrue same =>
      if sameColumn : column = column' then isTrue (by rw [same, sameColumn])
      else isFalse fun equal => sameColumn (Constraint.composed.inj equal).1
    | isFalse different => isFalse fun equal => different (Constraint.composed.inj equal).2
  | function comparison, function comparison' =>
    if same : comparison = comparison' then isTrue (by rw [same])
    else isFalse fun equal => same (Constraint.function.inj equal)
  | scalar comparison, scalar comparison' =>
    if same : comparison = comparison' then isTrue (by rw [same])
    else isFalse fun equal => same (Constraint.scalar.inj equal)
  | unary application, unary application' =>
    if same : application = application' then isTrue (by rw [same])
    else isFalse fun equal => same (Constraint.unary.inj equal)
  | composed _ _, function _ => isFalse nofun
  | composed _ _, scalar _ => isFalse nofun
  | composed _ _, unary _ => isFalse nofun
  | function _, composed _ _ => isFalse nofun
  | function _, scalar _ => isFalse nofun
  | function _, unary _ => isFalse nofun
  | scalar _, composed _ _ => isFalse nofun
  | scalar _, function _ => isFalse nofun
  | scalar _, unary _ => isFalse nofun
  | unary _, composed _ _ => isFalse nofun
  | unary _, function _ => isFalse nofun
  | unary _, scalar _ => isFalse nofun

def decEqEach : (firsts seconds : List Constraint) → Decidable (firsts = seconds)
  | [], [] => isTrue rfl
  | [], _ :: _ => isFalse nofun
  | _ :: _, [] => isFalse nofun
  | first :: firsts, second :: seconds =>
    match decEq first second, decEqEach firsts seconds with
    | isTrue same, isTrue sameRest => isTrue (by rw [same, sameRest])
    | isFalse different, _ => isFalse fun equal => different (List.cons.inj equal).1
    | _, isFalse different => isFalse fun equal => different (List.cons.inj equal).2

end

instance : DecidableEq Constraint := decEq

end Constraint

deriving instance DecidableEq for ConstraintSet

namespace ConstraintSet

def none (column : ColumnName) : ConstraintSet :=
  ⟨column, []⟩

def toConstraint (set : ConstraintSet) : Constraint :=
  .composed set.column set.constraints

def isEmpty (set : ConstraintSet) : Bool :=
  set.constraints.isEmpty

def requiresValue (set : ConstraintSet) : Bool :=
  Constraint.anyRequiresValue set.constraints

end ConstraintSet

end ColumnChecks
