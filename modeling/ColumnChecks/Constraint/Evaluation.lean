import ColumnChecks.Constraint.Error
import ColumnChecks.Number.Integer
import ColumnChecks.Value.Encoding

/-!
Evaluation of constraints on stored values. The empty byte string is null, which no constraint
accepts.
-/

namespace ColumnChecks

def Comparison.evaluate (comparison : Comparison) (type : ColumnType) (stored : Bytes) :
    Except Violation Unit :=
  match Value.ofLiteral? type comparison.term with
  | none => .error (.nonNumericTerm comparison.column comparison.term)
  | some term =>
    match Value.decode type stored with
    | .error cause => .error (.malformedValue comparison.column cause)
    | .ok value =>
      if (value.compare? term).any comparison.operator.holds then .ok ()
      else .error (.unsatisfied (.scalar comparison))

namespace MeasureComparison

def limit? (comparison : MeasureComparison) : Option Int :=
  Number.signed? 8 (Text.trim comparison.term.toList)

def evaluate (comparison : MeasureComparison) (type : ColumnType) (stored : Bytes) :
    Except Violation Unit :=
  match comparison.limit? with
  | none => .error (.nonNumericTerm comparison.column comparison.term)
  | some limit =>
    match Value.decode type stored with
    | .error cause => .error (.malformedValue comparison.column cause)
    | .ok value =>
      if (comparison.measure.count? value).any fun count =>
          comparison.operator.holds (compare (count : Int) limit) then .ok ()
      else .error (.unsatisfied (.function comparison))

end MeasureComparison

/-- A unary function accepts every value but null. -/
def Application.evaluate (application : Application) (_ : ColumnType) (_ : Bytes) :
    Except Violation Unit :=
  match application.function with
  | .notNull => .ok ()

namespace Constraint

mutual

/-- Evaluates a constraint on a value that is not null. The first violation wins. -/
def evaluateStored (type : ColumnType) (stored : Bytes) : Constraint → Except Violation Unit
  | composed _ children => evaluateEach type stored children
  | function comparison => comparison.evaluate type stored
  | scalar comparison => comparison.evaluate type stored
  | unary application => application.evaluate type stored

def evaluateEach (type : ColumnType) (stored : Bytes) : List Constraint → Except Violation Unit
  | [] => .ok ()
  | first :: rest => do
    first.evaluateStored type stored
    evaluateEach type stored rest

end

def evaluate (type : ColumnType) (stored : Bytes) (constraint : Constraint) :
    Except Violation Unit :=
  if stored.isEmpty then .error (.nullValue constraint.column)
  else constraint.evaluateStored type stored

end Constraint

def ConstraintSet.evaluate (type : ColumnType) (stored : Bytes) (set : ConstraintSet) :
    Except Violation Unit :=
  set.constraints.forM (Constraint.evaluate type stored)

end ColumnChecks
