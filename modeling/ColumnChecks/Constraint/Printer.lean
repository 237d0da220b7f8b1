import ColumnChecks.Constraint.Basic

/-!
Constraints as the text of a clause. Nesting leaves no trace in it: all leaves are joined by `AND`.
-/

namespace ColumnChecks

def Comparison.toCql (comparison : Comparison) : String :=
  comparison.column.toCql ++ " " ++ comparison.operator.symbol ++ " " ++ comparison.term

def MeasureComparison.toCql (comparison : MeasureComparison) : String :=
  comparison.measure.name ++ "(" ++ comparison.column.toCql ++ ") " ++
    comparison.operator.symbol ++ " " ++ comparison.term

def Application.toCql (application : Application) : String :=
  application.function.name ++ "(" ++ application.column.toCql ++ ")"

def conjoined (texts : List String) : String :=
  " AND ".intercalate texts

namespace Constraint

mutual

def toCql : Constraint → String
  | composed _ children => conjoined (eachToCql children)
  | function comparison => comparison.toCql
  | scalar comparison => comparison.toCql
  | unary application => application.toCql

def eachToCql : List Constraint → List String
  | [] => []
  | first :: rest => first.toCql :: eachToCql rest

end

end Constraint

def ConstraintSet.toCql (set : ConstraintSet) : String :=
  conjoined (Constraint.eachToCql set.constraints)

end ColumnChecks
