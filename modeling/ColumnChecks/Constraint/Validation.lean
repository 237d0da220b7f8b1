import ColumnChecks.Constraint.Evaluation

/-!
Validation: which constraints may be declared on a column.
-/

namespace ColumnChecks

def Comparison.validate (comparison : Comparison) (column : Column) :
    Except DefinitionError Unit :=
  if column.type.isNumber then .ok () else .error (.notNumeric comparison.column)

def MeasureComparison.validate (comparison : MeasureComparison) (column : Column) :
    Except DefinitionError Unit :=
  if comparison.column ≠ column.name then
    .error (.parameterMismatch (.measure comparison.measure) column.name)
  else if !comparison.measure.supports column.type then
    .error (.unsupportedType comparison.measure column.name column.type)
  else if comparison.limit?.isNone then
    .error (.invalidTerm comparison.measure comparison.term)
  else .ok ()

/-- A function that forbids null may not be declared on a key column, which is never null. -/
def UnaryFunction.validate (function : UnaryFunction) (column : Column) :
    Except DefinitionError Unit :=
  match function, column.role with
  | .notNull, .key part => .error (.keyColumn function part column.name)
  | .notNull, _ => .ok ()

def Application.validate (application : Application) (column : Column) :
    Except DefinitionError Unit :=
  if application.column ≠ column.name then
    .error (.parameterMismatch (.unary application.function) column.name)
  else application.function.validate column

def checkTermLength (max : Nat) (column : ColumnName) (term : String) :
    Except DefinitionError Unit :=
  if max < term.length then .error (.termTooLong column max) else .ok ()

namespace Constraint

mutual

def validate (column : Column) : Constraint → Except DefinitionError Unit
  | composed _ children => validateEach column children
  | function comparison => comparison.validate column
  | scalar comparison => comparison.validate column
  | unary application => application.validate column

def validateEach (column : Column) : List Constraint → Except DefinitionError Unit
  | [] => .ok ()
  | first :: rest => do
    first.validate column
    validateEach column rest

end

mutual

def checkTermLengths (max : Nat) : Constraint → Except DefinitionError Unit
  | composed _ children => checkEachTermLength max children
  | function comparison => checkTermLength max comparison.column comparison.term
  | scalar comparison => checkTermLength max comparison.column comparison.term
  | unary _ => .ok ()

def checkEachTermLength (max : Nat) : List Constraint → Except DefinitionError Unit
  | [] => .ok ()
  | first :: rest => do
    first.checkTermLengths max
    checkEachTermLength max rest

end

end Constraint

/-- Validates the constraints of a column in order, each first by itself and then for the length
of its terms. -/
def Column.validate (maxTermLength : Nat) (column : Column) : Except DefinitionError Unit :=
  column.constraints.constraints.forM fun constraint => do
    constraint.validate column
    constraint.checkTermLengths maxTermLength

end ColumnChecks
