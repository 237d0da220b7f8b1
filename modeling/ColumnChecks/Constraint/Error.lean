import ColumnChecks.Clause.Token
import ColumnChecks.Column.Basic

/-!
Why a value violates a constraint, why a constraint may not be declared, and why stored constraints
cannot be read.
-/

namespace ColumnChecks

inductive Requirement where
  | scalar (comparison : Comparison)
  | function (comparison : MeasureComparison)
  deriving DecidableEq

namespace Requirement

def column : Requirement → ColumnName
  | scalar comparison => comparison.column
  | function comparison => comparison.column

def text : Requirement → String
  | scalar comparison =>
    comparison.column.text ++ " " ++ comparison.operator.symbol ++ " " ++ comparison.term
  | function comparison =>
    comparison.measure.name ++ "(" ++ comparison.column.text ++ ") " ++
      comparison.operator.symbol ++ " " ++ comparison.term

end Requirement

inductive Violation where
  | nullValue (column : ColumnName)
  | unsatisfied (requirement : Requirement)
  | nonNumericTerm (column : ColumnName) (term : String)
  | malformedValue (column : ColumnName) (cause : ValueError)
  | missingColumn (column : ColumnName)
  | nullDeletion (column : ColumnName)
  deriving DecidableEq

def Violation.message : Violation → String
  | nullValue column =>
    "Column value does not satisfy value constraint for column '" ++ column.text ++
      "' as it is null."
  | unsatisfied requirement =>
    "Column value does not satisfy value constraint for column '" ++ requirement.column.text ++
      "'. It should be " ++ requirement.text
  | nonNumericTerm column term => column.text ++ " and " ++ term ++ " need to be numbers."
  | malformedValue column cause =>
    "Column value for column '" ++ column.text ++ "' is malformed: " ++ cause.message
  | missingColumn column =>
    "Column '" ++ column.text ++ "' has to be specified as part of this query."
  | nullDeletion column => "Column '" ++ column.text ++ "' can not be set to null."

inductive DefinitionError where
  | notNumeric (column : ColumnName)
  | keyColumn (function : UnaryFunction) (part : KeyPart) (column : ColumnName)
  | parameterMismatch (function : NamedFunction) (column : ColumnName)
  | unrecognizedFunction (name : String)
  | unsupportedType (measure : Measure) (column : ColumnName) (type : ColumnType)
  | invalidTerm (measure : Measure) (term : String)
  | termTooLong (column : ColumnName) (max : Nat)
  | unknownColumn (column : ColumnName) (table : String)
  | badSyntax (cause : Clause.SyntaxError)
  deriving DecidableEq

def DefinitionError.message : DefinitionError → String
  | notNumeric column => "Column '" ++ column.text ++ "' is not a number type."
  | keyColumn function part column =>
    function.name ++ " constraint can not be specified on a " ++ part.name ++ " key column '" ++
      column.text ++ "'"
  | parameterMismatch function column =>
    "Parameter of " ++ function.name ++ " constraint should be the column name (" ++
      column.text ++ ")"
  | unrecognizedFunction name => "Unrecognized constraint function: " ++ name
  | unsupportedType measure column type =>
    measure.name ++ " can not be used on column '" ++ column.text ++ "' of type " ++ type.name
  | invalidTerm measure term =>
    measure.name ++ " constraint term '" ++ term ++ "' is not a valid integer"
  | termTooLong column max =>
    "Constraint term for column '" ++ column.text ++ "' exceeds " ++ toString max ++ " characters"
  | unknownColumn column table =>
    "Undefined column name " ++ column.text ++ " in table " ++ table
  | badSyntax cause => "Invalid constraint syntax: " ++ cause.message

inductive DecodeError where
  | wire (cause : WireError)
  | unknownKind (tag : Int32)
  | unknownOperator (id : Int32)
  | unknownFunction (name : String)
  | negativeCount (count : Int32)
  | nestingTooDeep (levels : Nat)
  deriving DecidableEq

def DecodeError.message : DecodeError → String
  | wire cause => cause.message
  | unknownKind tag => "unknown constraint kind tag: " ++ toString tag
  | unknownOperator id => "unknown relational operator id: " ++ toString id
  | unknownFunction name =>
    "cannot deserialize constraint: " ++ (DefinitionError.unrecognizedFunction name).message
  | negativeCount count => "invalid constraint count: " ++ toString count
  | nestingTooDeep levels => "composed constraints nested " ++ toString levels ++ " levels deep"

end ColumnChecks
