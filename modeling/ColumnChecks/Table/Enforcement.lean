import ColumnChecks.Table.Basic

/-!
Which writes a table accepts. Columns that the table does not define are not its concern, and key
columns are never checked.
-/

namespace ColumnChecks

/-- A value that a statement gives to a column; the empty byte string is null. -/
structure Assignment where
  column : ColumnName
  value : Bytes
  deriving DecidableEq

def Column.evaluate (column : Column) (value : Bytes) : Except Violation Unit :=
  if column.isKey then .ok () else column.constraints.evaluate column.type value

namespace Table

variable (table : Table) (config : Config)

def evaluateAssignment (assignment : Assignment) : Except Violation Unit :=
  match table.column? assignment.column with
  | some column => column.evaluate assignment.value
  | none => .ok ()

def checkUpdate (assignments : List Assignment) : Except Violation Unit :=
  if config.enforceOnWrite then assignments.forM table.evaluateAssignment else .ok ()

def isMissing (assignments : List Assignment) (column : Column) : Bool :=
  !column.isKey && column.constraints.requiresValue &&
    !assignments.any (·.column = column.name)

/-- Checks an insert: the presence of required columns, and then the assigned values. -/
def checkInsert (assignments : List Assignment) : Except Violation Unit :=
  match table.columns.find? (isMissing assignments) with
  | some column => .error (.missingColumn column.name)
  | none => table.checkUpdate config assignments

def checkDeletion (name : ColumnName) : Except Violation Unit :=
  match table.column? name with
  | some column =>
    if column.constraints.requiresValue then .error (.nullDeletion column.name) else .ok ()
  | none => .ok ()

end Table

end ColumnChecks
