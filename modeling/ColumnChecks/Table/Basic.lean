import ColumnChecks.Clause.Parser
import ColumnChecks.Config.Basic
import ColumnChecks.Constraint.Validation

/-!
Definitions of tables. Columns stand in the order of declaration, and those of each part of the key
are numbered from zero.
-/

namespace ColumnChecks

structure Table where
  keyspace : String
  name : String
  columns : List Column
  deriving DecidableEq

namespace Table

def new (keyspace name : String) : Table :=
  ⟨keyspace, name, []⟩

/-- Adds a column. A key column gets the next position in its part of the key. -/
def withColumn (table : Table) (column : Column) : Table :=
  let position :=
    if column.isKey then UInt32.ofNat (table.columns.countP (·.role = column.role))
    else column.position
  { table with columns := table.columns ++ [{ column with position }] }

def column? (table : Table) (name : ColumnName) : Option Column :=
  table.columns.find? (·.name = name)

def attach (name : ColumnName) (added : List Constraint) : List Column → List Column
  | [] => []
  | column :: rest =>
    if column.name = name then
      { column with constraints := ⟨name, column.constraints.constraints ++ added⟩ } :: rest
    else column :: attach name added rest

def withCheck (table : Table) (column clause : String) : Except DefinitionError Table :=
  let name := ColumnName.ofCql column
  if (table.column? name).isNone then .error (.unknownColumn name table.name)
  else do
    let parsed ← Clause.parse name clause
    return { table with columns := attach name parsed.constraints table.columns }

def keyColumns (table : Table) (part : KeyPart) : List Column :=
  (table.columns.filter (·.role = .key part)).mergeSort fun first second =>
    first.position ≤ second.position

def validate (config : Config) (table : Table) : Except DefinitionError Unit :=
  table.columns.forM (Column.validate config.maxTermLength)

end Table

end ColumnChecks
