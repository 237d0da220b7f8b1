import ColumnChecks.Constraint.Printer
import ColumnChecks.Table.Basic

/-!
Definitions of tables as statements.
-/

namespace ColumnChecks

def Column.toCql (column : Column) : String :=
  let modifier := if column.role = .shared then " static" else ""
  let check :=
    if column.constraints.isEmpty then "" else " CHECK " ++ column.constraints.toCql
  "    " ++ column.name.toCql ++ " " ++ column.type.name ++ modifier ++ check ++ ",\n"

namespace Table

def partitionKey : List String → String
  | [name] => name
  | names => "(" ++ ", ".intercalate names ++ ")"

def primaryKey (table : Table) : List String :=
  let names (part : KeyPart) := (table.keyColumns part).map (·.name.toCql)
  partitionKey (names .partition) :: names .clustering

def toCql (table : Table) : String :=
  "CREATE TABLE " ++ table.keyspace ++ "." ++ table.name ++ " (\n" ++
    String.join (table.columns.map (·.toCql)) ++
    "    PRIMARY KEY (" ++ ", ".intercalate table.primaryKey ++ ")\n)"

end Table

end ColumnChecks
