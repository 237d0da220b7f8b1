import ColumnChecks.Constraint.Decoding
import ColumnChecks.Constraint.Encoding
import ColumnChecks.Table.Basic

/-!
Snapshots: the form in which definitions of tables are stored.
-/

namespace ColumnChecks

structure ColumnSnapshot where
  name : String
  type : ColumnType
  role : ColumnRole
  position : UInt32
  constraints : Bytes
  deriving DecidableEq

structure Snapshot where
  version : UInt32
  keyspace : String
  name : String
  columns : List ColumnSnapshot
  deriving DecidableEq

inductive SnapshotError where
  | wire (cause : WireError)
  | decode (cause : DecodeError)
  deriving DecidableEq

namespace Constraint

def encodeList (version : Version) (constraints : List Constraint) : Except WireError Bytes :=
  match (writeList version constraints).run .empty with
  | .ok _ output => .ok output.bytes
  | .error cause _ => .error cause

def decodeList (version : Version) (stored : Bytes) : Except DecodeError (List Constraint) :=
  match (readList version).run stored with
  | .ok constraints _ => .ok constraints
  | .error cause _ => .error cause

end Constraint

def Column.toSnapshot (version : Version) (column : Column) : Except WireError ColumnSnapshot := do
  let constraints ← Constraint.encodeList version column.constraints.constraints
  return ⟨column.name.toCql, column.type, column.role, column.position, constraints⟩

/-- The constraints of a column that is read are bound to its name. -/
def Column.ofSnapshot (version : Version) (snapshot : ColumnSnapshot) :
    Except DecodeError Column := do
  let constraints ← Constraint.decodeList version snapshot.constraints
  let name := ColumnName.ofCql snapshot.name
  return ⟨name, snapshot.type, snapshot.role, snapshot.position, ⟨name, constraints⟩⟩

namespace Table

def toSnapshot (version : Version) (table : Table) : Except WireError Snapshot := do
  let columns ← table.columns.mapM (Column.toSnapshot version)
  return ⟨version.token, table.keyspace, table.name, columns⟩

def ofSnapshot (snapshot : Snapshot) : Except SnapshotError Table :=
  match Version.ofToken snapshot.version with
  | .error cause => .error (.wire cause)
  | .ok version =>
    match snapshot.columns.mapM (Column.ofSnapshot version) with
    | .error cause => .error (.decode cause)
    | .ok columns => .ok ⟨snapshot.keyspace, snapshot.name, columns⟩

end Table

end ColumnChecks
