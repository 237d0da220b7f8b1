import ColumnChecks.Config.Reader
import ColumnChecks.Table.Archive

/-!
Storing definitions of tables and loading them again, and the failures of all operations under one
type.
-/

namespace ColumnChecks

inductive SchemaError where
  | violation (cause : Violation)
  | definition (cause : DefinitionError)
  | decode (cause : DecodeError)
  | wire (cause : WireError)
  | brokenArchive
  | config (cause : ConfigError)
  deriving DecidableEq

namespace SchemaError

def message : SchemaError → String
  | violation cause => cause.message
  | definition cause => cause.message
  | decode cause => "decode error: " ++ cause.message
  | wire cause => "protocol error: " ++ cause.message
  | brokenArchive => "deserialization error"
  | config cause => "configuration error: " ++ cause.message

def ofSnapshot : SnapshotError → SchemaError
  | .wire cause => .wire cause
  | .decode cause => .decode cause

end SchemaError

namespace Table

def toBytes (version : Version) (table : Table) : Except SchemaError Bytes :=
  match table.toSnapshot version with
  | .ok snapshot => .ok (Archive.write snapshot)
  | .error cause => .error (.wire cause)

def persist (config : Config) (table : Table) : Except SchemaError Bytes :=
  match table.validate config with
  | .ok () => table.toBytes config.metadataVersion
  | .error cause => .error (.definition cause)

def ofBytes (bytes : Bytes) : Except SchemaError Table :=
  match Archive.read? bytes with
  | none => .error .brokenArchive
  | some snapshot => (ofSnapshot snapshot).mapError SchemaError.ofSnapshot

end Table

end ColumnChecks
