import ColumnChecks.Constraint.Basic

/-!
Columns of tables.
-/

namespace ColumnChecks

inductive KeyPart where
  | partition
  | clustering
  deriving DecidableEq

def KeyPart.name : KeyPart → String
  | partition => "partition"
  | clustering => "clustering"

/-- What a column is to its table: a part of the primary key, a value of each row, or a value that
all rows of a partition share. -/
inductive ColumnRole where
  | key (part : KeyPart)
  | regular
  | shared
  deriving DecidableEq

namespace ColumnRole

def all : List ColumnRole := [.key .partition, .key .clustering, .regular, .shared]

def isKey : ColumnRole → Bool
  | key _ => true
  | _ => false

theorem mem_all (role : ColumnRole) : role ∈ all := by
  rcases role with ⟨⟨⟩⟩ | _ | _ <;> simp [all]

end ColumnRole

structure Column where
  name : ColumnName
  type : ColumnType
  role : ColumnRole
  position : UInt32
  constraints : ConstraintSet
  deriving DecidableEq

namespace Column

def new (name : String) (type : ColumnType) (role : ColumnRole) : Column :=
  let name := ColumnName.ofCql name
  ⟨name, type, role, 0, .none name⟩

def isKey (column : Column) : Bool :=
  column.role.isKey

end Column

end ColumnChecks
