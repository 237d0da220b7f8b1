import ColumnChecks.Text.Classes

/-!
The types that columns can have.
-/

namespace ColumnChecks

inductive ColumnType where
  | ascii
  | bigint
  | blob
  | boolean
  | counter
  | double
  | float
  | int
  | smallint
  | text
  | timestamp
  | tinyint
  | uuid
  deriving DecidableEq

namespace ColumnType

def all : List ColumnType := [.ascii, .bigint, .blob, .boolean, .counter, .double, .float, .int,
  .smallint, .text, .timestamp, .tinyint, .uuid]

def name : ColumnType → String
  | ascii => "ascii"
  | bigint => "bigint"
  | blob => "blob"
  | boolean => "boolean"
  | counter => "counter"
  | double => "double"
  | float => "float"
  | int => "int"
  | smallint => "smallint"
  | text => "text"
  | timestamp => "timestamp"
  | tinyint => "tinyint"
  | uuid => "uuid"

/-- The type with the given name, in either case and between blanks; `varchar` is another name of
`text`. -/
def ofName? (name : String) : Option ColumnType :=
  let name := String.ofList ((Text.trim name.toList).map Char.toLower)
  if name = "varchar" then some .text else all.find? (·.name = name)

def isNumber : ColumnType → Bool
  | bigint | counter | double | float | int | smallint | tinyint => true
  | _ => false

def isString : ColumnType → Bool
  | ascii | text => true
  | _ => false

def width? : ColumnType → Option Nat
  | boolean | tinyint => some 1
  | smallint => some 2
  | int | float => some 4
  | bigint | counter | double | timestamp => some 8
  | uuid => some 16
  | ascii | blob | text => none

theorem mem_all (type : ColumnType) : type ∈ all := by
  cases type <;> simp [all]

end ColumnType

end ColumnChecks
