import ColumnChecks.Wire.Input
import ColumnChecks.Wire.Output

/-!
The relations that a constraint can state between a value and a term.
-/

namespace ColumnChecks

inductive Operator where
  | equal
  | atLeast
  | greater
  | atMost
  | less
  | unequal
  deriving DecidableEq

namespace Operator

def all : List Operator := [.equal, .atLeast, .greater, .atMost, .less, .unequal]

def id : Operator → Int32
  | equal => 0
  | atLeast => 1
  | greater => 2
  | atMost => 3
  | less => 4
  | unequal => 8

def ofId? (id : Int32) : Option Operator :=
  all.find? (·.id = id)

def symbol : Operator → String
  | equal => "="
  | atLeast => ">="
  | greater => ">"
  | atMost => "<="
  | less => "<"
  | unequal => "!="

def ofSymbol? (symbol : String) : Option Operator :=
  if symbol = "<>" then some .unequal else all.find? (·.symbol = symbol)

def holds : Operator → Ordering → Bool
  | equal, order => order = .eq
  | atLeast, order => order ≠ .lt
  | greater, order => order = .gt
  | atMost, order => order ≠ .gt
  | less, order => order = .lt
  | unequal, order => order ≠ .eq

def wireSize : Nat := int32Size

def write (operator : Operator) : Writer :=
  Writer.int32 operator.id

theorem mem_all (operator : Operator) : operator ∈ all := by
  cases operator <;> simp [all]

theorem ofId?_id (operator : Operator) : ofId? operator.id = some operator := by
  cases operator <;> rfl

end Operator

end ColumnChecks
