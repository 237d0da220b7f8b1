import ColumnChecks.Value.Basic

/-!
The functions that constraints can name. A measure maps a value to a number, which is compared with
a term; a unary function is a condition by itself.
-/

namespace ColumnChecks

inductive Measure where
  | length
  | octetLength
  deriving DecidableEq

namespace Measure

def all : List Measure := [.length, .octetLength]

def name : Measure → String
  | length => "LENGTH"
  | octetLength => "OCTET_LENGTH"

def ofName? (name : String) : Option Measure :=
  let upper := String.ofList (name.toList.map Char.toUpper)
  all.find? (·.name = upper)

def supports : Measure → ColumnType → Bool
  | length, type => type.isString
  | octetLength, type => type.isString || type = .blob

def count? : Measure → Value → Option Nat
  | length, .text value => some value.length
  | octetLength, .text value => some (Text.utf8 value).length
  | octetLength, .bytes value => some value.length
  | _, _ => none

theorem mem_all (measure : Measure) : measure ∈ all := by
  cases measure <;> simp [all]

theorem ofName?_name (measure : Measure) : ofName? measure.name = some measure := by
  cases measure <;> decide

end Measure

inductive UnaryFunction where
  | notNull
  deriving DecidableEq

namespace UnaryFunction

def all : List UnaryFunction := [.notNull]

def name : UnaryFunction → String
  | notNull => "NOT_NULL"

def ofName? (name : String) : Option UnaryFunction :=
  let upper := String.ofList (name.toList.map Char.toUpper)
  all.find? (·.name = upper)

theorem mem_all (function : UnaryFunction) : function ∈ all := by
  cases function
  simp [all]

theorem ofName?_name (function : UnaryFunction) : ofName? function.name = some function := by
  cases function
  decide

end UnaryFunction

inductive NamedFunction where
  | measure (function : Measure)
  | unary (function : UnaryFunction)
  deriving DecidableEq

def NamedFunction.name : NamedFunction → String
  | .measure function => function.name
  | .unary function => function.name

end ColumnChecks
