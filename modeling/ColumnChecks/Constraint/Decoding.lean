import ColumnChecks.Constraint.Error
import ColumnChecks.Config.Basic

/-!
Reading stored constraints. Composed constraints may enclose one another only to a bounded depth,
so that no input exhausts the reader.
-/

namespace ColumnChecks

abbrev ConstraintReader := Reader DecodeError

namespace ConstraintReader

def int32 : ConstraintReader Int32 :=
  Reader.int32.adaptExcept .wire

def text : ConstraintReader String :=
  Reader.text.adaptExcept .wire

def columnName : ConstraintReader ColumnName := do
  let written ← text
  return .ofCql written

def operator : ConstraintReader Operator := do
  let id ← int32
  match Operator.ofId? id with
  | some operator => return operator
  | none => throw (.unknownOperator id)

def kind : ConstraintReader ConstraintKind := do
  let tag ← int32
  match ConstraintKind.ofTag? tag with
  | some kind => return kind
  | none => throw (.unknownKind tag)

def count : ConstraintReader Nat := do
  let count ← int32
  if count < 0 then throw (.negativeCount count) else return count.toInt.toNat

def comparison : ConstraintReader Comparison := do
  let column ← columnName
  let operator ← operator
  let term ← text
  return ⟨column, operator, term⟩

def measureComparison : ConstraintReader MeasureComparison := do
  let column ← columnName
  let name ← text
  let operator ← operator
  let term ← text
  match Measure.ofName? name with
  | some measure => return ⟨measure, column, operator, term⟩
  | none => throw (.unknownFunction name)

def application {α : Type} (make? : String → ColumnName → Option α) : ConstraintReader α := do
  let column ← columnName
  let name ← text
  match make? name column with
  | some made => return made
  | none => throw (.unknownFunction name)

end ConstraintReader

/-- A form of constraints, by the ways in which one is made of what is read. -/
structure ConstraintForm (α : Type) where
  composed : ColumnName → List α → α
  function : MeasureComparison → α
  scalar : Comparison → α
  unary? : String → ColumnName → Option α

namespace ConstraintForm

open ConstraintReader

variable {α : Type} (form : ConstraintForm α)

/-! Readers, given one for the payloads of composed constraints. -/

def payload (composed : ConstraintReader α) : ConstraintKind → ConstraintReader α
  | .composed => composed
  | .function => form.function <$> measureComparison
  | .scalar => form.scalar <$> comparison
  | .unaryFunction => application form.unary?

def envelope (composed : ConstraintReader α) : ConstraintReader α :=
  ConstraintReader.kind >>= form.payload composed

def envelopes (loop : ConstraintReader α → Nat → ConstraintReader (List α))
    (composed : ConstraintReader α) : ConstraintReader (List α) := do
  let length ← count
  loop (form.envelope composed) length

def enclosing (composed : ConstraintReader α) : ConstraintReader α := do
  let column ← columnName
  let children ← form.envelopes Reader.times composed
  return form.composed column children

end ConstraintForm

def maxNesting : Nat := 32

namespace Constraint

def unary? (name : String) (column : ColumnName) : Option Constraint :=
  (UnaryFunction.ofName? name).map fun function => .unary ⟨function, column⟩

def form : ConstraintForm Constraint :=
  ⟨.composed, .function, .scalar, unary?⟩

/-- Reads the payload of a composed constraint. At most `allowance` composed constraints may enclose
one another in it, itself among them. -/
def readComposed : (allowance : Nat) → ConstraintReader Constraint
  | 0 => throw (.nestingTooDeep (maxNesting + 1))
  | allowance + 1 => form.enclosing (readComposed allowance)

def readPayload (allowance : Nat) : ConstraintKind → ConstraintReader Constraint :=
  form.payload (readComposed allowance)

def readEnvelope (allowance : Nat) : ConstraintReader Constraint :=
  form.envelope (readComposed allowance)

def readEnvelopes (allowance : Nat) : ConstraintReader (List Constraint) :=
  form.envelopes Reader.times (readComposed allowance)

def read (_ : Version) : ConstraintReader Constraint :=
  readEnvelope maxNesting

def readList (_ : Version) : ConstraintReader (List Constraint) :=
  readEnvelopes maxNesting

end Constraint

end ColumnChecks
