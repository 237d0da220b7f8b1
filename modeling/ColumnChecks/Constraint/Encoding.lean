import ColumnChecks.Constraint.Basic
import ColumnChecks.Config.Basic

/-!
The stored form of constraints. An envelope is the tag of the kind and a payload; a list is its
length and that many envelopes. Names are stored as written in a clause. All versions have this
layout.
-/

namespace ColumnChecks

def Comparison.write (comparison : Comparison) : Writer := do
  Writer.text comparison.column.toCql
  comparison.operator.write
  Writer.text comparison.term

def MeasureComparison.write (comparison : MeasureComparison) : Writer := do
  Writer.text comparison.column.toCql
  Writer.text comparison.measure.name
  comparison.operator.write
  Writer.text comparison.term

def Application.write (application : Application) : Writer := do
  Writer.text application.column.toCql
  Writer.text application.function.name

def Comparison.wireSize (comparison : Comparison) : Nat :=
  textSize comparison.column.toCql + Operator.wireSize + textSize comparison.term

def MeasureComparison.wireSize (comparison : MeasureComparison) : Nat :=
  textSize comparison.column.toCql + textSize comparison.measure.name + Operator.wireSize +
    textSize comparison.term

def Application.wireSize (application : Application) : Nat :=
  textSize application.column.toCql + textSize application.function.name

namespace Constraint

def writeCount (count : Nat) : Writer :=
  if count < 2 ^ 31 then Writer.int32 (Int32.ofNat count) else throw (.tooManyConstraints count)

mutual

def writePayload : Constraint → Writer
  | composed column children => do
    Writer.text column.toCql
    writeCount children.length
    writeEach children
  | function comparison => comparison.write
  | scalar comparison => comparison.write
  | unary application => application.write

def writeEach : List Constraint → Writer
  | [] => pure ()
  | first :: rest => do
    Writer.int32 first.kind.tag
    first.writePayload
    writeEach rest

end

def write (_ : Version) (constraint : Constraint) : Writer := do
  Writer.int32 constraint.kind.tag
  constraint.writePayload

def writeList (_ : Version) (constraints : List Constraint) : Writer := do
  writeCount constraints.length
  writeEach constraints

mutual

def payloadSize : Constraint → Nat
  | composed column children => textSize column.toCql + int32Size + eachWireSize children
  | function comparison => comparison.wireSize
  | scalar comparison => comparison.wireSize
  | unary application => application.wireSize

def eachWireSize : List Constraint → Nat
  | [] => 0
  | first :: rest => int32Size + first.payloadSize + eachWireSize rest

end

def wireSize (constraint : Constraint) : Nat :=
  int32Size + constraint.payloadSize

def listWireSize (constraints : List Constraint) : Nat :=
  int32Size + eachWireSize constraints

end Constraint

end ColumnChecks
