import ColumnChecks.Constraint.Decoding
import ColumnChecks.Wire.Output

/-!
Reading a list of constraints into room that is reserved before the first of them is read. The
count alone does not decide how much: an envelope starts with a tag, so there is room for no more
of them than there are words in the input that is left.
-/

namespace ColumnChecks

/-- A list while it is read: the input that is left, the number of elements that room was reserved
for, and the elements that were read. -/
structure Intake (α : Type) where
  input : Bytes
  room : Nat
  elements : List α

namespace Intake

variable {ε α : Type}

def reserve (declared : Nat) (input : Bytes) : Intake α :=
  ⟨input, min declared (input.length / int32Size), []⟩

def push (read : Reader ε α) : EStateM ε (Intake α) Unit := fun intake =>
  match read intake.input with
  | .ok element rest =>
    .ok () { intake with input := rest, elements := intake.elements ++ [element] }
  | .error cause rest => .error cause { intake with input := rest }

def fill (read : Reader ε α) : (turns : Nat) → EStateM ε (Intake α) Unit
  | 0 => pure ()
  | turns + 1 => do
    push read
    fill read turns

def last : EStateM.Result ε (Intake α) Unit → Intake α
  | .ok _ intake => intake
  | .error _ intake => intake

def gather (read : Reader ε α) (declared : Nat) : Reader ε (List α) := fun input =>
  match fill read declared (reserve declared input) with
  | .ok _ intake => .ok intake.elements intake.input
  | .error cause intake => .error cause intake.input

end Intake

def Constraint.readReserved (allowance : Nat) : ConstraintReader (List Constraint) :=
  form.envelopes Intake.gather (readComposed allowance)

end ColumnChecks
