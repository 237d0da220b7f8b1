import ColumnChecks.Constraint.Decoding

/-!
Reading stored constraints with every function bound to a column. The readers count how many
composed constraints enclose what they read, and give up at the first one too many.
-/

namespace ColumnChecks

structure BoundFunction where
  function : UnaryFunction
  column : ColumnName
  deriving DecidableEq

def BoundFunction.create? (name : String) (column : ColumnName) : Option BoundFunction :=
  (UnaryFunction.ofName? name).map fun function => ⟨function, column⟩

structure BoundApplication where
  function : BoundFunction
  column : ColumnName
  deriving DecidableEq

inductive BoundConstraint where
  | composed (column : ColumnName) (children : List BoundConstraint)
  | function (comparison : MeasureComparison)
  | scalar (comparison : Comparison)
  | unary (application : BoundApplication)

namespace BoundConstraint

def unary? (name : String) (column : ColumnName) : Option BoundConstraint :=
  (BoundFunction.create? name column).map fun function => .unary ⟨function, column⟩

def form : ConstraintForm BoundConstraint :=
  ⟨.composed, .function, .scalar, unary?⟩

/-- Reads the payload of a composed constraint that is the `depth`-th of those that enclose one
another. -/
def readComposed (depth : Nat) : ConstraintReader BoundConstraint :=
  if maxNesting < depth then throw (.nestingTooDeep depth)
  else form.enclosing (readComposed (depth + 1))
termination_by maxNesting + 1 - depth

def readPayload : ConstraintKind → ConstraintReader BoundConstraint :=
  form.payload (readComposed 1)

def read (_ : Version) : ConstraintReader BoundConstraint :=
  form.envelope (readComposed 1)

def readList (_ : Version) : ConstraintReader (List BoundConstraint) :=
  form.envelopes Reader.times (readComposed 1)

end BoundConstraint

end ColumnChecks
