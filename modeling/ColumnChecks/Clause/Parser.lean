import ColumnChecks.Clause.Lexer
import ColumnChecks.Constraint.Error

/-!
Reading the clause of a column: constraints joined by `AND`, where a constraint is a comparison of
the column with a term, a unary function applied to a column, or a comparison of a measure of a
column with a term.
-/

namespace ColumnChecks.Clause

abbrev Parser := StateT (List Lexeme) (Except DefinitionError)

def refuse {α : Type} : List Lexeme → Except DefinitionError α
  | [] => .error (.badSyntax .unexpectedEnd)
  | lexeme :: _ => .error (.badSyntax (.unexpectedToken lexeme))

def relation : Parser Operator := fun lexemes =>
  match lexemes with
  | ⟨.relation operator, _⟩ :: rest => .ok (operator, rest)
  | _ => refuse lexemes

def relation? : Parser (Option Operator) := fun lexemes =>
  match lexemes with
  | ⟨.relation operator, _⟩ :: rest => .ok (some operator, rest)
  | _ => .ok (none, lexemes)

def term : Parser String := fun lexemes =>
  match lexemes with
  | ⟨.number text, _⟩ :: rest => .ok (text, rest)
  | ⟨.hexadecimal text, _⟩ :: rest => .ok (text, rest)
  | ⟨.string text, _⟩ :: rest => .ok (text, rest)
  | ⟨.identifier word, _⟩ :: rest => if Token.isAnd word then refuse lexemes else .ok (word, rest)
  | _ => refuse lexemes

def argument : Parser ColumnName := fun lexemes =>
  match lexemes with
  | ⟨.identifier word, _⟩ :: rest => .ok (.ofCql word, rest)
  | ⟨.quotedIdentifier quoted, _⟩ :: rest => .ok (.ofCql quoted, rest)
  | _ => refuse lexemes

def closing : Parser Unit := fun lexemes =>
  match lexemes with
  | ⟨.closeParen, _⟩ :: rest => .ok ((), rest)
  | _ => refuse lexemes

/-- A comparison, from behind the name of its column. Only the declaring column may be compared. -/
def comparison (declaring target : ColumnName) : Parser Constraint :=
  if target ≠ declaring then throw (.badSyntax (.foreignColumn declaring target))
  else do
    let operator ← relation
    let text ← term
    return .scalar ⟨target, operator, text⟩

def measureNamed (name : String) : Except DefinitionError Measure :=
  match Measure.ofName? name with
  | some measure => .ok measure
  | none => .error (.unrecognizedFunction name)

def unaryNamed (name : String) : Except DefinitionError UnaryFunction :=
  match UnaryFunction.ofName? name with
  | some function => .ok function
  | none => .error (.unrecognizedFunction name)

def application (name : String) : Parser Constraint := do
  let column ← argument
  closing
  match ← relation? with
  | some operator =>
    let text ← term
    let measure ← measureNamed name
    return .function ⟨measure, column, operator, text⟩
  | none =>
    let function ← unaryNamed name
    return .unary ⟨function, column⟩

def constraint (declaring : ColumnName) : Parser Constraint := fun lexemes =>
  match lexemes with
  | ⟨.identifier name, _⟩ :: ⟨.openParen, _⟩ :: rest => application name rest
  | ⟨.identifier word, _⟩ :: rest => comparison declaring (.ofCql word) rest
  | ⟨.quotedIdentifier quoted, _⟩ :: rest => comparison declaring (.ofCql quoted) rest
  | _ => refuse lexemes

def Shrinks {α : Type} (parser : Parser α) : Prop :=
  ∀ (lexemes rest : List Lexeme) (result : α),
    parser lexemes = .ok (result, rest) → rest.length ≤ lexemes.length

theorem refuse_ne_ok {α : Type} (lexemes : List Lexeme) (result : α) :
    refuse lexemes ≠ .ok result := by
  cases lexemes <;> simp [refuse]

theorem shrinks_pure {α : Type} (result : α) : Shrinks (pure result) := by
  intro lexemes rest result read
  cases read
  exact Nat.le_refl _

theorem shrinks_throw {α : Type} (error : DefinitionError) :
    Shrinks (throw error : Parser α) := by
  intro lexemes rest result read
  cases read

theorem shrinks_lift {α : Type} (result : Except DefinitionError α) :
    Shrinks (liftM result : Parser α) := by
  intro lexemes rest value read
  cases result with
  | error => cases read
  | ok => cases read; exact Nat.le_refl _

theorem shrinks_bind {α β : Type} {first : Parser α} {next : α → Parser β}
    (firstShrinks : Shrinks first) (nextShrinks : ∀ result, Shrinks (next result)) :
    Shrinks (first >>= next) := by
  intro lexemes rest result read
  simp only [bind, StateT.bind, Except.bind] at read
  split at read
  · simp at read
  · rename_i pair middle
    exact Nat.le_trans (nextShrinks _ _ _ _ read) (firstShrinks _ _ _ middle)

theorem shrinks_relation : Shrinks relation := by
  intro lexemes rest result read
  unfold relation at read
  split at read
  · simp_all
  · exact absurd read (refuse_ne_ok _ _)

theorem shrinks_relation? : Shrinks relation? := by
  intro lexemes rest result read
  unfold relation? at read
  split at read <;> simp_all

theorem shrinks_term : Shrinks term := by
  intro lexemes rest result read
  unfold term at read
  split at read
  · simp_all
  · simp_all
  · simp_all
  · split at read
    · exact absurd read (refuse_ne_ok _ _)
    · simp_all
  · exact absurd read (refuse_ne_ok _ _)

theorem shrinks_argument : Shrinks argument := by
  intro lexemes rest result read
  unfold argument at read
  split at read
  · simp_all
  · simp_all
  · exact absurd read (refuse_ne_ok _ _)

theorem shrinks_closing : Shrinks closing := by
  intro lexemes rest result read
  unfold closing at read
  split at read
  · simp_all
  · exact absurd read (refuse_ne_ok _ _)

theorem shrinks_comparison (declaring target : ColumnName) :
    Shrinks (comparison declaring target) := by
  unfold comparison
  split
  · exact shrinks_throw _
  · exact shrinks_bind shrinks_relation fun _ => shrinks_bind shrinks_term fun _ => shrinks_pure _

theorem shrinks_application (name : String) : Shrinks (application name) := by
  refine shrinks_bind shrinks_argument fun column => shrinks_bind shrinks_closing fun _ =>
    shrinks_bind shrinks_relation? fun operator => ?_
  cases operator with
  | none => exact shrinks_bind (shrinks_lift _) fun _ => shrinks_pure _
  | some operator =>
    exact shrinks_bind shrinks_term fun _ =>
      shrinks_bind (shrinks_lift _) fun _ => shrinks_pure _

theorem length_constraint {declaring : ColumnName} {lexemes rest : List Lexeme}
    {result : Constraint} (read : constraint declaring lexemes = .ok (result, rest)) :
    rest.length < lexemes.length := by
  unfold constraint at read
  split at read
  · have shorter := shrinks_application _ _ _ _ read
    simp only [List.length_cons]
    omega
  · have shorter := shrinks_comparison _ _ _ _ _ read
    simp only [List.length_cons]
    omega
  · have shorter := shrinks_comparison _ _ _ _ _ read
    simp only [List.length_cons]
    omega
  · exact absurd read (refuse_ne_ok _ _)

def conjunction (declaring : ColumnName) (lexemes : List Lexeme) :
    Except DefinitionError (List Constraint) :=
  match _read : constraint declaring lexemes with
  | .error error => .error error
  | .ok (first, []) => .ok [first]
  | .ok (first, ⟨.identifier word, offset⟩ :: rest) =>
    if Token.isAnd word then do
      let others ← conjunction declaring rest
      return first :: others
    else refuse (⟨.identifier word, offset⟩ :: rest)
  | .ok (_, rest) => refuse rest
termination_by lexemes.length
decreasing_by
  have shorter := length_constraint _read
  simp only [List.length_cons] at shorter
  omega

def parse (declaring : ColumnName) (clause : String) : Except DefinitionError ConstraintSet :=
  match lex clause with
  | .error cause => .error (.badSyntax cause)
  | .ok lexemes => do
    let constraints ← conjunction declaring lexemes
    return ⟨declaring, constraints⟩

end ColumnChecks.Clause
