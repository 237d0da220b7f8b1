import ColumnChecks.Proofs.Clause.Grammar

/-! The grammar of clauses as a machine over tokens. The tokens lead through all stages to one at
which a clause may end exactly if they are a clause, and lead anywhere exactly if they begin one. -/

namespace ColumnChecks.Clause

inductive Stage where
  | start
  | word
  | quoted
  | opened
  | argument
  | closed
  | related
  | complete

namespace Stage

/-- A word may name a column or a function, a quoted identifier only a column. Behind a function
either a term is compared or the constraint is over. -/
def next? : Stage → Token → Option Stage
  | start, .identifier _ => some word
  | start, .quotedIdentifier _ => some quoted
  | word, .openParen => some opened
  | word, .relation _ => some related
  | quoted, .relation _ => some related
  | opened, .identifier _ => some argument
  | opened, .quotedIdentifier _ => some argument
  | argument, .closeParen => some closed
  | closed, .relation _ => some related
  | closed, .identifier name => if Spells name "AND" then some start else none
  | related, .number _ => some complete
  | related, .hexadecimal _ => some complete
  | related, .string _ => some complete
  | related, .identifier name => if Spells name "AND" then none else some complete
  | complete, .identifier name => if Spells name "AND" then some start else none
  | _, _ => none

def isFinal : Stage → Bool
  | closed => true
  | complete => true
  | _ => false

def run : Stage → List Token → Option Stage
  | stage, [] => some stage
  | stage, token :: tokens => (stage.next? token).bind fun following => following.run tokens

@[simp] theorem run_nil (stage : Stage) : stage.run [] = some stage := rfl

@[simp] theorem run_cons (stage : Stage) (token : Token) (tokens : List Token) :
    stage.run (token :: tokens) = (stage.next? token).bind fun following => following.run tokens :=
  rfl

theorem run_append (stage : Stage) (first second : List Token) :
    stage.run (first ++ second) = (stage.run first).bind fun middle => middle.run second := by
  induction first generalizing stage with
  | nil => rfl
  | cons token first ih =>
      rw [List.cons_append, run_cons, run_cons]
      cases stage.next? token with
      | none => rfl
      | some following => exact ih following

theorem next?_and {stage : Stage} (final : stage.isFinal = true) {word : String}
    (joins : Spells word "AND") : stage.next? (.identifier word) = some .start := by
  cases stage <;> simp_all [isFinal, next?]

theorem spells_and_of_next? {stage following : Stage} {word : String} (final : stage.isFinal = true)
    (step : stage.next? (.identifier word) = some following) :
    following = .start ∧ Spells word "AND" := by
  cases stage <;> simp_all [isFinal, next?]

theorem next?_of_isFinal {stage : Stage} (final : stage.isFinal = true) {token : Token}
    (related : ∀ operator, token = .relation operator → stage ≠ .closed)
    (joined : ∀ word, token = .identifier word → ¬ Spells word "AND") :
    stage.next? token = none := by
  cases stage <;> cases token <;> simp_all [isFinal, next?]

end Stage

theorem run_compared {target : Token} {column : ColumnName} (isColumn : IsColumn target column)
    (operator : Operator) : Stage.start.run [target, .relation operator] = some .related := by
  cases isColumn <;> rfl

theorem run_argument {target : Token} {column : ColumnName} (isColumn : IsColumn target column)
    (name : String) :
    Stage.start.run [.identifier name, .openParen, target, .closeParen] = some .closed := by
  cases isColumn <;> rfl

theorem run_measured {target : Token} {column : ColumnName} (isColumn : IsColumn target column)
    (name : String) (operator : Operator) :
    Stage.start.run [.identifier name, .openParen, target, .closeParen, .relation operator] =
      some .related := by
  cases isColumn <;> rfl

theorem next?_term {literal : Token} {text : String} (isTerm : IsTerm literal text) :
    Stage.related.next? literal = some .complete := by
  cases isTerm with
  | word notAnd => exact if_neg notAnd
  | _ => rfl

theorem run_term {front : List Token} (led : Stage.start.run front = some .related)
    {literal : Token} {text : String} (isTerm : IsTerm literal text) :
    Stage.start.run (front ++ [literal]) = some .complete := by
  rw [Stage.run_append, led, Option.bind_some, Stage.run_cons, next?_term isTerm]
  rfl

theorem run_of_derivesConstraint {tokens : List Token} {phrase : Phrase}
    (derived : DerivesConstraint tokens phrase) :
    ∃ last, Stage.start.run tokens = some last ∧ last.isFinal = true := by
  cases derived with
  | comparison isColumn isTerm => exact ⟨.complete, run_term (run_compared isColumn _) isTerm, rfl⟩
  | application isColumn => exact ⟨.closed, run_argument isColumn _, rfl⟩
  | measured isColumn isTerm => exact ⟨.complete, run_term (run_measured isColumn _ _) isTerm, rfl⟩

theorem run_of_derivesClause {tokens : List Token} {phrases : List Phrase}
    (derived : DerivesClause tokens phrases) :
    ∃ last, Stage.start.run tokens = some last ∧ last.isFinal = true := by
  induction derived with
  | single derived => exact run_of_derivesConstraint derived
  | conjoined derived joins _ ih =>
      obtain ⟨middle, first, final⟩ := run_of_derivesConstraint derived
      obtain ⟨last, others, ends⟩ := ih
      refine ⟨last, ?_, ends⟩
      simp [Stage.run_append, first, Stage.next?_and final joins, others]

/-- The tokens of the current constraint, as far as the stage says it has been read. -/
inductive Underway : Stage → List Token → Prop
  | start : Underway .start []
  | word (name : String) : Underway .word [.identifier name]
  | quoted (text : String) : Underway .quoted [.quotedIdentifier text]
  | opened (name : String) : Underway .opened [.identifier name, .openParen]
  | argument (name : String) {target column} : IsColumn target column →
      Underway .argument [.identifier name, .openParen, target]
  | closed (name : String) {target column} : IsColumn target column →
      Underway .closed [.identifier name, .openParen, target, .closeParen]
  | compared (operator : Operator) {target column} : IsColumn target column →
      Underway .related [target, .relation operator]
  | measured (name : String) (operator : Operator) {target column} : IsColumn target column →
      Underway .related [.identifier name, .openParen, target, .closeParen, .relation operator]
  | complete {tokens phrase} : DerivesConstraint tokens phrase → Underway .complete tokens

theorem isTerm_of_next? {token : Token} {following : Stage}
    (step : Stage.related.next? token = some following) :
    following = .complete ∧ ∃ text, IsTerm token text := by
  cases token with
  | number digits => exact ⟨(Option.some.inj step).symm, digits, .number digits⟩
  | hexadecimal digits => exact ⟨(Option.some.inj step).symm, digits, .hexadecimal digits⟩
  | string content => exact ⟨(Option.some.inj step).symm, content, .string content⟩
  | identifier word =>
      by_cases joins : Spells word "AND"
      · simp [Stage.next?, joins] at step
      · simp only [Stage.next?, joins, if_false, Option.some.injEq] at step
        exact ⟨step.symm, word, .word joins⟩
  | _ => cases step

theorem derives_of_isFinal {stage : Stage} {tokens : List Token} (underway : Underway stage tokens)
    (final : stage.isFinal = true) : ∃ phrase, DerivesConstraint tokens phrase := by
  cases underway with
  | closed name isColumn => exact ⟨_, .application isColumn⟩
  | complete derived => exact ⟨_, derived⟩
  | _ => cases final

theorem Underway.next {stage following : Stage} {front : List Token} {token : Token}
    (underway : Underway stage front) (step : stage.next? token = some following) :
    Underway following (front ++ [token]) ∨ stage.isFinal = true ∧ following = .start ∧
      ∃ word, token = .identifier word ∧ Spells word "AND" := by
  cases underway with
  | start =>
      cases token with
      | identifier name => cases step; exact Or.inl (.word name)
      | quotedIdentifier text => cases step; exact Or.inl (.quoted text)
      | _ => cases step
  | word name =>
      cases token with
      | openParen => cases step; exact Or.inl (.opened name)
      | relation operator => cases step; exact Or.inl (.compared operator (.bare name))
      | _ => cases step
  | quoted text =>
      cases token with
      | relation operator => cases step; exact Or.inl (.compared operator (.quoted text))
      | _ => cases step
  | opened name =>
      cases token with
      | identifier word => cases step; exact Or.inl (.argument name (.bare word))
      | quotedIdentifier text => cases step; exact Or.inl (.argument name (.quoted text))
      | _ => cases step
  | argument name isColumn =>
      cases token with
      | closeParen => cases step; exact Or.inl (.closed name isColumn)
      | _ => cases step
  | closed name isColumn =>
      cases token with
      | relation operator => cases step; exact Or.inl (.measured name operator isColumn)
      | identifier word =>
          obtain ⟨rfl, joins⟩ := Stage.spells_and_of_next? rfl step
          exact Or.inr ⟨rfl, rfl, word, rfl, joins⟩
      | _ => cases step
  | compared operator isColumn =>
      obtain ⟨rfl, text, isTerm⟩ := isTerm_of_next? step
      exact Or.inl (.complete (.comparison isColumn isTerm))
  | measured name operator isColumn =>
      obtain ⟨rfl, text, isTerm⟩ := isTerm_of_next? step
      exact Or.inl (.complete (.measured isColumn isTerm))
  | complete derived =>
      cases token with
      | identifier word =>
          obtain ⟨rfl, joins⟩ := Stage.spells_and_of_next? rfl step
          exact Or.inr ⟨rfl, rfl, word, rfl, joins⟩
      | _ => cases step

/-- The tokens behind the ones of the current constraint lead from its stage to the end of a
clause only if all of them together are a clause. -/
theorem derives_of_run {stage last : Stage} {front tokens : List Token}
    (underway : Underway stage front) (led : stage.run tokens = some last)
    (final : last.isFinal = true) : ∃ phrases, DerivesClause (front ++ tokens) phrases := by
  induction tokens generalizing stage front with
  | nil =>
      cases led
      obtain ⟨phrase, derived⟩ := derives_of_isFinal underway final
      exact ⟨[phrase], by simpa using .single derived⟩
  | cons token tokens ih =>
      obtain ⟨following, step, onward⟩ := Option.bind_eq_some_iff.mp led
      rcases underway.next step with continued | ⟨finished, rfl, word, rfl, joins⟩
      · simpa using ih continued onward
      · obtain ⟨phrase, derived⟩ := derives_of_isFinal underway finished
        obtain ⟨phrases, others⟩ := ih .start onward
        exact ⟨phrase :: phrases, .conjoined derived joins others⟩

theorem derivesClause_iff_run (tokens : List Token) :
    (∃ phrases, DerivesClause tokens phrases) ↔
      ∃ last, Stage.start.run tokens = some last ∧ last.isFinal = true := by
  constructor
  · rintro ⟨phrases, derived⟩
    exact run_of_derivesClause derived
  · rintro ⟨last, led, final⟩
    exact derives_of_run .start led final

theorem Stage.exists_run_final (stage : Stage) :
    ∃ tokens last, stage.run tokens = some last ∧ last.isFinal = true := by
  cases stage with
  | start => exact ⟨[.quotedIdentifier "", .relation .equal, .string ""], .complete, rfl, rfl⟩
  | word => exact ⟨[.relation .equal, .string ""], .complete, rfl, rfl⟩
  | quoted => exact ⟨[.relation .equal, .string ""], .complete, rfl, rfl⟩
  | opened => exact ⟨[.quotedIdentifier "", .closeParen], .closed, rfl, rfl⟩
  | argument => exact ⟨[.closeParen], .closed, rfl, rfl⟩
  | closed => exact ⟨[], .closed, rfl, rfl⟩
  | related => exact ⟨[.string ""], .complete, rfl, rfl⟩
  | complete => exact ⟨[], .complete, rfl, rfl⟩

def Begins (tokens : List Token) : Prop :=
  ∃ rest phrases, DerivesClause (tokens ++ rest) phrases

theorem begins_iff_run (tokens : List Token) :
    Begins tokens ↔ ∃ reached, Stage.start.run tokens = some reached := by
  constructor
  · rintro ⟨rest, phrases, derived⟩
    obtain ⟨last, led, _⟩ := run_of_derivesClause derived
    rw [Stage.run_append] at led
    obtain ⟨reached, front, _⟩ := Option.bind_eq_some_iff.mp led
    exact ⟨reached, front⟩
  · rintro ⟨reached, led⟩
    obtain ⟨rest, last, others, final⟩ := reached.exists_run_final
    refine ⟨rest, (derivesClause_iff_run _).mpr ⟨last, ?_, final⟩⟩
    rw [Stage.run_append, led, Option.bind_some, others]

end ColumnChecks.Clause
