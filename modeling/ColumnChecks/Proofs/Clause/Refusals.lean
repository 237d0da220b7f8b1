import ColumnChecks.Proofs.Clause.Stages

/-! What the parser's complaints about tokens say. A token is called unexpected exactly where no
clause goes on with it, and the end where a clause has begun that is not over. -/

namespace ColumnChecks.Clause

/-- The tokens from the stage on bear the error out: those before an unexpected one are possible
and it is not, and those before an unexpected end do not end a clause. -/
def Blames (stage : Stage) (lexemes : List Lexeme) : DefinitionError → Prop
  | .badSyntax (.unexpectedToken lexeme) =>
    ∃ before after reached, lexemes = before ++ lexeme :: after ∧
      stage.run (before.map Lexeme.token) = some reached ∧ reached.next? lexeme.token = none
  | .badSyntax .unexpectedEnd =>
    ∃ reached, stage.run (lexemes.map Lexeme.token) = some reached ∧ reached.isFinal = false
  | _ => True

theorem run_append_lexemes {stage reached : Stage} {used : List Lexeme}
    (led : stage.run (used.map Lexeme.token) = some reached) (rest : List Lexeme) :
    stage.run ((used ++ rest).map Lexeme.token) = reached.run (rest.map Lexeme.token) := by
  rw [List.map_append, Stage.run_append, led, Option.bind_some]

theorem Blames.after {stage reached : Stage} {used rest : List Lexeme} {cause : DefinitionError}
    (led : stage.run (used.map Lexeme.token) = some reached) (blames : Blames reached rest cause) :
    Blames stage (used ++ rest) cause := by
  cases cause with
  | badSyntax cause =>
      cases cause with
      | unexpectedToken lexeme =>
          obtain ⟨before, after, stop, rfl, onward, blocked⟩ := blames
          exact ⟨used ++ before, after, stop, by simp,
            (run_append_lexemes led before).trans onward, blocked⟩
      | unexpectedEnd =>
          obtain ⟨stop, onward, unfinished⟩ := blames
          exact ⟨stop, (run_append_lexemes led rest).trans onward, unfinished⟩
      | _ => trivial
  | _ => trivial

/-- The outcome of a parser that starts at the stage: it has come to a stage and a rest with the
property, or its error is borne out. -/
def Settles {α : Type} (stage : Stage) (lexemes : List Lexeme)
    (property : α → Stage → List Lexeme → Prop) :
    Except DefinitionError (α × List Lexeme) → Prop
  | .ok (value, rest) => ∃ used reached, lexemes = used ++ rest ∧
      stage.run (used.map Lexeme.token) = some reached ∧ property value reached rest
  | .error cause => Blames stage lexemes cause

section

variable {α β : Type} {stage reached : Stage} {lexemes rest : List Lexeme}
  {property : α → Stage → List Lexeme → Prop} {outcome : Except DefinitionError (α × List Lexeme)}

theorem Settles.after {used : List Lexeme}
    (led : stage.run (used.map Lexeme.token) = some reached)
    (settles : Settles reached rest property outcome) :
    Settles stage (used ++ rest) property outcome := by
  cases outcome with
  | error cause => exact Blames.after led settles
  | ok pair =>
      obtain ⟨more, last, rfl, onward, holds⟩ := settles
      exact ⟨used ++ more, last, by simp, (run_append_lexemes led more).trans onward, holds⟩

theorem Settles.cons {lexeme : Lexeme} (step : stage.next? lexeme.token = some reached)
    (settles : Settles reached rest property outcome) :
    Settles stage (lexeme :: rest) property outcome := by
  have led : stage.run ([lexeme].map Lexeme.token) = some reached := by simp [step]
  exact Settles.after led settles

theorem settles_bind {first : Parser α} {next : α → Parser β}
    {later : β → Stage → List Lexeme → Prop}
    (head : Settles stage lexemes property (first lexemes))
    (tail : ∀ value reached rest, property value reached rest →
      Settles reached rest later (next value rest)) :
    Settles stage lexemes later ((first >>= next) lexemes) := by
  change Settles stage lexemes later (first lexemes >>= fun pair => next pair.1 pair.2)
  cases outcome : first lexemes with
  | error cause =>
      rw [outcome] at head
      exact head
  | ok pair =>
      rw [outcome] at head
      obtain ⟨used, reached, rfl, led, holds⟩ := head
      exact Settles.after led (tail _ _ _ holds)

theorem settles_here {value : α} (holds : property value stage lexemes) :
    Settles stage lexemes property (.ok (value, lexemes)) :=
  ⟨[], stage, rfl, rfl, holds⟩

theorem settles_step {lexeme : Lexeme} {value : α}
    (step : stage.next? lexeme.token = some reached) (holds : property value reached rest) :
    Settles stage (lexeme :: rest) property (.ok (value, rest)) :=
  Settles.cons step (settles_here holds)

theorem settles_blocked {lexeme : Lexeme} (blocked : stage.next? lexeme.token = none) :
    Settles stage (lexeme :: rest) property (refuse (lexeme :: rest)) :=
  ⟨[], rest, stage, rfl, rfl, blocked⟩

theorem settles_cut (unfinished : stage.isFinal = false) :
    Settles stage [] property (refuse []) :=
  ⟨stage, rfl, unfinished⟩

end

theorem settles_term (lexemes : List Lexeme) :
    Settles .related lexemes (fun _ reached _ => reached = .complete) (term lexemes) := by
  cases lexemes with
  | nil => exact settles_cut rfl
  | cons lexeme rest =>
      obtain ⟨token, offset⟩ := lexeme
      cases token with
      | number digits => exact settles_step rfl rfl
      | hexadecimal digits => exact settles_step rfl rfl
      | string content => exact settles_step rfl rfl
      | identifier word =>
          by_cases joins : Spells word "AND"
          · have refused : term (⟨.identifier word, offset⟩ :: rest) = refuse _ :=
              if_pos (isAnd_eq_true_iff.mpr joins)
            rw [refused]
            exact settles_blocked (if_pos joins)
          · have taken : term (⟨.identifier word, offset⟩ :: rest) = .ok (word, rest) :=
              if_neg (mt isAnd_eq_true_iff.mp joins)
            rw [taken]
            exact settles_step (if_neg joins) rfl
      | _ => exact settles_blocked rfl

theorem settles_argument (lexemes : List Lexeme) :
    Settles .opened lexemes (fun _ reached _ => reached = .argument) (argument lexemes) := by
  cases lexemes with
  | nil => exact settles_cut rfl
  | cons lexeme rest =>
      obtain ⟨token, offset⟩ := lexeme
      cases token with
      | identifier word => exact settles_step rfl rfl
      | quotedIdentifier text => exact settles_step rfl rfl
      | _ => exact settles_blocked rfl

theorem settles_closing (lexemes : List Lexeme) :
    Settles .argument lexemes (fun _ reached _ => reached = .closed) (closing lexemes) := by
  cases lexemes with
  | nil => exact settles_cut rfl
  | cons lexeme rest =>
      obtain ⟨token, offset⟩ := lexeme
      cases token with
      | closeParen => exact settles_step rfl rfl
      | _ => exact settles_blocked rfl

/-- The name of a column that is to be compared has been read. A word could also name a function,
so that it has to be known that no parenthesis follows. -/
def Named (stage : Stage) (lexemes : List Lexeme) : Prop :=
  stage = .quoted ∨ stage = .word ∧ ∀ offset rest, lexemes ≠ ⟨.openParen, offset⟩ :: rest

theorem settles_relation {stage : Stage} {lexemes : List Lexeme} (named : Named stage lexemes) :
    Settles stage lexemes (fun _ reached _ => reached = .related) (relation lexemes) := by
  cases lexemes with
  | nil => rcases named with rfl | ⟨rfl, _⟩ <;> exact settles_cut rfl
  | cons lexeme rest =>
      obtain ⟨token, offset⟩ := lexeme
      cases token with
      | relation operator => rcases named with rfl | ⟨rfl, _⟩ <;> exact settles_step rfl rfl
      | openParen =>
          rcases named with rfl | ⟨rfl, unopened⟩
          · exact settles_blocked rfl
          · exact absurd rfl (unopened offset rest)
      | _ => rcases named with rfl | ⟨rfl, _⟩ <;> exact settles_blocked rfl

def Ended (reached : Stage) (rest : List Lexeme) : Prop :=
  reached.isFinal = true ∧ (reached = .closed → Clear rest)

theorem settles_comparison {declaring target : ColumnName} {stage : Stage} {lexemes : List Lexeme}
    (named : Named stage lexemes) :
    Settles stage lexemes (fun _ => Ended) (comparison declaring target lexemes) := by
  unfold comparison
  split
  · trivial
  · refine settles_bind (settles_relation named) ?_
    rintro operator _ rest rfl
    refine settles_bind (settles_term rest) ?_
    rintro text _ rest rfl
    exact settles_here ⟨rfl, nofun⟩

def Related : Option Operator → Stage → List Lexeme → Prop
  | some _, reached, _ => reached = .related
  | none, reached, rest => reached = .closed ∧ Clear rest

theorem settles_relation? (lexemes : List Lexeme) :
    Settles .closed lexemes Related (relation? lexemes) := by
  unfold relation?
  split
  · exact settles_step rfl rfl
  · rename_i clear
    exact settles_here ⟨rfl, clear⟩

theorem settles_measureNamed (name : String) (stage : Stage) (lexemes : List Lexeme) :
    Settles stage lexemes (fun _ reached rest => reached = stage ∧ rest = lexemes)
      ((liftM (measureNamed name) : Parser Measure) lexemes) := by
  unfold measureNamed
  split
  · exact settles_here ⟨rfl, rfl⟩
  · trivial

theorem settles_unaryNamed (name : String) (stage : Stage) (lexemes : List Lexeme) :
    Settles stage lexemes (fun _ reached rest => reached = stage ∧ rest = lexemes)
      ((liftM (unaryNamed name) : Parser UnaryFunction) lexemes) := by
  unfold unaryNamed
  split
  · exact settles_here ⟨rfl, rfl⟩
  · trivial

theorem settles_application (name : String) (lexemes : List Lexeme) :
    Settles .opened lexemes (fun _ => Ended) (application name lexemes) := by
  refine settles_bind (settles_argument lexemes) ?_
  rintro column _ rest rfl
  refine settles_bind (settles_closing rest) ?_
  rintro _ _ rest rfl
  refine settles_bind (settles_relation? rest) ?_
  intro found reached rest related
  cases found with
  | some operator =>
      cases related
      refine settles_bind (settles_term rest) ?_
      rintro text _ rest rfl
      refine settles_bind (settles_measureNamed name _ rest) ?_
      rintro measure _ _ ⟨rfl, rfl⟩
      exact settles_here ⟨rfl, nofun⟩
  | none =>
      obtain ⟨rfl, clear⟩ := related
      refine settles_bind (settles_unaryNamed name _ rest) ?_
      rintro function _ _ ⟨rfl, rfl⟩
      exact settles_here ⟨rfl, fun _ => clear⟩

theorem settles_constraint (declaring : ColumnName) (lexemes : List Lexeme) :
    Settles .start lexemes (fun _ => Ended) (constraint declaring lexemes) := by
  cases lexemes with
  | nil => exact settles_cut rfl
  | cons lexeme rest =>
      obtain ⟨token, offset⟩ := lexeme
      cases token with
      | identifier name =>
          cases rest with
          | nil => exact Settles.cons rfl (settles_comparison (Or.inr ⟨rfl, nofun⟩))
          | cons next after =>
              obtain ⟨following, place⟩ := next
              cases following with
              | openParen =>
                  exact Settles.cons rfl (Settles.cons rfl (settles_application name after))
              | _ => exact Settles.cons rfl (settles_comparison (Or.inr ⟨rfl, nofun⟩))
      | quotedIdentifier text => exact Settles.cons rfl (settles_comparison (Or.inl rfl))
      | _ => exact settles_blocked rfl

theorem ended_of_constraint {declaring : ColumnName} {lexemes rest : List Lexeme}
    {result : Constraint} (read : constraint declaring lexemes = .ok (result, rest)) :
    ∃ used reached, lexemes = used ++ rest ∧
      Stage.start.run (used.map Lexeme.token) = some reached ∧ Ended reached rest := by
  have settled := settles_constraint declaring lexemes
  rw [read] at settled
  exact settled

theorem blames_of_ended {reached : Stage} {lexeme : Lexeme} {rest : List Lexeme}
    {cause : DefinitionError} (ended : Ended reached (lexeme :: rest))
    (notAnd : ∀ word, lexeme.token = .identifier word → ¬ Spells word "AND")
    (failed : (refuse (lexeme :: rest) : Except DefinitionError (List Constraint)) = .error cause) :
    Blames reached (lexeme :: rest) cause := by
  cases failed
  obtain ⟨token, offset⟩ := lexeme
  refine ⟨[], rest, reached, rfl, rfl, Stage.next?_of_isFinal ended.1 ?_ notAnd⟩
  rintro operator rfl closed
  exact ended.2 closed operator offset rest rfl

theorem blames_of_conjunction {declaring : ColumnName} {lexemes : List Lexeme}
    {cause : DefinitionError} (failed : conjunction declaring lexemes = .error cause) :
    Blames .start lexemes cause := by
  fun_induction conjunction declaring lexemes with
  | case1 lexemes error read =>
      cases failed
      have settled := settles_constraint declaring lexemes
      rw [read] at settled
      exact settled
  | case2 lexemes first read => cases failed
  | case3 lexemes first word offset rest read isAnd ih =>
      obtain ⟨used, reached, rfl, led, final, _⟩ := ended_of_constraint read
      -- Behind `AND` the machine is at its start again, where the others are read from.
      have joined : Stage.start.run ((used ++ [(⟨.identifier word, offset⟩ : Lexeme)]).map
          Lexeme.token) = some .start := by
        simp [Stage.run_append, led, Stage.next?_and final (isAnd_eq_true_iff.mp isAnd)]
      cases others : conjunction declaring rest with
      | ok constraints => simp [others, bind, Except.bind, pure, Except.pure] at failed
      | error error =>
          simp only [others, bind, Except.bind, Except.error.injEq] at failed
          subst failed
          simpa using Blames.after joined (ih others)
  | case4 lexemes first word offset rest read notAnd =>
      obtain ⟨used, reached, rfl, led, ended⟩ := ended_of_constraint read
      refine Blames.after led (blames_of_ended ended ?_ failed)
      rintro _ ⟨⟩
      exact mt isAnd_eq_true_iff.mpr notAnd
  | case5 lexemes first rest nonempty other read =>
      obtain ⟨used, reached, rfl, led, ended⟩ := ended_of_constraint read
      refine Blames.after led ?_
      cases rest with
      | nil => exact absurd rfl nonempty
      | cons lexeme rest =>
          refine blames_of_ended ended ?_ failed
          obtain ⟨token, offset⟩ := lexeme
          rintro word rfl
          exact absurd rfl (other word offset rest)

theorem offsets_of_lexFrom {offset : Nat} {chars : List Char} {lexemes : List Lexeme}
    (split : lexFrom offset chars = .ok lexemes) :
    (∀ lexeme ∈ lexemes, offset ≤ lexeme.offset) ∧
      lexemes.Pairwise fun earlier later => earlier.offset < later.offset := by
  fun_induction lexFrom offset chars generalizing lexemes with
  | case1 =>
      cases split
      exact ⟨by simp, .nil⟩
  | case2 offset char rest space ih =>
      obtain ⟨behind, ordered⟩ := ih split
      exact ⟨fun lexeme member => Nat.le_of_succ_le (behind lexeme member), ordered⟩
  | case3 offset char rest solid scanned found ih =>
      cases remaining : lexFrom (offset + Text.byteLength scanned.spelling) scanned.rest with
      | error cause => simp [remaining, bind, Except.bind] at split
      | ok others =>
          simp only [remaining, bind, Except.bind, pure, Except.pure, Except.ok.injEq] at split
          subst split
          obtain ⟨behind, ordered⟩ := ih remaining
          have spelled := Nat.lt_of_lt_of_le (List.length_pos_iff.mpr (scan?_splits found).2)
            (Text.length_le_byteLength scanned.spelling)
          have later : ∀ lexeme ∈ others, offset < lexeme.offset := by
            intro lexeme member
            have bound := behind lexeme member
            omega
          refine ⟨?_, List.pairwise_cons.mpr ⟨later, ordered⟩⟩
          intro lexeme member
          rcases List.mem_cons.mp member with rfl | member
          · exact Nat.le_refl _
          · exact Nat.le_of_lt (later lexeme member)
  | case4 => cases split

def tokensBefore (lexemes : List Lexeme) (offset : Nat) : List Token :=
  (lexemes.filter fun lexeme => lexeme.offset < offset).map Lexeme.token

theorem tokensBefore_append {before after : List Lexeme} {lexeme : Lexeme}
    (ordered : (before ++ lexeme :: after).Pairwise fun earlier later =>
      earlier.offset < later.offset) :
    tokensBefore (before ++ lexeme :: after) lexeme.offset = before.map Lexeme.token := by
  obtain ⟨_, behind, apart⟩ := List.pairwise_append.mp ordered
  have later := (List.pairwise_cons.mp behind).1
  have front : before.filter (fun other => other.offset < lexeme.offset) = before :=
    List.filter_eq_self.mpr fun other member => by
      simpa using apart other member lexeme List.mem_cons_self
  have back : (lexeme :: after).filter (fun other => other.offset < lexeme.offset) = [] := by
    refine List.filter_eq_nil_iff.mpr fun other member => ?_
    rcases List.mem_cons.mp member with rfl | member
    · simp
    · have bound := later other member
      simp only [decide_eq_true_eq]
      omega
  rw [tokensBefore, List.filter_append, front, back, List.append_nil]

theorem blames_of_parse {declaring : ColumnName} {clause : String} {lexemes : List Lexeme}
    {cause : DefinitionError} (split : lex clause = .ok lexemes)
    (failed : parse declaring clause = .error cause) : Blames .start lexemes cause := by
  simp only [parse, split] at failed
  cases read : conjunction declaring lexemes with
  | ok constraints => simp [read, bind, Except.bind, pure, Except.pure] at failed
  | error error =>
      simp only [read, bind, Except.bind, Except.error.injEq] at failed
      subst failed
      exact blames_of_conjunction read

/-- Where the parser calls a token unexpected, the tokens before it begin a clause, and no clause
goes on with it. Where it calls the end unexpected, the tokens begin a clause but are none. Neither
depends on the declaring column or on which functions there are. -/
theorem errors_at_first_impossible_token (declaring : ColumnName) {clause : String}
    {lexemes : List Lexeme} (split : lex clause = .ok lexemes) :
    (∀ lexeme, parse declaring clause = .error (.badSyntax (.unexpectedToken lexeme)) →
      lexeme ∈ lexemes ∧ Begins (tokensBefore lexemes lexeme.offset) ∧
        ¬Begins (tokensBefore lexemes lexeme.offset ++ [lexeme.token])) ∧
    (parse declaring clause = .error (.badSyntax .unexpectedEnd) →
      Begins (lexemes.map Lexeme.token) ∧
        ¬∃ phrases, DerivesClause (lexemes.map Lexeme.token) phrases) := by
  constructor
  · intro lexeme failed
    obtain ⟨before, after, reached, rfl, led, blocked⟩ := blames_of_parse split failed
    rw [tokensBefore_append (offsets_of_lexFrom split).2, begins_iff_run, begins_iff_run]
    refine ⟨by simp, ⟨reached, led⟩, ?_⟩
    rintro ⟨beyond, onward⟩
    simp [Stage.run_append, led, blocked] at onward
  · intro failed
    obtain ⟨reached, led, unfinished⟩ := blames_of_parse split failed
    rw [begins_iff_run, derivesClause_iff_run]
    refine ⟨⟨reached, led⟩, ?_⟩
    rintro ⟨last, onward, final⟩
    rw [led] at onward
    cases onward
    rw [final] at unfinished
    contradiction

def unrelatedSample : List Lexeme :=
  [⟨.identifier "NOT_NULL", 0⟩, ⟨.openParen, 8⟩, ⟨.identifier "v", 9⟩, ⟨.closeParen, 10⟩,
    ⟨.identifier "AND", 12⟩, ⟨.identifier "v", 16⟩, ⟨.number "6", 18⟩]

def openSample : List Lexeme :=
  [⟨.identifier "v", 0⟩, ⟨.relation .greater, 2⟩, ⟨.number "5", 4⟩, ⟨.identifier "AND", 6⟩]

theorem errors_at_first_impossible_token_samples :
    (lex "NOT_NULL(v) AND v 6" = .ok unrelatedSample ∧
      parse (.ofCql "v") "NOT_NULL(v) AND v 6" =
        .error (.badSyntax (.unexpectedToken ⟨.number "6", 18⟩)) ∧
      Begins (tokensBefore unrelatedSample 18) ∧
      ¬Begins (tokensBefore unrelatedSample 18 ++ [.number "6"])) ∧
    lex "v > 5 AND" = .ok openSample ∧
      parse (.ofCql "v") "v > 5 AND" = .error (.badSyntax .unexpectedEnd) ∧
      Begins (openSample.map Lexeme.token) ∧
      ¬∃ phrases, DerivesClause (openSample.map Lexeme.token) phrases := by
  have unrelated : lex "NOT_NULL(v) AND v 6" = .ok unrelatedSample := by decide +kernel
  have refused : parse (.ofCql "v") "NOT_NULL(v) AND v 6" =
      .error (.badSyntax (.unexpectedToken ⟨.number "6", 18⟩)) := by decide +kernel
  have unfinished : lex "v > 5 AND" = .ok openSample := by decide +kernel
  have ended : parse (.ofCql "v") "v > 5 AND" = .error (.badSyntax .unexpectedEnd) := by
    decide +kernel
  exact ⟨⟨unrelated, refused, ((errors_at_first_impossible_token _ unrelated).1 _ refused).2⟩,
    unfinished, ended, (errors_at_first_impossible_token _ unfinished).2 ended⟩

end ColumnChecks.Clause
