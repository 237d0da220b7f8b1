import Mathlib.Data.List.Forall2
import ColumnChecks.Clause.Parser
import ColumnChecks.Proofs.Text.Letters

/-! The grammar of clauses, over tokens. The parser accepts exactly the clauses whose comparisons
are of the declaring column and whose functions are registered, and returns what they say. -/

namespace ColumnChecks

def Spells (name registered : String) : Prop :=
  name.toList.map Char.toUpper = registered.toList

instance (name registered : String) : Decidable (Spells name registered) :=
  inferInstanceAs (Decidable (_ = _))

theorem find?_eq_some_iff_spells {α : Type} {all : List α} {nameOf : α → String}
    (complete : ∀ entry, entry ∈ all)
    (injective : ∀ first second, nameOf first = nameOf second → first = second)
    (name : String) (entry : α) :
    all.find? (fun other => nameOf other = String.ofList (name.toList.map Char.toUpper)) =
      some entry ↔ Spells name (nameOf entry) := by
  constructor
  · intro found
    have same := List.find?_some found
    simp only [decide_eq_true_eq] at same
    simp [Spells, same]
  · intro spelled
    have same : nameOf entry = String.ofList (name.toList.map Char.toUpper) := by
      rw [spelled, String.ofList_toList]
    cases result : all.find? fun other =>
        nameOf other = String.ofList (name.toList.map Char.toUpper) with
    | none =>
        have absent := List.find?_eq_none.mp result entry (complete entry)
        simp [same] at absent
    | some other =>
        have found := List.find?_some result
        simp only [decide_eq_true_eq] at found
        rw [injective other entry (found.trans same.symm)]

theorem Measure.ofName?_eq_some_iff (name : String) (measure : Measure) :
    Measure.ofName? name = some measure ↔ Spells name measure.name := by
  apply find?_eq_some_iff_spells Measure.mem_all
  intro first second same
  have found := congrArg Measure.ofName? same
  exact Option.some.inj ((ofName?_name first).symm.trans (found.trans (ofName?_name second)))

theorem UnaryFunction.ofName?_eq_some_iff (name : String) (function : UnaryFunction) :
    UnaryFunction.ofName? name = some function ↔ Spells name function.name := by
  apply find?_eq_some_iff_spells UnaryFunction.mem_all
  intro first second same
  have found := congrArg UnaryFunction.ofName? same
  exact Option.some.inj ((ofName?_name first).symm.trans (found.trans (ofName?_name second)))

namespace Clause

theorem isAnd_eq_true_iff {word : String} : Token.isAnd word = true ↔ Spells word "AND" := by
  have joined : "AND".toList = ['a'.toUpper, 'n'.toUpper, 'd'.toUpper] := rfl
  simp only [Token.isAnd, Spells, joined, decide_eq_true_eq, List.map_eq_cons_iff,
    List.map_eq_nil_iff, Text.toLower_eq_iff (show 'a'.isLower = true by decide),
    Text.toLower_eq_iff (show 'n'.isLower = true by decide),
    Text.toLower_eq_iff (show 'd'.isLower = true by decide)]

theorem isAnd_eq_false_iff {word : String} : Token.isAnd word = false ↔ ¬ Spells word "AND" := by
  rw [← isAnd_eq_true_iff, Bool.not_eq_true]

/-- What a constraint of a clause says, before any name in it is looked up. -/
inductive Phrase where
  | comparison (column : ColumnName) (operator : Operator) (term : String)
  | application (name : String) (column : ColumnName)
  | measured (name : String) (column : ColumnName) (operator : Operator) (term : String)

inductive IsColumn : Token → ColumnName → Prop
  | bare (word : String) : IsColumn (.identifier word) (.ofCql word)
  | quoted (text : String) : IsColumn (.quotedIdentifier text) (.ofCql text)

inductive IsTerm : Token → String → Prop
  | number (digits : String) : IsTerm (.number digits) digits
  | hexadecimal (digits : String) : IsTerm (.hexadecimal digits) digits
  | string (content : String) : IsTerm (.string content) content
  | word {word : String} : ¬ Spells word "AND" → IsTerm (.identifier word) word

inductive DerivesConstraint : List Token → Phrase → Prop
  | comparison {target literal column text operator} :
      IsColumn target column → IsTerm literal text →
      DerivesConstraint [target, .relation operator, literal] (.comparison column operator text)
  | application {name target column} : IsColumn target column →
      DerivesConstraint [.identifier name, .openParen, target, .closeParen]
        (.application name column)
  | measured {name target literal column text operator} :
      IsColumn target column → IsTerm literal text →
      DerivesConstraint
        [.identifier name, .openParen, target, .closeParen, .relation operator, literal]
        (.measured name column operator text)

inductive DerivesClause : List Token → List Phrase → Prop
  | single {tokens phrase} : DerivesConstraint tokens phrase → DerivesClause tokens [phrase]
  | conjoined {first word rest phrase phrases} :
      DerivesConstraint first phrase → Spells word "AND" → DerivesClause rest phrases →
      DerivesClause (first ++ .identifier word :: rest) (phrase :: phrases)

/-- The constraint that a phrase of a clause on the declaring column stands for. -/
inductive Phrase.Means (declaring : ColumnName) : Phrase → Constraint → Prop
  | comparison {operator term} :
      Means declaring (comparison declaring operator term) (.scalar ⟨declaring, operator, term⟩)
  | application {name column function} : Spells name function.name →
      Means declaring (application name column) (.unary ⟨function, column⟩)
  | measured {name column operator term measure} : Spells name measure.name →
      Means declaring (measured name column operator term)
        (.function ⟨measure, column, operator, term⟩)

theorem parser_bind_eq_ok_iff {α β : Type} {first : Parser α} {next : α → Parser β}
    {lexemes rest : List Lexeme} {result : β} :
    (first >>= next) lexemes = .ok (result, rest) ↔
      ∃ value middle, first lexemes = .ok (value, middle) ∧
        next value middle = .ok (result, rest) := by
  simp only [bind, StateT.bind, Except.bind]
  cases first lexemes with
  | error cause => simp
  | ok pair => simp [Prod.ext_iff]

theorem parser_lift_eq_ok_iff {α : Type} {given : Except DefinitionError α}
    {lexemes rest : List Lexeme} {result : α} :
    (liftM given : Parser α) lexemes = .ok (result, rest) ↔
      given = .ok result ∧ rest = lexemes := by
  cases given with
  | error cause => simp [liftM, monadLift, MonadLift.monadLift, StateT.lift, bind, Except.bind]
  | ok value =>
      simp [liftM, monadLift, MonadLift.monadLift, StateT.lift, bind, Except.bind, pure,
        Except.pure, eq_comm]

theorem relation_eq_ok_iff {lexemes rest : List Lexeme} {operator : Operator} :
    relation lexemes = .ok (operator, rest) ↔
      ∃ offset, lexemes = ⟨.relation operator, offset⟩ :: rest := by
  unfold relation
  split
  · simp [and_comm]
  · rename_i other
    simp only [refuse_ne_ok, false_iff, not_exists]
    exact fun offset => other operator offset rest

theorem term_eq_ok_iff {lexemes rest : List Lexeme} {text : String} :
    term lexemes = .ok (text, rest) ↔
      ∃ literal, lexemes = literal :: rest ∧ IsTerm literal.token text := by
  constructor
  · intro read
    unfold term at read
    split at read
    · simp only [Except.ok.injEq, Prod.mk.injEq] at read
      obtain ⟨rfl, rfl⟩ := read
      exact ⟨_, rfl, .number _⟩
    · simp only [Except.ok.injEq, Prod.mk.injEq] at read
      obtain ⟨rfl, rfl⟩ := read
      exact ⟨_, rfl, .hexadecimal _⟩
    · simp only [Except.ok.injEq, Prod.mk.injEq] at read
      obtain ⟨rfl, rfl⟩ := read
      exact ⟨_, rfl, .string _⟩
    · split at read
      · exact absurd read (refuse_ne_ok _ _)
      · rename_i notAnd
        simp only [Except.ok.injEq, Prod.mk.injEq] at read
        obtain ⟨rfl, rfl⟩ := read
        exact ⟨_, rfl, .word (mt isAnd_eq_true_iff.mpr notAnd)⟩
    · exact absurd read (refuse_ne_ok _ _)
  · rintro ⟨⟨token, offset⟩, rfl, literal⟩
    cases literal with
    | number => rfl
    | hexadecimal => rfl
    | string => rfl
    | word notAnd => simp [term, isAnd_eq_false_iff.mpr notAnd]

theorem argument_eq_ok_iff {lexemes rest : List Lexeme} {column : ColumnName} :
    argument lexemes = .ok (column, rest) ↔
      ∃ target, lexemes = target :: rest ∧ IsColumn target.token column := by
  constructor
  · intro read
    unfold argument at read
    split at read
    · simp only [Except.ok.injEq, Prod.mk.injEq] at read
      obtain ⟨rfl, rfl⟩ := read
      exact ⟨_, rfl, .bare _⟩
    · simp only [Except.ok.injEq, Prod.mk.injEq] at read
      obtain ⟨rfl, rfl⟩ := read
      exact ⟨_, rfl, .quoted _⟩
    · exact absurd read (refuse_ne_ok _ _)
  · rintro ⟨⟨token, offset⟩, rfl, target⟩
    cases target with
    | bare => rfl
    | quoted => rfl

theorem closing_eq_ok_iff {lexemes rest : List Lexeme} {closed : Unit} :
    closing lexemes = .ok (closed, rest) ↔ ∃ offset, lexemes = ⟨.closeParen, offset⟩ :: rest := by
  unfold closing
  split
  · simp
  · rename_i other
    simp only [refuse_ne_ok, false_iff, not_exists]
    exact fun offset => other offset rest

theorem measureNamed_eq_ok_iff {name : String} {measure : Measure} :
    measureNamed name = .ok measure ↔ Spells name measure.name := by
  rw [← Measure.ofName?_eq_some_iff]
  unfold measureNamed
  split <;> simp_all

theorem unaryNamed_eq_ok_iff {name : String} {function : UnaryFunction} :
    unaryNamed name = .ok function ↔ Spells name function.name := by
  rw [← UnaryFunction.ofName?_eq_some_iff]
  unfold unaryNamed
  split <;> simp_all

theorem comparison_eq_ok_iff {declaring target : ColumnName} {lexemes rest : List Lexeme}
    {result : Constraint} :
    comparison declaring target lexemes = .ok (result, rest) ↔
      target = declaring ∧ ∃ operator offset literal text,
        lexemes = ⟨.relation operator, offset⟩ :: literal :: rest ∧ IsTerm literal.token text ∧
        result = .scalar ⟨target, operator, text⟩ := by
  unfold comparison
  by_cases own : target = declaring
  · simp only [own, ne_eq, not_true_eq_false, if_false, true_and, parser_bind_eq_ok_iff,
      relation_eq_ok_iff, term_eq_ok_iff]
    constructor
    · rintro ⟨operator, _, ⟨offset, rfl⟩, text, _, ⟨literal, rfl, isTerm⟩, read⟩
      cases read
      exact ⟨operator, offset, literal, text, rfl, isTerm, rfl⟩
    · rintro ⟨operator, offset, literal, text, rfl, isTerm, rfl⟩
      exact ⟨operator, _, ⟨offset, rfl⟩, text, _, ⟨literal, rfl, isTerm⟩, rfl⟩
  · simp only [own, ne_eq, not_false_eq_true, if_true, false_and, iff_false]
    exact nofun

def Clear (lexemes : List Lexeme) : Prop :=
  ∀ operator offset rest, lexemes ≠ ⟨.relation operator, offset⟩ :: rest

theorem relation?_eq_some_iff {lexemes rest : List Lexeme} {operator : Operator} :
    relation? lexemes = .ok (some operator, rest) ↔
      ∃ offset, lexemes = ⟨.relation operator, offset⟩ :: rest := by
  unfold relation?
  split
  · simp [and_comm]
  · rename_i other
    simp only [Except.ok.injEq, Prod.mk.injEq, reduceCtorEq, false_and, false_iff, not_exists]
    exact fun offset => other operator offset rest

theorem relation?_eq_none_iff {lexemes rest : List Lexeme} :
    relation? lexemes = .ok (none, rest) ↔ lexemes = rest ∧ Clear rest := by
  unfold relation?
  split
  · simp only [Except.ok.injEq, Prod.mk.injEq, reduceCtorEq, false_and, false_iff]
    rintro ⟨rfl, clear⟩
    exact clear _ _ _ rfl
  · rename_i other
    simp only [Except.ok.injEq, Prod.mk.injEq, true_and]
    constructor
    · rintro rfl
      exact ⟨rfl, other⟩
    · exact And.left

theorem application_eq_ok_iff {name : String} {lexemes rest : List Lexeme} {result : Constraint} :
    application name lexemes = .ok (result, rest) ↔
      ∃ target column closed after, lexemes = target :: ⟨.closeParen, closed⟩ :: after ∧
        IsColumn target.token column ∧
        ((after = rest ∧ Clear rest ∧ ∃ function,
            Spells name function.name ∧ result = .unary ⟨function, column⟩) ∨
          ∃ operator offset literal text measure,
            after = ⟨.relation operator, offset⟩ :: literal :: rest ∧
            IsTerm literal.token text ∧ Spells name measure.name ∧
            result = .function ⟨measure, column, operator, text⟩) := by
  unfold application
  simp only [parser_bind_eq_ok_iff, argument_eq_ok_iff, closing_eq_ok_iff]
  constructor
  · rintro ⟨column, _, ⟨target, rfl, isColumn⟩, _, after, ⟨closed, rfl⟩, found, middle, next, read⟩
    refine ⟨target, column, closed, after, rfl, isColumn, ?_⟩
    cases found with
    | none =>
        obtain ⟨rfl, clear⟩ := relation?_eq_none_iff.mp next
        obtain ⟨function, _, looked, returned⟩ := parser_bind_eq_ok_iff.mp read
        obtain ⟨named, rfl⟩ := parser_lift_eq_ok_iff.mp looked
        cases returned
        exact Or.inl ⟨rfl, clear, function, unaryNamed_eq_ok_iff.mp named, rfl⟩
    | some operator =>
        obtain ⟨offset, rfl⟩ := relation?_eq_some_iff.mp next
        obtain ⟨text, _, literalRead, continued⟩ := parser_bind_eq_ok_iff.mp read
        obtain ⟨literal, rfl, isTerm⟩ := term_eq_ok_iff.mp literalRead
        obtain ⟨measure, _, looked, returned⟩ := parser_bind_eq_ok_iff.mp continued
        obtain ⟨named, rfl⟩ := parser_lift_eq_ok_iff.mp looked
        cases returned
        exact Or.inr ⟨operator, offset, literal, text, measure, rfl, isTerm,
          measureNamed_eq_ok_iff.mp named, rfl⟩
  · rintro ⟨target, column, closed, after, rfl, isColumn,
      ⟨rfl, clear, function, spelled, rfl⟩ |
        ⟨operator, offset, literal, text, measure, rfl, isTerm, spelled, rfl⟩⟩
    · have named : (liftM (unaryNamed name) : Parser UnaryFunction) after =
          .ok (function, after) :=
        parser_lift_eq_ok_iff.mpr ⟨unaryNamed_eq_ok_iff.mpr spelled, rfl⟩
      exact ⟨column, _, ⟨target, rfl, isColumn⟩, (), _, ⟨closed, rfl⟩, none, _,
        relation?_eq_none_iff.mpr ⟨rfl, clear⟩,
        parser_bind_eq_ok_iff.mpr ⟨function, _, named, rfl⟩⟩
    · have literalRead : term (literal :: rest) = .ok (text, rest) :=
        term_eq_ok_iff.mpr ⟨literal, rfl, isTerm⟩
      have named : (liftM (measureNamed name) : Parser Measure) rest = .ok (measure, rest) :=
        parser_lift_eq_ok_iff.mpr ⟨measureNamed_eq_ok_iff.mpr spelled, rfl⟩
      exact ⟨column, _, ⟨target, rfl, isColumn⟩, (), _, ⟨closed, rfl⟩, some operator, _,
        relation?_eq_some_iff.mpr ⟨offset, rfl⟩, parser_bind_eq_ok_iff.mpr
          ⟨text, _, literalRead, parser_bind_eq_ok_iff.mpr ⟨measure, _, named, rfl⟩⟩⟩

theorem derives_of_constraint {declaring : ColumnName} {lexemes rest : List Lexeme}
    {result : Constraint} (read : constraint declaring lexemes = .ok (result, rest)) :
    ∃ used phrase, lexemes = used ++ rest ∧
      DerivesConstraint (used.map Lexeme.token) phrase ∧ phrase.Means declaring result := by
  unfold constraint at read
  split at read
  · rename_i name opening opened inner
    obtain ⟨target, column, closed, after, rfl, isColumn, outcome⟩ :=
      application_eq_ok_iff.mp read
    rcases outcome with ⟨rfl, _, function, spelled, rfl⟩ |
      ⟨operator, offset, literal, text, measure, rfl, isTerm, spelled, rfl⟩
    · exact ⟨[_, _, _, _], _, rfl, .application isColumn, .application spelled⟩
    · exact ⟨[_, _, _, _, _, _], _, rfl, .measured isColumn isTerm, .measured spelled⟩
  · obtain ⟨rfl, operator, offset, literal, text, rfl, isTerm, rfl⟩ :=
      comparison_eq_ok_iff.mp read
    exact ⟨[_, _, _], _, rfl, .comparison (.bare _) isTerm, .comparison⟩
  · obtain ⟨rfl, operator, offset, literal, text, rfl, isTerm, rfl⟩ :=
      comparison_eq_ok_iff.mp read
    exact ⟨[_, _, _], _, rfl, .comparison (.quoted _) isTerm, .comparison⟩
  · exact absurd read (refuse_ne_ok _ _)

theorem constraint_of_derives {declaring : ColumnName} {used rest : List Lexeme}
    {phrase : Phrase} {result : Constraint}
    (derived : DerivesConstraint (used.map Lexeme.token) phrase)
    (means : phrase.Means declaring result) (clear : Clear rest) :
    constraint declaring (used ++ rest) = .ok (result, rest) := by
  generalize same : used.map Lexeme.token = tokens at derived
  cases derived with
  | @comparison _ _ _ text operator isColumn isTerm =>
      simp only [List.map_eq_cons_iff, List.map_eq_nil_iff] at same
      obtain ⟨⟨target, _⟩, _, rfl, rfl, ⟨_, offset⟩, _, rfl, rfl, literal, _, rfl, rfl, rfl⟩ := same
      cases means
      have compared : comparison declaring declaring
          (⟨.relation operator, offset⟩ :: literal :: rest) =
          .ok (.scalar ⟨declaring, operator, text⟩, rest) :=
        comparison_eq_ok_iff.mpr ⟨rfl, _, _, _, _, rfl, isTerm, rfl⟩
      cases isColumn with
      | bare word => exact compared
      | quoted text => exact compared
  | application isColumn =>
      simp only [List.map_eq_cons_iff, List.map_eq_nil_iff] at same
      obtain ⟨⟨_, _⟩, _, rfl, rfl, ⟨_, _⟩, _, rfl, rfl, target, _, rfl, rfl, ⟨_, closed⟩, _, rfl,
        rfl, rfl⟩ := same
      cases means with
      | application spelled =>
          exact application_eq_ok_iff.mpr ⟨target, _, closed, rest, rfl, isColumn,
            Or.inl ⟨rfl, clear, _, spelled, rfl⟩⟩
  | measured isColumn isTerm =>
      simp only [List.map_eq_cons_iff, List.map_eq_nil_iff] at same
      obtain ⟨⟨_, _⟩, _, rfl, rfl, ⟨_, _⟩, _, rfl, rfl, target, _, rfl, rfl, ⟨_, closed⟩, _, rfl,
        rfl, ⟨_, offset⟩, _, rfl, rfl, literal, _, rfl, rfl, rfl⟩ := same
      cases means with
      | measured spelled =>
          exact application_eq_ok_iff.mpr ⟨target, _, closed, _, rfl, isColumn,
            Or.inr ⟨_, offset, literal, _, _, rfl, isTerm, spelled, rfl⟩⟩

theorem conjunction_of_last {declaring : ColumnName} {lexemes : List Lexeme}
    {first : Constraint} (read : constraint declaring lexemes = .ok (first, [])) :
    conjunction declaring lexemes = .ok [first] := by
  unfold conjunction
  split <;> simp_all

theorem conjunction_of_and {declaring : ColumnName} {lexemes rest : List Lexeme}
    {first : Constraint} {word : String} {offset : Nat} (joins : Spells word "AND")
    (read : constraint declaring lexemes = .ok (first, ⟨.identifier word, offset⟩ :: rest)) :
    conjunction declaring lexemes = do
      let others ← conjunction declaring rest
      return first :: others := by
  have isAnd := isAnd_eq_true_iff.mpr joins
  rw [conjunction]
  split <;> simp_all

theorem derives_of_conjunction {declaring : ColumnName} {lexemes : List Lexeme}
    {constraints : List Constraint} (read : conjunction declaring lexemes = .ok constraints) :
    ∃ phrases, DerivesClause (lexemes.map Lexeme.token) phrases ∧
      List.Forall₂ (Phrase.Means declaring) phrases constraints := by
  fun_induction conjunction declaring lexemes generalizing constraints with
  | case1 => simp at read
  | case2 lexemes first firstRead =>
      obtain ⟨used, phrase, rfl, derived, means⟩ := derives_of_constraint firstRead
      cases read
      refine ⟨[phrase], ?_, .cons means .nil⟩
      simpa using .single derived
  | case3 lexemes first word offset rest firstRead isAnd ih =>
      obtain ⟨used, phrase, rfl, derived, means⟩ := derives_of_constraint firstRead
      cases remaining : conjunction declaring rest with
      | error cause => simp [remaining, bind, Except.bind] at read
      | ok others =>
          simp only [remaining, bind, Except.bind, pure, Except.pure, Except.ok.injEq] at read
          subst constraints
          obtain ⟨phrases, derivedRest, meaning⟩ := ih remaining
          refine ⟨phrase :: phrases, ?_, .cons means meaning⟩
          simpa using .conjoined derived (isAnd_eq_true_iff.mp isAnd) derivedRest
  | case4 => exact absurd read (refuse_ne_ok _ _)
  | case5 => exact absurd read (refuse_ne_ok _ _)

theorem conjunction_of_derives {declaring : ColumnName} {lexemes : List Lexeme}
    {phrases : List Phrase} {constraints : List Constraint}
    (derived : DerivesClause (lexemes.map Lexeme.token) phrases)
    (meaning : List.Forall₂ (Phrase.Means declaring) phrases constraints) :
    conjunction declaring lexemes = .ok constraints := by
  generalize same : lexemes.map Lexeme.token = tokens at derived
  induction derived generalizing lexemes constraints with
  | single derived =>
      subst same
      obtain ⟨first, _, means, nothing, rfl⟩ := List.forall₂_cons_left_iff.mp meaning
      cases nothing
      have read : constraint declaring (lexemes ++ []) = .ok (first, []) :=
        constraint_of_derives derived means nofun
      rw [List.append_nil] at read
      exact conjunction_of_last read
  | conjoined derived joins _ ih =>
      obtain ⟨used, _, rfl, rfl, following⟩ := List.map_eq_append_iff.mp same
      obtain ⟨⟨_, offset⟩, rest, rfl, rfl, rfl⟩ := List.map_eq_cons_iff.mp following
      obtain ⟨first, others, means, meanings, rfl⟩ := List.forall₂_cons_left_iff.mp meaning
      rw [conjunction_of_and joins (constraint_of_derives derived means nofun), ih meanings rfl]
      rfl

end Clause

end ColumnChecks
