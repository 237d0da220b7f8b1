import ColumnChecks.Proofs.Clause.Grammar
import ColumnChecks.Proofs.Clause.Tokens
import ColumnChecks.Proofs.Constraint.Text

/-! The text of a set of constraints as a clause. A term is written without quotes, so the text
reads back exactly if every term is by itself one lexeme that is read as a term. -/

namespace ColumnChecks

namespace Clause

/-- The text is by itself one lexeme that is read as a term. -/
def IsLexeme (text : String) : Prop :=
  IsNumber text.toList ∨ IsHexadecimal text.toList ∨
    IsWord text.toList ∧ ¬ Spells text "AND"

instance : DecidablePred IsLexeme := fun _ => inferInstanceAs (Decidable (_ ∨ _))

def nameToken (name : ColumnName) : Token :=
  if ColumnName.isBare name.text.toList then .identifier name.text
  else .quotedIdentifier name.toCql

theorem isAlpha_of_isLower {char : Char} (lower : char.isLower = true) : char.isAlpha = true := by
  change (char.isUpper || char.isLower) = true
  rw [lower, Bool.or_true]

theorem isWord_of_isBare {chars : List Char} (bare : ColumnName.isBare chars = true) :
    IsWord chars := by
  cases chars with
  | nil => simp [ColumnName.isBare] at bare
  | cons first rest =>
      simp only [ColumnName.isBare, Bool.and_eq_true, List.all_eq_true] at bare
      refine ⟨by simp [isWordStart, isAlpha_of_isLower bare.1], fun char member => ?_⟩
      have isBare := bare.2 char member
      simp only [ColumnName.isBareChar, Bool.or_eq_true] at isBare
      rcases isBare with (lower | digit) | underscore
      · simp [isWordChar, Char.isAlphanum, isAlpha_of_isLower lower]
      · simp [isWordChar, Char.isAlphanum, digit]
      · simp [isWordChar, underscore]

theorem isSpelling_identifier {word : String} (isWord : IsWord word.toList) :
    IsSpelling (.identifier word) word.toList := by
  simpa using IsSpelling.identifier isWord

theorem isSpelling_nameToken (name : ColumnName) :
    IsSpelling (nameToken name) name.toCql.toList := by
  unfold nameToken ColumnName.toCql
  split
  · rename_i bare
    exact isSpelling_identifier (isWord_of_isBare bare)
  · rw [String.toList_ofList]
    exact .quotedIdentifier name.text.toList

theorem isColumn_nameToken (name : ColumnName) : IsColumn (nameToken name) name := by
  have read := ColumnName.ofCql_toCql name
  unfold nameToken
  split
  · rename_i bare
    have same : name.toCql = name.text := if_pos bare
    have column := IsColumn.bare name.text
    rwa [← same, read, same] at column
  · have column := IsColumn.quoted name.toCql
    rwa [read] at column

def Follows (tail : List Char) : Prop :=
  tail = [] ∨ ∃ rest, tail = ' ' :: 'A' :: 'N' :: 'D' :: ' ' :: rest

theorem Follows.breaks {tail : List Char} (follows : Follows tail) : Breaks tail := by
  rcases follows with rfl | ⟨rest, rfl⟩
  · exact breaks_nil
  · exact breaks_cons _ (by decide)

theorem length_le_length_doubled (quote : Char) (chars : List Char) :
    chars.length ≤ (Text.doubled quote chars).length := by
  induction chars with
  | nil => simp
  | cons char rest ih =>
      simp only [Text.doubled]
      split <;> simp only [List.length_cons] <;> omega

theorem count_doubled {quote char : Char} (other : char ≠ quote) (chars : List Char) :
    (Text.doubled quote chars).count char = chars.count char := by
  induction chars with
  | nil => simp [Text.doubled]
  | cons first rest ih =>
      simp only [Text.doubled]
      split
      · rename_i same
        subst same
        simp [ih, Ne.symm other]
      · simp [List.count_cons, ih]

theorem count_of_blank {blanks : List Char} (blank : ∀ char ∈ blanks, isSpace char = true) :
    blanks.count 'A' = 0 := by
  rw [List.count_eq_zero]
  intro member
  exact absurd (blank 'A' member) (by decide)

/-- No term reads back as a quoted string with the term as its content. -/
theorem string_ne_term_append {content tail blanks rest : List Char} (follows : Follows tail)
    (blank : ∀ char ∈ blanks, isSpace char = true) :
    content ++ tail ≠ blanks ++ ('\'' :: Text.doubled '\'' content ++ ['\''] ++ rest) := by
  -- The string is two quotes longer than the term, so it swallows a blank and the A behind it, but
  -- it has no A more than the term.
  intro same
  have longer := length_le_length_doubled '\'' content
  have counted : (blanks ++ ('\'' :: Text.doubled '\'' content ++ ['\''])).count 'A' =
      content.count 'A' := by
    simp [count_of_blank blank, count_doubled (show 'A' ≠ '\'' by decide)]
  rw [← List.append_assoc] at same
  obtain ⟨swallowed, reaches⟩ := List.prefix_of_prefix_length_le (List.prefix_append content tail)
    (same ▸ List.prefix_append _ rest) (by simp only [List.length_append, List.length_cons]; omega)
  have lengths := congrArg List.length reaches
  simp only [List.length_append, List.length_cons, List.length_nil] at lengths
  rw [← reaches, List.append_assoc, List.append_cancel_left_eq] at same
  rw [← reaches, List.count_append] at counted
  match swallowed with
  | [] | [_] => simp at lengths; omega
  | first :: second :: more =>
      rcases follows with rfl | ⟨_, rfl⟩
      · cases same
      · simp only [List.cons_append, List.cons.injEq] at same
        obtain ⟨rfl, rfl, _⟩ := same
        simp at counted

theorem eq_of_spelling_append {token : Token} {spelling tail blanks rest : List Char}
    (spelled : IsSpelling token spelling) (blank : ∀ char ∈ blanks, isSpace char = true)
    (same : spelling ++ tail = blanks ++ (spelling ++ rest)) : rest = tail := by
  cases blanks with
  | nil => exact (List.append_cancel_left same).symm
  | cons first others =>
      obtain ⟨start, body, rfl⟩ := List.exists_cons_of_ne_nil spelled.ne_nil
      have space := blank first (by simp)
      rw [← (List.cons.inj same).1, isSpace_of_isSpelling spelled] at space
      contradiction

theorem isLexeme_of_isSpelling {literal : Token} {text : String} {spelling : List Char}
    (isTerm : IsTerm literal text) (spelled : IsSpelling literal spelling)
    (unquoted : ∀ content, literal ≠ .string content) :
    spelling = text.toList ∧ IsLexeme text := by
  cases isTerm with
  | number =>
      cases spelled with
      | number isNumber => exact ⟨by simp, Or.inl (by simpa using isNumber)⟩
  | hexadecimal =>
      cases spelled with
      | hexadecimal isHexadecimal =>
          exact ⟨by simp, Or.inr (Or.inl (by simpa using isHexadecimal))⟩
  | string => exact absurd rfl (unquoted text)
  | word notAnd =>
      cases spelled with
      | identifier isWord => exact ⟨by simp, Or.inr (Or.inr ⟨by simpa using isWord, notAnd⟩)⟩

theorem exists_literal {text : String} (isLexeme : IsLexeme text) :
    ∃ literal, IsTerm literal text ∧ IsSpelling literal text.toList := by
  rcases isLexeme with isNumber | isHexadecimal | ⟨isWord, notAnd⟩
  · exact ⟨.number text, .number text, by simpa using IsSpelling.number isNumber⟩
  · exact ⟨.hexadecimal text, .hexadecimal text,
      by simpa using IsSpelling.hexadecimal isHexadecimal⟩
  · exact ⟨.identifier text, .word notAnd, isSpelling_identifier isWord⟩

theorem lexes_term_iff {text : String} {tail : List Char} (follows : Follows tail)
    {tokens : List Token} :
    (∃ literal, IsTerm literal text ∧ Lexes (text.toList ++ tail) (literal :: tokens)) ↔
      IsLexeme text ∧ Lexes tail tokens := by
  constructor
  · rintro ⟨literal, isTerm, lexes⟩
    obtain ⟨blanks, spelling, rest, whole, blank, spelled, lexes⟩ := exists_spelling_of_lexes lexes
    have unquoted : ∀ content, literal ≠ .string content := by
      rintro content rfl
      cases isTerm
      generalize same : Token.string text = token at spelled
      cases spelled with
      | string content' =>
          cases same
          rw [String.toList_ofList] at whole
          exact string_ne_term_append follows blank whole
      | _ => cases same
    obtain ⟨rfl, isLexeme⟩ := isLexeme_of_isSpelling isTerm spelled unquoted
    rw [eq_of_spelling_append spelled blank whole] at lexes
    exact ⟨isLexeme, lexes⟩
  · rintro ⟨isLexeme, lexes⟩
    obtain ⟨literal, isTerm, spelled⟩ := exists_literal isLexeme
    exact ⟨literal, isTerm, (lexes_spelling_iff spelled follows.breaks).mpr ⟨tokens, rfl, lexes⟩⟩

theorem lexes_spelling_blank_iff {token : Token} {spelling rest : List Char}
    (spelled : IsSpelling token spelling) {tokens : List Token} :
    Lexes (spelling ++ ' ' :: rest) tokens ↔
      ∃ others, tokens = token :: others ∧ Lexes rest others := by
  rw [lexes_spelling_iff spelled (breaks_blank _)]
  simp only [lexes_blank_iff (show isSpace ' ' = true from rfl)]

theorem lexes_compared_iff (operator : Operator) {rest : List Char} {tokens : List Token} :
    Lexes (' ' :: (operator.symbol.toList ++ ' ' :: rest)) tokens ↔
      ∃ others, tokens = .relation operator :: others ∧ Lexes rest others := by
  rw [lexes_blank_iff rfl, lexes_spelling_blank_iff (.relation operator)]

theorem lexes_applied_iff {name : String} (isWord : IsWord name.toList) (column : ColumnName)
    {rest : List Char} {tokens : List Token} :
    Lexes (name.toList ++ '(' :: (column.toCql.toList ++ ')' :: rest)) tokens ↔
      ∃ others, tokens =
          .identifier name :: .openParen :: nameToken column :: .closeParen :: others ∧
        Lexes rest others := by
  simp only [lexes_spelling_iff (isSpelling_identifier isWord) (breaks_openParen _),
    lexes_openParen_iff, lexes_spelling_iff (isSpelling_nameToken column) (breaks_closeParen _),
    lexes_closeParen_iff]
  constructor
  · rintro ⟨_, rfl, _, rfl, _, rfl, others, rfl, lexes⟩
    exact ⟨others, rfl, lexes⟩
  · rintro ⟨others, rfl, lexes⟩
    exact ⟨_, rfl, _, rfl, _, rfl, others, rfl, lexes⟩

theorem lexes_scalar_iff (comparison : Comparison) {tail : List Char} {tokens : List Token} :
    Lexes (comparison.toCql.toList ++ tail) tokens ↔
      ∃ others, tokens = nameToken comparison.column :: .relation comparison.operator :: others ∧
        Lexes (comparison.term.toList ++ tail) others := by
  have whole : comparison.toCql.toList ++ tail =
      comparison.column.toCql.toList ++
        ' ' :: (comparison.operator.symbol.toList ++ ' ' :: (comparison.term.toList ++ tail)) := by
    simp [Comparison.toCql]
  rw [whole, lexes_spelling_iff (isSpelling_nameToken _) (breaks_blank _)]
  simp only [lexes_compared_iff]
  constructor
  · rintro ⟨_, rfl, others, rfl, lexes⟩
    exact ⟨others, rfl, lexes⟩
  · rintro ⟨others, rfl, lexes⟩
    exact ⟨_, rfl, others, rfl, lexes⟩

theorem isWord_measure (measure : Measure) : IsWord measure.name.toList := by
  cases measure <;> decide

theorem isWord_unary (function : UnaryFunction) : IsWord function.name.toList := by
  cases function
  decide

theorem lexes_function_iff (comparison : MeasureComparison) {tail : List Char}
    {tokens : List Token} :
    Lexes (comparison.toCql.toList ++ tail) tokens ↔
      ∃ others, tokens = .identifier comparison.measure.name :: .openParen ::
          nameToken comparison.column :: .closeParen :: .relation comparison.operator :: others ∧
        Lexes (comparison.term.toList ++ tail) others := by
  have whole : comparison.toCql.toList ++ tail =
      comparison.measure.name.toList ++ '(' :: (comparison.column.toCql.toList ++ ')' ::
        ' ' :: (comparison.operator.symbol.toList ++ ' ' :: (comparison.term.toList ++ tail))) := by
    simp [MeasureComparison.toCql]
  rw [whole, lexes_applied_iff (isWord_measure _)]
  simp only [lexes_compared_iff]
  constructor
  · rintro ⟨_, rfl, others, rfl, lexes⟩
    exact ⟨others, rfl, lexes⟩
  · rintro ⟨others, rfl, lexes⟩
    exact ⟨_, rfl, others, rfl, lexes⟩

theorem lexes_unary_iff (application : Application) {tail : List Char} {tokens : List Token} :
    Lexes (application.toCql.toList ++ tail) tokens ↔
      ∃ others, tokens = .identifier application.function.name :: .openParen ::
          nameToken application.column :: .closeParen :: others ∧ Lexes tail others := by
  have whole : application.toCql.toList ++ tail =
      application.function.name.toList ++
        '(' :: (application.column.toCql.toList ++ ')' :: tail) := by
    simp [Application.toCql]
  rw [whole, lexes_applied_iff (isWord_unary _)]

def Readable (leaf : Constraint) : Prop :=
  ∀ term, leaf.term? = some term → IsLexeme term

theorem lexes_leaf_iff {declaring : ColumnName} {leaf : Constraint}
    (isLeaf : leaf.IsLeafOf declaring) {tail : List Char} (follows : Follows tail)
    (tokens : List Token) :
    (∃ used phrase, DerivesConstraint used phrase ∧ phrase.Means declaring leaf ∧
      Lexes (leaf.toCql.toList ++ tail) (used ++ tokens)) ↔ Readable leaf ∧ Lexes tail tokens := by
  cases leaf with
  | composed => exact isLeaf.elim
  | scalar comparison =>
      obtain ⟨column, operator, term⟩ := comparison
      cases isLeaf
      simp only [Constraint.toCql, lexes_scalar_iff, Readable, Constraint.term?, Option.some.injEq,
        forall_eq', ← lexes_term_iff follows]
      constructor
      · rintro ⟨used, phrase, derived, means, others, same, lexes⟩
        cases means
        cases derived with
        | comparison isColumn isTerm =>
            cases same
            exact ⟨_, isTerm, lexes⟩
      · rintro ⟨literal, isTerm, lexes⟩
        exact ⟨_, _, .comparison (isColumn_nameToken column) isTerm, .comparison, _, rfl, lexes⟩
  | function comparison =>
      obtain ⟨measure, column, operator, term⟩ := comparison
      simp only [Constraint.toCql, lexes_function_iff, Readable, Constraint.term?,
        Option.some.injEq, forall_eq', ← lexes_term_iff follows]
      constructor
      · rintro ⟨used, phrase, derived, means, others, same, lexes⟩
        cases means
        cases derived with
        | measured isColumn isTerm =>
            cases same
            exact ⟨_, isTerm, lexes⟩
      · rintro ⟨literal, isTerm, lexes⟩
        have spelled : Spells measure.name measure.name :=
          (Measure.ofName?_eq_some_iff _ _).mp (Measure.ofName?_name measure)
        exact ⟨_, _, .measured (isColumn_nameToken column) isTerm, .measured spelled, _, rfl, lexes⟩
  | unary application =>
      obtain ⟨function, column⟩ := application
      simp only [Constraint.toCql, lexes_unary_iff, Readable, Constraint.term?, reduceCtorEq,
        false_implies, implies_true, true_and]
      constructor
      · rintro ⟨used, phrase, derived, means, others, same, lexes⟩
        cases means
        cases derived with
        | application isColumn =>
            cases same
            exact lexes
      · intro lexes
        have spelled : Spells function.name function.name :=
          (UnaryFunction.ofName?_eq_some_iff _ _).mp (UnaryFunction.ofName?_name function)
        exact ⟨_, _, .application (isColumn_nameToken column), .application spelled, _, rfl, lexes⟩

theorem lexes_and_iff {rest : List Char} {tokens : List Token} :
    Lexes (' ' :: 'A' :: 'N' :: 'D' :: ' ' :: rest) tokens ↔
      ∃ others, tokens = .identifier "AND" :: others ∧ Lexes rest others := by
  have spelled : IsSpelling (.identifier "AND") ['A', 'N', 'D'] := .identifier (by decide)
  rw [lexes_blank_iff rfl]
  exact lexes_spelling_blank_iff spelled

/-- The text derives from the grammar, as a clause of the declaring column that says what the
constraints say. -/
def States (declaring : ColumnName) (chars : List Char) (constraints : List Constraint) : Prop :=
  ∃ tokens phrases, Lexes chars tokens ∧ DerivesClause tokens phrases ∧
    List.Forall₂ (Phrase.Means declaring) phrases constraints

theorem states_last_iff {declaring : ColumnName} {leaf : Constraint}
    (isLeaf : leaf.IsLeafOf declaring) :
    States declaring leaf.toCql.toList [leaf] ↔ Readable leaf := by
  have step := lexes_leaf_iff isLeaf (Or.inl rfl) []
  simp only [List.append_nil, lexes_nil_iff, and_true] at step
  rw [← step]
  constructor
  · rintro ⟨tokens, phrases, lexes, derived, meaning⟩
    obtain ⟨phrase, _, means, nothing, rfl⟩ := List.forall₂_cons_right_iff.mp meaning
    cases nothing
    cases derived with
    | single derived => exact ⟨tokens, phrase, derived, means, lexes⟩
    | conjoined _ _ more => cases more
  · rintro ⟨used, phrase, derived, means, lexes⟩
    exact ⟨used, [phrase], lexes, .single derived, .cons means .nil⟩

theorem states_and_iff {declaring : ColumnName} {leaf : Constraint} {leaves : List Constraint}
    (isLeaf : leaf.IsLeafOf declaring) (nonempty : leaves ≠ []) {rest : List Char} :
    States declaring (leaf.toCql.toList ++ ' ' :: 'A' :: 'N' :: 'D' :: ' ' :: rest)
        (leaf :: leaves) ↔
      Readable leaf ∧ States declaring rest leaves := by
  have follows : Follows (' ' :: 'A' :: 'N' :: 'D' :: ' ' :: rest) := Or.inr ⟨rest, rfl⟩
  constructor
  · rintro ⟨tokens, phrases, lexes, derived, meaning⟩
    obtain ⟨phrase, others, means, meanings, rfl⟩ := List.forall₂_cons_right_iff.mp meaning
    cases derived with
    | single => exact absurd (List.forall₂_nil_left_iff.mp meanings) nonempty
    | conjoined first _ more =>
        obtain ⟨readable, remaining⟩ :=
          (lexes_leaf_iff isLeaf follows _).mp ⟨_, phrase, first, means, lexes⟩
        obtain ⟨_, same, lexes⟩ := lexes_and_iff.mp remaining
        cases same
        exact ⟨readable, _, others, lexes, more, meanings⟩
  · rintro ⟨readable, tokens, phrases, lexes, derived, meaning⟩
    have remaining := lexes_and_iff.mpr ⟨tokens, rfl, lexes⟩
    obtain ⟨used, phrase, first, means, lexes⟩ :=
      (lexes_leaf_iff isLeaf follows _).mpr ⟨readable, remaining⟩
    exact ⟨_, phrase :: phrases, lexes, .conjoined first (by decide) derived, .cons means meaning⟩

theorem states_conjoined_iff {declaring : ColumnName} {leaves : List Constraint}
    (nonempty : leaves ≠ []) (each : ∀ leaf ∈ leaves, leaf.IsLeafOf declaring) :
    States declaring (conjoined (leaves.map Constraint.toCql)).toList leaves ↔
      ∀ leaf ∈ leaves, Readable leaf := by
  induction leaves with
  | nil => exact absurd rfl nonempty
  | cons leaf rest ih =>
      simp only [List.forall_mem_cons] at each ⊢
      by_cases last : rest = []
      · subst last
        simpa [conjoined] using states_last_iff each.1
      · have whole : (conjoined ((leaf :: rest).map Constraint.toCql)).toList =
            leaf.toCql.toList ++ ' ' :: 'A' :: 'N' :: 'D' :: ' ' ::
              (conjoined (rest.map Constraint.toCql)).toList := by
          rw [List.map_cons, conjoined_cons (by simpa using last)]
          simp
        rw [whole, states_and_iff each.1 last, ih last each.2]

theorem parse_eq_ok_iff_conjunction {declaring : ColumnName} {clause : String}
    {constraints : List Constraint} :
    parse declaring clause = .ok ⟨declaring, constraints⟩ ↔
      ∃ lexemes, lex clause = .ok lexemes ∧ conjunction declaring lexemes = .ok constraints := by
  unfold parse
  cases lex clause with
  | error cause => simp
  | ok lexemes =>
      cases read : conjunction declaring lexemes with
      | error cause => simp [read, bind, Except.bind]
      | ok found => simp [read, bind, Except.bind, pure, Except.pure]

theorem column_of_parse {declaring : ColumnName} {clause : String} {set : ConstraintSet}
    (read : parse declaring clause = .ok set) : set.column = declaring := by
  unfold parse at read
  cases split : lex clause with
  | error cause => simp [split] at read
  | ok lexemes =>
      cases conjoined : conjunction declaring lexemes with
      | error cause => simp [split, conjoined, bind, Except.bind] at read
      | ok constraints =>
          simp only [split, conjoined, bind, Except.bind, pure, Except.pure,
            Except.ok.injEq] at read
          rw [← read]

theorem parse_eq_ok_iff_states {declaring : ColumnName} {clause : String}
    {constraints : List Constraint} :
    parse declaring clause = .ok ⟨declaring, constraints⟩ ↔
      States declaring clause.toList constraints := by
  rw [parse_eq_ok_iff_conjunction]
  constructor
  · rintro ⟨lexemes, split, read⟩
    obtain ⟨phrases, derived, meaning⟩ := derives_of_conjunction read
    exact ⟨_, phrases, (lexes_iff_lex _ _).mpr ⟨lexemes, split, rfl⟩, derived, meaning⟩
  · rintro ⟨tokens, phrases, lexes, derived, meaning⟩
    obtain ⟨lexemes, split, rfl⟩ := (lexes_iff_lex _ _).mp lexes
    exact ⟨lexemes, split, conjunction_of_derives derived meaning⟩

end Clause

/-- The text of a set of constraints reads back as its leaves exactly if every term in it is by
itself one lexeme. -/
theorem ConstraintSet.parse_toCql_eq_ok_iff (set : ConstraintSet) (nonempty : set.constraints ≠ [])
    (filled : ∀ constraint ∈ set.constraints, constraint.isFilled = true)
    (own : ∀ comparison, .scalar comparison ∈ Constraint.eachLeaves set.constraints →
      comparison.column = set.column) :
    Clause.parse set.column set.toCql =
        .ok ⟨set.column, Constraint.eachLeaves set.constraints⟩ ↔
      ∀ leaf ∈ Constraint.eachLeaves set.constraints, ∀ term, leaf.term? = some term →
        Clause.IsLexeme term := by
  have each : ∀ leaf ∈ Constraint.eachLeaves set.constraints, leaf.IsLeafOf set.column := by
    intro leaf member
    obtain ⟨constraint, _, leafMember⟩ := Constraint.mem_eachLeaves.mp member
    exact Constraint.isLeafOf_of_mem_leaves leafMember fun comparison same =>
      own comparison (same ▸ member)
  rw [toCql_of_isFilled filled, Clause.parse_eq_ok_iff_states]
  exact Clause.states_conjoined_iff (Constraint.eachLeaves_ne_nil nonempty filled) each

def ConstraintSet.nestedSample (term : String) : ConstraintSet :=
  ⟨⟨"The \"v\""⟩,
    [.composed ⟨"inner"⟩ [.scalar ⟨⟨"The \"v\""⟩, .greater, term⟩,
      .function ⟨.length, ⟨"and"⟩, .atMost, "0x40"⟩],
    .unary ⟨.notNull, ⟨"other"⟩⟩]⟩

theorem ConstraintSet.parse_toCql_nestedSample :
    Clause.parse ⟨"The \"v\""⟩ (nestedSample "-1.5e3").toCql =
        .ok ⟨⟨"The \"v\""⟩, Constraint.eachLeaves (nestedSample "-1.5e3").constraints⟩ ∧
      Clause.parse ⟨"The \"v\""⟩ (nestedSample "'5'").toCql ≠
        .ok ⟨⟨"The \"v\""⟩, Constraint.eachLeaves (nestedSample "'5'").constraints⟩ := by
  have reads : ∀ term, Clause.parse (nestedSample term).column (nestedSample term).toCql =
      .ok ⟨(nestedSample term).column, Constraint.eachLeaves (nestedSample term).constraints⟩ ↔
        Clause.IsLexeme term := by
    intro term
    rw [parse_toCql_eq_ok_iff (nestedSample term) (by simp [nestedSample])
      (by simp [nestedSample, Constraint.isFilled, Constraint.eachFilled])
      (by simp [nestedSample, Constraint.eachLeaves, Constraint.leaves])]
    have fixed : Clause.IsLexeme "0x40" := by decide
    simp [nestedSample, Constraint.eachLeaves, Constraint.leaves, Constraint.term?, fixed]
  exact ⟨(reads "-1.5e3").mpr (by decide), mt (reads "'5'").mp (by decide)⟩

end ColumnChecks
