import ColumnChecks.Proofs.Clause.Layout
import ColumnChecks.Proofs.Clause.Rendering

/-! Column names in clauses. The canonical text of a name is the one text by which spellings of the
name are told apart from those of other names, and wherever the lexer starts a token it takes that
text, up to a blank, a parenthesis or the end, as one token for the name. -/

namespace ColumnChecks.Clause

structure Place where
  lexemes : List Lexeme
  offset : Nat
  rest : List Char

inductive Reaches (chars : List Char) : Place → Prop
  | start : Reaches chars ⟨[], 0, chars⟩
  | blank {lexemes offset char rest} : Reaches chars ⟨lexemes, offset, char :: rest⟩ →
      isSpace char = true → Reaches chars ⟨lexemes, offset + 1, rest⟩
  | token {lexemes offset rest scanned} : Reaches chars ⟨lexemes, offset, rest⟩ →
      scan? rest = some scanned →
      Reaches chars ⟨lexemes ++ [⟨scanned.token, offset⟩],
        offset + Text.byteLength scanned.spelling, scanned.rest⟩

def Place.result (place : Place) : Except SyntaxError (List Lexeme) :=
  (lexFrom place.offset place.rest).map (place.lexemes ++ ·)

theorem Place.result_of_isSpace {lexemes : List Lexeme} {offset : Nat} {char : Char}
    {rest : List Char} (space : isSpace char = true) :
    result ⟨lexemes, offset, char :: rest⟩ = result ⟨lexemes, offset + 1, rest⟩ := by
  unfold result
  rw [lexFrom_of_isSpace space]

theorem Place.result_of_scan? {lexemes : List Lexeme} {offset : Nat} {rest : List Char}
    {scanned : Scanned} (found : scan? rest = some scanned) :
    result ⟨lexemes, offset, rest⟩ =
      result ⟨lexemes ++ [⟨scanned.token, offset⟩],
        offset + Text.byteLength scanned.spelling, scanned.rest⟩ := by
  unfold result
  rw [lexFrom_of_scan? found]
  cases lexFrom (offset + Text.byteLength scanned.spelling) scanned.rest with
  | error cause => rfl
  | ok others => simp [Except.map, bind, Except.bind, pure, Except.pure]

theorem result_of_reaches {chars : List Char} {place : Place} (reaches : Reaches chars place) :
    lexFrom 0 chars = place.result := by
  induction reaches with
  | start =>
      unfold Place.result
      cases lexFrom 0 chars <;> rfl
  | blank _ space ih => rw [ih, Place.result_of_isSpace space]
  | token _ found ih => rw [ih, Place.result_of_scan? found]

/-- A blank or a parenthesis comes next, or nothing does. More characters are blank than those that
the lexer skips. -/
def Closes (chars : List Char) : Prop :=
  ∀ char, chars.head? = some char → Text.isBlank char = true ∨ char = '(' ∨ char = ')'

theorem code_of_isWordChar {char : Char} (inWord : isWordChar char = true) :
    48 ≤ char.toNat ∧ char.toNat ≤ 57 ∨ 65 ≤ char.toNat ∧ char.toNat ≤ 90 ∨ char.toNat = 95 ∨
      97 ≤ char.toNat ∧ char.toNat ≤ 122 := by
  simp only [isWordChar, Char.isAlphanum, Bool.or_eq_true, decide_eq_true_eq] at inWord
  rcases inWord with (letter | digit) | rfl
  · change (char.isUpper || char.isLower) = true at letter
    rcases Bool.or_eq_true _ _ ▸ letter with upper | lower
    · exact Or.inr (Or.inl (Text.toNat_of_isUpper upper))
    · exact Or.inr (Or.inr (Or.inr (Text.toNat_of_isLower lower)))
  · exact Or.inl (Text.toNat_of_isDigit digit)
  · decide

theorem isWordChar_of_isBlank {char : Char} (blank : Text.isBlank char = true) :
    isWordChar char = false := by
  by_contra inWord
  have code := code_of_isWordChar (Bool.not_eq_false _ ▸ inWord)
  simp only [Text.isBlank, Bool.or_eq_true, Bool.and_eq_true, decide_eq_true_eq] at blank
  omega

theorem Closes.stops {chars : List Char} (closes : Closes chars) {accepts : Char → Bool}
    (blank : ∀ char, Text.isBlank char = true → accepts char = false)
    (openParen : accepts '(' = false) (closeParen : accepts ')' = false) :
    Stops accepts chars := by
  intro char head
  rcases closes char head with isBlank | rfl | rfl
  · exact blank char isBlank
  · exact openParen
  · exact closeParen

theorem scan?_toCql (name : ColumnName) {rest : List Char} (closes : Closes rest) :
    scan? (name.toCql.toList ++ rest) = some ⟨nameToken name, name.toCql.toList, rest⟩ := by
  by_cases bare : ColumnName.isBare name.text.toList = true
  · have spelled : name.toCql = name.text := if_pos bare
    have found := scan?_word_of_stops (isWord_of_isBare bare)
      (closes.stops (fun _ => isWordChar_of_isBlank) (by decide) (by decide))
    rw [String.ofList_toList] at found
    rw [nameToken, if_pos bare, spelled, found]
  · have spelled : name.toCql = String.ofList (ColumnName.quoted name.text.toList) := if_neg bare
    have quoteFree : ∀ char, Text.isBlank char = true → decide (char = '"') = false := by
      intro char blank
      rw [decide_eq_false_iff_not]
      rintro rfl
      exact absurd blank (by decide)
    have found := scan?_quotedIdentifier_of_stops (closes.stops quoteFree (by decide) (by decide))
      name.text.toList
    rw [nameToken, if_neg bare, spelled, String.toList_ofList]
    exact found

theorem nameToken_eq_toCql (name : ColumnName) :
    nameToken name = .identifier name.toCql ∨ nameToken name = .quotedIdentifier name.toCql := by
  by_cases bare : ColumnName.isBare name.text.toList = true
  · have spelled : name.toCql = name.text := if_pos bare
    exact Or.inl (by rw [nameToken, if_pos bare, spelled])
  · exact Or.inr (by rw [nameToken, if_neg bare])

theorem reaches_toCql {chars : List Char} {lexemes : List Lexeme} {offset : Nat}
    {name : ColumnName} {rest : List Char} (closes : Closes rest)
    (reaches : Reaches chars ⟨lexemes, offset, name.toCql.toList ++ rest⟩) :
    Reaches chars ⟨lexemes ++ [⟨nameToken name, offset⟩],
      offset + Text.byteLength name.toCql.toList, rest⟩ :=
  .token reaches (scan?_toCql name closes)

/-- The canonical text of a name denotes the name and no other, two spellings are of one name
exactly if that name's canonical texts are equal, and where a token starts in a clause the
canonical text is split off whole, as an identifier that is read as the name. -/
theorem canonical_names :
    (∀ name : ColumnName, .ofCql name.toCql = name) ∧
    Function.Injective ColumnName.toCql ∧
    (∀ first second : String, ColumnName.ofCql first = .ofCql second ↔
      (ColumnName.ofCql first).toCql = (ColumnName.ofCql second).toCql) ∧
    ∀ (name : ColumnName) (clause : String) (lexemes : List Lexeme) (offset : Nat)
      (rest : List Char),
      Reaches clause.toList ⟨lexemes, offset, name.toCql.toList ++ rest⟩ → Closes rest →
      ∃ token, (token = .identifier name.toCql ∨ token = .quotedIdentifier name.toCql) ∧
        IsColumn token name ∧
        (∀ later, argument (⟨token, offset⟩ :: later) = .ok (name, later)) ∧
        scan? (name.toCql.toList ++ rest) = some ⟨token, name.toCql.toList, rest⟩ ∧
        lex clause = (lexFrom (offset + Text.byteLength name.toCql.toList) rest).map
          fun others => lexemes ++ ⟨token, offset⟩ :: others := by
  have injective : Function.Injective ColumnName.toCql :=
    Function.LeftInverse.injective ColumnName.ofCql_toCql
  refine ⟨ColumnName.ofCql_toCql, injective, fun first second => injective.eq_iff.symm, ?_⟩
  intro name clause lexemes offset rest reaches closes
  have isColumn := isColumn_nameToken name
  refine ⟨nameToken name, nameToken_eq_toCql name, isColumn, fun later => ?_,
    scan?_toCql name closes, ?_⟩
  · exact argument_eq_ok_iff.mpr ⟨_, rfl, isColumn⟩
  · have behind := result_of_reaches (reaches_toCql closes reaches)
    rw [lex, behind, Place.result]
    simp only [List.append_assoc, List.singleton_append]

theorem canonical_names_argument :
    Reaches "length(\"A\"\"\")".toList
        ⟨[⟨.identifier "length", 0⟩, ⟨.openParen, 6⟩], 7,
          (ColumnName.mk "A\"").toCql.toList ++ [')']⟩ ∧ Closes [')'] ∧
      ∃ token, IsColumn token ⟨"A\""⟩ ∧
        lex "length(\"A\"\"\")" = (lexFrom 12 [')']).map
          fun others => [⟨.identifier "length", 0⟩, ⟨.openParen, 6⟩] ++ ⟨token, 7⟩ :: others := by
  have reaches : Reaches "length(\"A\"\"\")".toList
      ⟨[⟨.identifier "length", 0⟩, ⟨.openParen, 6⟩], 7,
        (ColumnName.mk "A\"").toCql.toList ++ [')']⟩ := by
    have word : scan? "length(\"A\"\"\")".toList =
        some ⟨.identifier "length", "length".toList, "(\"A\"\"\")".toList⟩ := by rfl
    have paren : scan? "(\"A\"\"\")".toList =
        some ⟨.openParen, ['('], "\"A\"\"\")".toList⟩ := by rfl
    exact .token (.token .start word) paren
  have closes : Closes [')'] := by
    intro char head
    cases head
    exact Or.inr (Or.inr rfl)
  obtain ⟨token, _, isColumn, _, _, split⟩ := canonical_names.2.2.2 _ _ _ _ _ reaches closes
  exact ⟨reaches, closes, token, isColumn, split⟩

end ColumnChecks.Clause
