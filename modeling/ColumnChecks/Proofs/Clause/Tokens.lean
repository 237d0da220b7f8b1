import ColumnChecks.Proofs.Clause.Spelling

/-! The tokens of a text as a relation, apart from their offsets. A text that starts with the
spelling of a token and a break has that token first; a text that has a token first starts, behind
blanks, with a spelling of it. -/

namespace ColumnChecks.Clause

inductive Lexes : List Char → List Token → Prop
  | nil : Lexes [] []
  | blank {char rest tokens} : isSpace char = true → Lexes rest tokens →
      Lexes (char :: rest) tokens
  | token {chars scanned tokens} : scan? chars = some scanned → Lexes scanned.rest tokens →
      Lexes chars (scanned.token :: tokens)

theorem lexes_of_lexFrom {offset : Nat} {chars : List Char} {lexemes : List Lexeme}
    (split : lexFrom offset chars = .ok lexemes) : Lexes chars (lexemes.map Lexeme.token) := by
  fun_induction lexFrom offset chars generalizing lexemes with
  | case1 =>
      cases split
      exact .nil
  | case2 offset char rest space ih => exact .blank space (ih split)
  | case3 offset char rest solid scanned found ih =>
      cases remaining : lexFrom (offset + Text.byteLength scanned.spelling) scanned.rest with
      | error cause => simp [remaining, bind, Except.bind] at split
      | ok others =>
          simp only [remaining, bind, Except.bind, pure, Except.pure, Except.ok.injEq] at split
          subst split
          exact .token found (ih remaining)
  | case4 => cases split

theorem lexFrom_of_isSpace {char : Char} (space : isSpace char = true) (offset : Nat)
    (rest : List Char) : lexFrom offset (char :: rest) = lexFrom (offset + 1) rest := by
  rw [lexFrom, if_pos space]

theorem lexFrom_of_scan? {chars : List Char} {scanned : Scanned}
    (found : scan? chars = some scanned) (offset : Nat) :
    lexFrom offset chars = do
      let lexemes ← lexFrom (offset + Text.byteLength scanned.spelling) scanned.rest
      return ⟨scanned.token, offset⟩ :: lexemes := by
  cases chars with
  | nil => cases found
  | cons first rest =>
      have solid : ¬isSpace first = true := by
        intro space
        rw [scan?_of_isSpace space] at found
        contradiction
      rw [lexFrom, if_neg solid]
      split <;> simp_all

theorem lexFrom_of_lexes {chars : List Char} {tokens : List Token} (lexes : Lexes chars tokens) :
    ∀ offset, ∃ lexemes, lexFrom offset chars = .ok lexemes ∧
      lexemes.map Lexeme.token = tokens := by
  induction lexes with
  | nil => exact fun offset => ⟨[], by rw [lexFrom], rfl⟩
  | blank space _ ih =>
      intro offset
      rw [lexFrom_of_isSpace space]
      exact ih (offset + 1)
  | @token _ scanned _ found _ ih =>
      intro offset
      obtain ⟨lexemes, split, rfl⟩ := ih (offset + Text.byteLength scanned.spelling)
      rw [lexFrom_of_scan? found, split]
      exact ⟨_, rfl, rfl⟩

/-- Splitting a text succeeds with exactly the tokens that the relation gives it. -/
theorem lexes_iff_lex (clause : String) (tokens : List Token) :
    Lexes clause.toList tokens ↔
      ∃ lexemes, lex clause = .ok lexemes ∧ lexemes.map Lexeme.token = tokens := by
  constructor
  · exact fun lexes => lexFrom_of_lexes lexes 0
  · rintro ⟨lexemes, split, rfl⟩
    exact lexes_of_lexFrom split

theorem lexes_nil_iff {tokens : List Token} : Lexes [] tokens ↔ tokens = [] := by
  constructor
  · intro lexes
    cases lexes with
    | nil => rfl
    | token found => cases found
  · rintro rfl
    exact .nil

theorem lexes_blank_iff {char : Char} (space : isSpace char = true) {rest : List Char}
    {tokens : List Token} : Lexes (char :: rest) tokens ↔ Lexes rest tokens := by
  constructor
  · intro lexes
    cases lexes with
    | blank _ lexes => exact lexes
    | token found =>
        rw [scan?_of_isSpace space] at found
        contradiction
  · exact .blank space

theorem lexes_iff_of_scan? {chars : List Char} {scanned : Scanned}
    (found : scan? chars = some scanned) {tokens : List Token} :
    Lexes chars tokens ↔
      ∃ others, tokens = scanned.token :: others ∧ Lexes scanned.rest others := by
  constructor
  · intro lexes
    cases lexes with
    | nil => cases found
    | blank space =>
        rw [scan?_of_isSpace space] at found
        contradiction
    | token found' lexes =>
        cases found.symm.trans found'
        exact ⟨_, rfl, lexes⟩
  · rintro ⟨others, rfl, lexes⟩
    exact .token found lexes

theorem lexes_spelling_iff {token : Token} {spelling rest : List Char}
    (spelled : IsSpelling token spelling) (breaks : Breaks rest) {tokens : List Token} :
    Lexes (spelling ++ rest) tokens ↔ ∃ others, tokens = token :: others ∧ Lexes rest others :=
  lexes_iff_of_scan? (scan?_of_isSpelling spelled breaks)

theorem lexes_openParen_iff {rest : List Char} {tokens : List Token} :
    Lexes ('(' :: rest) tokens ↔ ∃ others, tokens = .openParen :: others ∧ Lexes rest others := by
  have found : scan? ('(' :: rest) = some ⟨.openParen, ['('], rest⟩ := rfl
  exact lexes_iff_of_scan? found

theorem lexes_closeParen_iff {rest : List Char} {tokens : List Token} :
    Lexes (')' :: rest) tokens ↔ ∃ others, tokens = .closeParen :: others ∧ Lexes rest others := by
  have found : scan? (')' :: rest) = some ⟨.closeParen, [')'], rest⟩ := rfl
  exact lexes_iff_of_scan? found

theorem exists_spelling_of_lexes {chars : List Char} {token : Token} {tokens : List Token}
    (lexes : Lexes chars (token :: tokens)) :
    ∃ blanks spelling rest, chars = blanks ++ (spelling ++ rest) ∧
      (∀ char ∈ blanks, isSpace char = true) ∧ IsSpelling token spelling ∧ Lexes rest tokens := by
  generalize same : token :: tokens = all at lexes
  induction lexes with
  | nil => cases same
  | blank space _ ih =>
      obtain ⟨blanks, spelling, rest, rfl, blank, spelled, lexes⟩ := ih same
      exact ⟨_ :: blanks, spelling, rest, rfl, by simpa [space] using blank, spelled, lexes⟩
  | token found lexes _ =>
      cases same
      obtain ⟨whole, _⟩ := scan?_splits found
      exact ⟨[], _, _, whole, by simp, isSpelling_of_scan? found, lexes⟩

end ColumnChecks.Clause
