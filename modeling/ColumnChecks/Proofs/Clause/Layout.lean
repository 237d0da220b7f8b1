import ColumnChecks.Proofs.Clause.Longest
import ColumnChecks.Proofs.Clause.Tokens

/-! Texts as spellings with blanks around them. Splitting a text gives back the tokens that were
spelled, each with its place, and every text that is split was laid out so, with the longest
spellings. -/

namespace ColumnChecks.Clause

structure Piece where
  blanks : List Char
  token : Token
  spelling : List Char
  blank : ∀ char ∈ blanks, isSpace char = true
  spelled : IsSpelling token spelling

def written : List Piece → List Char → List Char
  | [], tail => tail
  | piece :: rest, tail => piece.blanks ++ (piece.spelling ++ written rest tail)

def placed (offset : Nat) : List Piece → List Lexeme
  | [] => []
  | piece :: rest =>
    let start := offset + Text.byteLength piece.blanks
    ⟨piece.token, start⟩ :: placed (start + Text.byteLength piece.spelling) rest

/-- No token has a spelling at the start of the text that is longer. -/
def IsLongest (spelling chars : List Char) : Prop :=
  ∀ token other, IsSpelling token other → other <+: chars → other.length ≤ spelling.length

def EachLongest : List Piece → List Char → Prop
  | [], _ => True
  | piece :: rest, tail =>
    IsLongest piece.spelling (piece.spelling ++ written rest tail) ∧ EachLongest rest tail

structure Layout where
  pieces : List Piece
  tail : List Char
  blank : ∀ char ∈ tail, isSpace char = true

namespace Layout

def text (layout : Layout) : String :=
  String.ofList (written layout.pieces layout.tail)

def lexemes (layout : Layout) : List Lexeme :=
  placed 0 layout.pieces

def Separated (layout : Layout) : Prop :=
  ∀ piece ∈ layout.pieces.tail, piece.blanks ≠ []

end Layout

theorem mem_breakChars_of_isSpace {char : Char} (space : isSpace char = true) :
    char ∈ breakChars := by
  rw [isSpace_iff_mem] at space
  exact List.mem_append_left ['(', ')'] space

theorem utf8Size_of_isSpace {char : Char} (space : isSpace char = true) : char.utf8Size = 1 := by
  simp only [isSpace_iff_mem, List.mem_cons, List.not_mem_nil, or_false] at space
  rcases space with rfl | rfl | rfl | rfl
  all_goals rfl

theorem breaks_of_blank {blanks : List Char} (blank : ∀ char ∈ blanks, isSpace char = true)
    (nonempty : blanks ≠ []) (rest : List Char) : Breaks (blanks ++ rest) := by
  obtain ⟨first, others, rfl⟩ := List.exists_cons_of_ne_nil nonempty
  exact breaks_cons _ (mem_breakChars_of_isSpace (blank first (by simp)))

theorem breaks_written {pieces : List Piece} {tail : List Char}
    (separated : ∀ piece ∈ pieces, piece.blanks ≠ [])
    (blank : ∀ char ∈ tail, isSpace char = true) : Breaks (written pieces tail) := by
  cases pieces with
  | nil =>
      by_cases empty : tail = []
      · simpa only [written, empty] using breaks_nil
      · simpa only [written, List.append_nil] using breaks_of_blank blank empty []
  | cons piece rest => exact breaks_of_blank piece.blank (separated piece (by simp)) _

theorem lexFrom_blanks {blanks : List Char} (blank : ∀ char ∈ blanks, isSpace char = true)
    (offset : Nat) (rest : List Char) :
    lexFrom offset (blanks ++ rest) = lexFrom (offset + Text.byteLength blanks) rest := by
  induction blanks generalizing offset with
  | nil => rfl
  | cons first others ih =>
      simp only [List.forall_mem_cons] at blank
      rw [List.cons_append, lexFrom_of_isSpace blank.1, ih blank.2, Text.byteLength,
        utf8Size_of_isSpace blank.1, Nat.add_assoc]

theorem lexFrom_written {pieces : List Piece} {tail : List Char} (offset : Nat)
    (separated : ∀ piece ∈ pieces.tail, piece.blanks ≠ [])
    (blank : ∀ char ∈ tail, isSpace char = true) :
    lexFrom offset (written pieces tail) = .ok (placed offset pieces) := by
  induction pieces generalizing offset with
  | nil =>
      have skipped := lexFrom_blanks blank offset []
      rw [List.append_nil] at skipped
      rw [written, skipped, lexFrom, placed]
  | cons piece rest ih =>
      rw [List.tail_cons] at separated
      have found := scan?_of_isSpelling piece.spelled (breaks_written separated blank)
      have later : ∀ other ∈ rest.tail, other.blanks ≠ [] := fun other member =>
        separated other (List.mem_of_mem_tail member)
      rw [written, lexFrom_blanks piece.blank, lexFrom_of_scan? found, ih _ later]
      rfl

/-- A text that is split is written by pieces, each of which is as long as a spelling there can
be. -/
theorem exists_pieces_of_lexFrom {offset : Nat} {chars : List Char} {lexemes : List Lexeme}
    (split : lexFrom offset chars = .ok lexemes) :
    ∃ pieces tail, (∀ char ∈ tail, isSpace char = true) ∧ written pieces tail = chars ∧
      placed offset pieces = lexemes ∧ EachLongest pieces tail := by
  fun_induction lexFrom offset chars generalizing lexemes with
  | case1 =>
      cases split
      exact ⟨[], [], by simp, rfl, rfl, trivial⟩
  | case2 offset char rest space ih =>
      obtain ⟨pieces, tail, blank, rfl, rfl, longest⟩ := ih split
      cases pieces with
      | nil => exact ⟨[], char :: tail, by simpa [space] using blank, rfl, rfl, trivial⟩
      | cons piece others =>
          refine ⟨{ piece with
            blanks := char :: piece.blanks
            blank := by simpa [space] using piece.blank } :: others, tail, blank, rfl, ?_, longest⟩
          simp only [placed, Text.byteLength, utf8Size_of_isSpace space, Nat.add_assoc]
  | case3 offset char rest solid scanned found ih =>
      cases remaining : lexFrom (offset + Text.byteLength scanned.spelling) scanned.rest with
      | error cause => simp [remaining, bind, Except.bind] at split
      | ok others =>
          simp only [remaining, bind, Except.bind, pure, Except.pure, Except.ok.injEq] at split
          obtain ⟨pieces, tail, blank, whole, rfl, longest⟩ := ih remaining
          obtain ⟨splits, _⟩ := scan?_splits found
          refine ⟨⟨[], _, _, by simp, isSpelling_of_scan? found⟩ :: pieces, tail, blank, ?_, ?_, ?_⟩
          · simp only [written, List.nil_append, whole, splits]
          · simpa only [placed, Text.byteLength, Nat.add_zero] using split
          · refine ⟨fun token other spelled leads => ?_, longest⟩
            rw [whole, ← splits] at leads
            exact (leads_of_scan? found spelled leads).length_le
  | case4 => cases split

/-- Tokens that are spelled with blanks between them are split into just these tokens, each at the
byte where its spelling starts. A text that is split at all consists of spellings of its tokens at
their places, each the longest there, with nothing but blanks around them. -/
theorem lex_inverts_layout :
    (∀ layout : Layout, layout.Separated → lex layout.text = .ok layout.lexemes) ∧
      ∀ clause lexemes, lex clause = .ok lexemes →
        ∃ layout : Layout, layout.text = clause ∧ layout.lexemes = lexemes ∧
          EachLongest layout.pieces layout.tail := by
  constructor
  · intro layout separated
    rw [lex, Layout.text, String.toList_ofList]
    exact lexFrom_written 0 separated layout.blank
  · intro clause lexemes split
    obtain ⟨pieces, tail, blank, whole, placed, longest⟩ := exists_pieces_of_lexFrom split
    exact ⟨⟨pieces, tail, blank⟩, by rw [Layout.text, whole, String.ofList_toList], placed, longest⟩

def Layout.sample : Layout where
  pieces := [
    ⟨['\t'], _, _, by simp [isSpace], .identifier (show IsWord ['v'] by decide)⟩,
    ⟨['\r', '\n'], _, _, by simp [isSpace], .diamond⟩,
    ⟨[' '], _, _, by simp [isSpace], .string ['i', '\'', 's']⟩,
    ⟨[' ', ' '], _, _, by simp [isSpace], .quotedIdentifier ['é', '"']⟩,
    ⟨['\n'], _, _, by simp [isSpace], .relation .atMost⟩,
    ⟨[' '], _, _, by simp [isSpace],
      .number (show IsNumber ['-', '1', '.', '5', 'e', '+', '3'] by decide)⟩,
    ⟨[' '], _, _, by simp [isSpace], .hexadecimal (show IsHexadecimal ['0', 'X', 'f'] by decide)⟩]
  tail := ['\t', ' ']
  blank := by simp [isSpace]

def denseSample : List Lexeme :=
  [⟨.identifier "v", 0⟩, ⟨.relation .unequal, 1⟩, ⟨.number "-1.5", 3⟩, ⟨.identifier "e", 7⟩]

theorem lex_inverts_layout_sample :
    Layout.sample.Separated ∧ lex Layout.sample.text = .ok Layout.sample.lexemes ∧
      Layout.sample.lexemes.map Lexeme.offset = [1, 4, 7, 15, 22, 25, 33] ∧
      lex "v<>-1.5e" = .ok denseSample ∧
      ∃ layout : Layout, layout.text = "v<>-1.5e" ∧ layout.lexemes = denseSample ∧
        EachLongest layout.pieces layout.tail := by
  have separated : Layout.sample.Separated := by simp [Layout.Separated, Layout.sample]
  have dense : lex "v<>-1.5e" = .ok denseSample := by decide +kernel
  exact ⟨separated, lex_inverts_layout.1 _ separated, by decide +kernel, dense,
    lex_inverts_layout.2 _ _ dense⟩

end ColumnChecks.Clause
