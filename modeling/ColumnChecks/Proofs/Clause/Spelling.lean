import Mathlib.Data.List.TakeWhile
import ColumnChecks.Clause.Lexer
import ColumnChecks.Proofs.Column.NameRoundTrip

/-! The rules by which tokens are spelled. What is scanned as a token is a spelling of it, and a
spelling is scanned whole, as its token, where nothing follows that could prolong it. -/

namespace ColumnChecks.Clause

def IsWord : List Char → Prop
  | [] => False
  | first :: rest => isWordStart first = true ∧ ∀ char ∈ rest, isWordChar char = true

def IsDigits (chars : List Char) : Prop :=
  chars ≠ [] ∧ ∀ char ∈ chars, char.isDigit = true

def IsFraction (chars : List Char) : Prop :=
  ∃ digits, chars = '.' :: digits ∧ IsDigits digits

def IsExponent (chars : List Char) : Prop :=
  ∃ mark sign digits, chars = mark :: sign ++ digits ∧ (mark = 'e' ∨ mark = 'E') ∧
    (sign = [] ∨ sign = ['+'] ∨ sign = ['-']) ∧ IsDigits digits

def IsUnsigned (chars : List Char) : Prop :=
  ∃ whole fraction exponent, chars = whole ++ fraction ++ exponent ∧ IsDigits whole ∧
    (fraction = [] ∨ IsFraction fraction) ∧ (exponent = [] ∨ IsExponent exponent)

def IsNumber (chars : List Char) : Prop :=
  IsUnsigned chars ∨ ∃ rest, chars = '-' :: rest ∧ IsUnsigned rest

def IsHexadecimal (chars : List Char) : Prop :=
  ∃ mark digits, chars = '0' :: mark :: digits ∧ (mark = 'x' ∨ mark = 'X') ∧
    ∀ char ∈ digits, Text.isHexDigit char = true

/-- The characters are a spelling of the token. Quotes inside quotes are written twice. -/
inductive IsSpelling : Token → List Char → Prop
  | relation (operator : Operator) : IsSpelling (.relation operator) operator.symbol.toList
  | diamond : IsSpelling (.relation .unequal) ['<', '>']
  | openParen : IsSpelling .openParen ['(']
  | closeParen : IsSpelling .closeParen [')']
  | identifier {chars : List Char} : IsWord chars →
      IsSpelling (.identifier (String.ofList chars)) chars
  | quotedIdentifier (content : List Char) :
      IsSpelling (.quotedIdentifier (String.ofList ('"' :: Text.doubled '"' content ++ ['"'])))
        ('"' :: Text.doubled '"' content ++ ['"'])
  | number {chars : List Char} : IsNumber chars → IsSpelling (.number (String.ofList chars)) chars
  | hexadecimal {chars : List Char} : IsHexadecimal chars →
      IsSpelling (.hexadecimal (String.ofList chars)) chars
  | string (content : List Char) :
      IsSpelling (.string (String.ofList content)) ('\'' :: Text.doubled '\'' content ++ ['\''])

/-! What is scanned is a spelling. -/

theorem isWord_wordSpelling {chars : List Char} (nonempty : wordSpelling chars ≠ []) :
    IsWord (wordSpelling chars) := by
  cases chars with
  | nil => simp [wordSpelling] at nonempty
  | cons first rest =>
      simp only [wordSpelling] at nonempty ⊢
      split
      · rename_i start
        exact ⟨start, fun char member => List.mem_takeWhile_imp member⟩
      · rename_i other
        simp [other] at nonempty

theorem isDigits_takeWhile {chars : List Char} (nonempty : chars.takeWhile Char.isDigit ≠ []) :
    IsDigits (chars.takeWhile Char.isDigit) :=
  ⟨nonempty, fun _ member => List.mem_takeWhile_imp member⟩

theorem isFraction_fractionSpelling (chars : List Char) :
    fractionSpelling chars = [] ∨ IsFraction (fractionSpelling chars) := by
  fun_cases fractionSpelling chars with
  | case1 => exact Or.inl rfl
  | case2 rest digits nonempty =>
      exact Or.inr ⟨digits, rfl, isDigits_takeWhile (mt List.isEmpty_iff.mpr nonempty)⟩
  | case3 => exact Or.inl rfl

theorem isSign_signSpelling (chars : List Char) :
    signSpelling chars = [] ∨ signSpelling chars = ['+'] ∨ signSpelling chars = ['-'] := by
  fun_cases signSpelling chars with
  | case1 => exact Or.inr (Or.inl rfl)
  | case2 => exact Or.inr (Or.inr rfl)
  | case3 => exact Or.inl rfl

theorem isExponent_exponentSpelling (chars : List Char) :
    exponentSpelling chars = [] ∨ IsExponent (exponentSpelling chars) := by
  cases chars with
  | nil => exact Or.inl rfl
  | cons mark rest =>
      simp only [exponentSpelling]
      split
      · rename_i complete
        simp only [Bool.and_eq_true, Bool.or_eq_true, decide_eq_true_eq, Bool.not_eq_true',
          List.isEmpty_eq_false_iff] at complete
        exact Or.inr ⟨mark, _, _, rfl, complete.1, isSign_signSpelling rest,
          isDigits_takeWhile complete.2⟩
      · exact Or.inl rfl

theorem isUnsigned_unsignedSpelling {chars : List Char} (nonempty : unsignedSpelling chars ≠ []) :
    IsUnsigned (unsignedSpelling chars) := by
  simp only [unsignedSpelling] at nonempty ⊢
  split
  · rename_i empty
    simp [empty] at nonempty
  · rename_i digits
    exact ⟨_, _, _, rfl, isDigits_takeWhile (by simpa using digits),
      isFraction_fractionSpelling _, isExponent_exponentSpelling _⟩

theorem isNumber_numberSpelling {chars : List Char} (nonempty : numberSpelling chars ≠ []) :
    IsNumber (numberSpelling chars) := by
  revert nonempty
  fun_cases numberSpelling chars with
  | case1 => simp
  | case2 rest spelling some =>
      intro _
      exact Or.inr ⟨_, rfl, isUnsigned_unsignedSpelling (by simpa using some)⟩
  | case3 => exact fun nonempty => Or.inl (isUnsigned_unsignedSpelling nonempty)

theorem isHexadecimal_hexadecimalSpelling {chars : List Char}
    (nonempty : hexadecimalSpelling chars ≠ []) : IsHexadecimal (hexadecimalSpelling chars) := by
  revert nonempty
  fun_cases hexadecimalSpelling chars with
  | case1 mark rest marked =>
      intro _
      exact ⟨mark, _, rfl, by simpa using marked, fun _ member => List.mem_takeWhile_imp member⟩
  | case2 => simp
  | case3 => simp

theorem doubled_of_untilQuote? {quote : Char} {chars content rest : List Char}
    (found : untilQuote? quote chars = some (content, rest)) :
    Text.doubled quote (Text.undoubled quote content) = content := by
  fun_induction untilQuote? quote chars generalizing content rest with
  | case1 => simp at found
  | case2 =>
      cases found
      simp [Text.undoubled, Text.doubled]
  | case3 after ih =>
      simp only [Option.map_eq_some_iff, Prod.exists, Prod.mk.injEq] at found
      obtain ⟨inner, rest', found, rfl, rfl⟩ := found
      simp [Text.undoubled, Text.doubled, ih found]
  | case4 =>
      cases found
      simp [Text.undoubled, Text.doubled]
  | case5 char after other ih =>
      simp only [Option.map_eq_some_iff, Prod.exists, Prod.mk.injEq] at found
      obtain ⟨inner, rest', found, rfl, rfl⟩ := found
      simp [Text.undoubled_cons_of_ne other, Text.doubled, other, ih found]

theorem isSpelling_of_scanSymbol? {chars : List Char} {scanned : Scanned}
    (found : scanSymbol? chars = some scanned) : IsSpelling scanned.token scanned.spelling := by
  unfold scanSymbol? at found
  split at found
  all_goals cases found
  · exact .relation .equal
  · exact .relation .unequal
  · exact .diamond
  · exact .relation .atMost
  · exact .relation .atLeast
  · exact .relation .less
  · exact .relation .greater
  · exact .openParen
  · exact .closeParen

theorem isSpelling_of_scanQuoted? {chars : List Char} {scanned : Scanned}
    (found : scanQuoted? chars = some scanned) : IsSpelling scanned.token scanned.spelling := by
  unfold scanQuoted? at found
  split at found
  · simp only [Option.map_eq_some_iff, Prod.exists] at found
    obtain ⟨content, rest, found, rfl⟩ := found
    simp only
    rw [← doubled_of_untilQuote? found]
    exact .quotedIdentifier _
  · simp only [Option.map_eq_some_iff, Prod.exists] at found
    obtain ⟨content, rest, found, rfl⟩ := found
    have spelled := IsSpelling.string (Text.undoubled '\'' content)
    rwa [doubled_of_untilQuote? found] at spelled
  · simp at found

theorem isSpelling_of_scanRun? {token : String → Token} {spelling chars : List Char}
    {scanned : Scanned}
    (rule : spelling ≠ [] → IsSpelling (token (String.ofList spelling)) spelling)
    (found : scanRun? token spelling chars = some scanned) :
    IsSpelling scanned.token scanned.spelling := by
  unfold scanRun? at found
  split at found
  · simp at found
  · rename_i nonempty
    cases found
    exact rule (by simpa using nonempty)

theorem isSpelling_of_scan? {chars : List Char} {scanned : Scanned}
    (found : scan? chars = some scanned) : IsSpelling scanned.token scanned.spelling := by
  simp only [scan?, Option.or_eq_some_iff] at found
  rcases found with found | ⟨_, found | ⟨_, found | ⟨_, found | ⟨_, found⟩⟩⟩⟩
  · exact isSpelling_of_scanSymbol? found
  · exact isSpelling_of_scanQuoted? found
  · exact isSpelling_of_scanRun? (fun some => .identifier (isWord_wordSpelling some)) found
  · exact isSpelling_of_scanRun?
      (fun some => .hexadecimal (isHexadecimal_hexadecimalSpelling some)) found
  · exact isSpelling_of_scanRun? (fun some => .number (isNumber_numberSpelling some)) found

/-! A spelling is scanned whole before a blank, a parenthesis or the end. -/

def breakChars : List Char :=
  [' ', '\t', '\r', '\n', '(', ')']

def Breaks (chars : List Char) : Prop :=
  ∀ char, chars.head? = some char → char ∈ breakChars

/-- The first character, if there is one, is not among those that are accepted. -/
def Stops (accepts : Char → Bool) (chars : List Char) : Prop :=
  ∀ char, chars.head? = some char → accepts char = false

theorem breaks_nil : Breaks [] := nofun

theorem breaks_cons {first : Char} (rest : List Char) (member : first ∈ breakChars) :
    Breaks (first :: rest) := by
  intro char same
  cases same
  exact member

theorem breaks_blank (rest : List Char) : Breaks (' ' :: rest) :=
  breaks_cons rest (by decide)

theorem breaks_openParen (rest : List Char) : Breaks ('(' :: rest) :=
  breaks_cons rest (by decide)

theorem breaks_closeParen (rest : List Char) : Breaks (')' :: rest) :=
  breaks_cons rest (by decide)

theorem Breaks.stops {accepts : Char → Bool} {chars : List Char} (breaks : Breaks chars)
    (free : breakChars.any accepts = false) : Stops accepts chars := by
  intro char same
  simpa using List.any_eq_false.mp free char (breaks char same)

theorem stops_cons {accepts : Char → Bool} {first : Char} (rest : List Char)
    (other : accepts first = false) : Stops accepts (first :: rest) := by
  intro char same
  cases same
  exact other

theorem takeWhile_of_stops {accepts : Char → Bool} {chars : List Char}
    (stops : Stops accepts chars) : chars.takeWhile accepts = [] := by
  cases chars with
  | nil => rfl
  | cons first rest => simp [stops first rfl]

theorem takeWhile_append_of_stops {accepts : Char → Bool} {body rest : List Char}
    (whole : ∀ char ∈ body, accepts char = true) (stops : Stops accepts rest) :
    (body ++ rest).takeWhile accepts = body := by
  rw [List.takeWhile_append_of_pos whole, takeWhile_of_stops stops, List.append_nil]

theorem wordSpelling_append {word rest : List Char} (isWord : IsWord word)
    (stops : Stops isWordChar rest) : wordSpelling (word ++ rest) = word := by
  cases word with
  | nil => exact isWord.elim
  | cons first others =>
      obtain ⟨start, whole⟩ := isWord
      simp [wordSpelling, start, takeWhile_append_of_stops whole stops]

theorem hexadecimalSpelling_append {digits rest : List Char} (isHexadecimal : IsHexadecimal digits)
    (stops : Stops Text.isHexDigit rest) : hexadecimalSpelling (digits ++ rest) = digits := by
  obtain ⟨mark, digits, rfl, marked, whole⟩ := isHexadecimal
  simp [hexadecimalSpelling, marked, takeWhile_append_of_stops whole stops]

theorem fractionSpelling_append {fraction rest : List Char}
    (optional : fraction = [] ∨ IsFraction fraction) (noPoint : Stops (· = '.') rest)
    (stops : Stops Char.isDigit rest) : fractionSpelling (fraction ++ rest) = fraction := by
  rcases optional with rfl | ⟨digits, rfl, nonempty, whole⟩
  · rw [List.nil_append]
    unfold fractionSpelling
    split
    · exact absurd (noPoint '.' rfl) (by decide)
    · rfl
  · simp [fractionSpelling, takeWhile_append_of_stops whole stops, nonempty]

theorem signSpelling_append {sign digits : List Char}
    (isSign : sign = [] ∨ sign = ['+'] ∨ sign = ['-']) (isDigits : IsDigits digits)
    (rest : List Char) : signSpelling (sign ++ (digits ++ rest)) = sign := by
  rcases isSign with rfl | rfl | rfl
  · obtain ⟨nonempty, whole⟩ := isDigits
    cases digits with
    | nil => exact absurd rfl nonempty
    | cons digit digits =>
        have isDigit := whole digit (by simp)
        unfold signSpelling
        split
        · simp_all
        · simp_all
        · rfl
  · rfl
  · rfl

theorem exponentSpelling_append {exponent rest : List Char}
    (optional : exponent = [] ∨ IsExponent exponent)
    (noMark : Stops (fun char => char = 'e' || char = 'E') rest)
    (stops : Stops Char.isDigit rest) : exponentSpelling (exponent ++ rest) = exponent := by
  rcases optional with rfl | ⟨mark, sign, digits, rfl, marked, isSign, isDigits⟩
  · cases rest with
    | nil => rfl
    | cons first rest => simp [exponentSpelling, noMark first rfl]
  · have signed := signSpelling_append isSign isDigits rest
    simp [exponentSpelling, signed, takeWhile_append_of_stops isDigits.2 stops, marked, isDigits.1]

theorem Stops.fraction_append {accepts : Char → Bool} {fraction rest : List Char}
    (optional : fraction = [] ∨ IsFraction fraction) (noPoint : accepts '.' = false)
    (stops : Stops accepts rest) : Stops accepts (fraction ++ rest) := by
  rcases optional with rfl | ⟨digits, rfl, _⟩
  · exact stops
  · exact stops_cons _ noPoint

theorem IsExponent.stops {accepts : Char → Bool} {exponent : List Char}
    (isExponent : IsExponent exponent) (noSmall : accepts 'e' = false)
    (noLarge : accepts 'E' = false) (rest : List Char) : Stops accepts (exponent ++ rest) := by
  obtain ⟨mark, sign, digits, rfl, rfl | rfl, _⟩ := isExponent
  · exact stops_cons _ noSmall
  · exact stops_cons _ noLarge

theorem Stops.exponent_append {accepts : Char → Bool} {exponent rest : List Char}
    (optional : exponent = [] ∨ IsExponent exponent) (noSmall : accepts 'e' = false)
    (noLarge : accepts 'E' = false) (stops : Stops accepts rest) :
    Stops accepts (exponent ++ rest) := by
  rcases optional with rfl | isExponent
  · exact stops
  · exact isExponent.stops noSmall noLarge rest

theorem unsignedSpelling_eq {whole rest : List Char} (isDigits : IsDigits whole)
    (stops : Stops Char.isDigit rest) :
    unsignedSpelling (whole ++ rest) =
      whole ++ (fractionSpelling rest ++
        exponentSpelling (rest.drop (fractionSpelling rest).length)) := by
  have afterWhole : (whole ++ rest).takeWhile Char.isDigit = whole :=
    takeWhile_append_of_stops isDigits.2 stops
  simp [unsignedSpelling, afterWhole, isDigits.1, ← List.drop_drop]

theorem unsignedSpelling_append {digits rest : List Char} (isUnsigned : IsUnsigned digits)
    (breaks : Breaks rest) : unsignedSpelling (digits ++ rest) = digits := by
  obtain ⟨whole, fraction, exponent, rfl, isDigits, isFraction, isExponent⟩ := isUnsigned
  -- Each part ends where the next one starts, or at the break if none follows.
  have noDigit : Stops Char.isDigit (fraction ++ (exponent ++ rest)) :=
    .fraction_append isFraction (by decide) <|
      .exponent_append isExponent (by decide) (by decide) (breaks.stops (by decide))
  have afterFraction : fractionSpelling (fraction ++ (exponent ++ rest)) = fraction :=
    fractionSpelling_append isFraction
      (.exponent_append isExponent (by decide) (by decide) (breaks.stops (by decide)))
      (.exponent_append isExponent (by decide) (by decide) (breaks.stops (by decide)))
  have afterExponent : exponentSpelling (exponent ++ rest) = exponent :=
    exponentSpelling_append isExponent (breaks.stops (by decide)) (breaks.stops (by decide))
  simp only [List.append_assoc, unsignedSpelling_eq isDigits noDigit, afterFraction,
    List.drop_left, afterExponent]

theorem IsUnsigned.exists_digit {digits : List Char} (isUnsigned : IsUnsigned digits) :
    ∃ digit others, digits = digit :: others ∧ digit.isDigit = true := by
  obtain ⟨whole, fraction, exponent, rfl, ⟨nonempty, isDigit⟩, _⟩ := isUnsigned
  obtain ⟨digit, others, rfl⟩ := List.exists_cons_of_ne_nil nonempty
  exact ⟨digit, _, rfl, isDigit digit (by simp)⟩

theorem numberSpelling_of_digit {digit : Char} (isDigit : digit.isDigit = true)
    (chars : List Char) : numberSpelling (digit :: chars) = unsignedSpelling (digit :: chars) := by
  have notMinus : digit ≠ '-' := by
    rintro rfl
    exact absurd isDigit (by decide)
  simp [numberSpelling, notMinus]

theorem numberSpelling_append {digits rest : List Char} (isNumber : IsNumber digits)
    (breaks : Breaks rest) : numberSpelling (digits ++ rest) = digits := by
  rcases isNumber with isUnsigned | ⟨unsigned, rfl, isUnsigned⟩
  · have spelled := unsignedSpelling_append isUnsigned breaks
    obtain ⟨digit, others, rfl, isDigit⟩ := isUnsigned.exists_digit
    rwa [List.cons_append, numberSpelling_of_digit isDigit]
  · have spelled := unsignedSpelling_append isUnsigned breaks
    obtain ⟨digit, others, rfl, _⟩ := isUnsigned.exists_digit
    rw [List.cons_append, numberSpelling, spelled]
    rfl

theorem untilQuote?_doubled {quote : Char} {rest : List Char} (stops : Stops (· = quote) rest)
    (content : List Char) :
    untilQuote? quote (Text.doubled quote content ++ quote :: rest) =
      some (Text.doubled quote content, rest) := by
  induction content with
  | nil =>
      cases rest with
      | nil => simp [Text.doubled, untilQuote?]
      | cons next after =>
          have other : next ≠ quote := by simpa using stops next rfl
          simp [Text.doubled, untilQuote?, other]
  | cons char content ih =>
      by_cases same : char = quote
      · simp [Text.doubled, untilQuote?, same, ih]
      · rw [Text.doubled, if_neg same, List.cons_append, untilQuote?.eq_def]
        simp [same, ih]

theorem scanRun?_of_ne_nil {spelling : List Char} (token : String → Token)
    (nonempty : spelling ≠ []) (chars : List Char) :
    scanRun? token spelling chars =
      some ⟨token (String.ofList spelling), spelling, chars.drop spelling.length⟩ := by
  simp [scanRun?, nonempty]

theorem scanRun?_append {spelling : List Char} (token : String → Token) (nonempty : spelling ≠ [])
    (rest : List Char) :
    scanRun? token spelling (spelling ++ rest) =
      some ⟨token (String.ofList spelling), spelling, rest⟩ := by
  rw [scanRun?_of_ne_nil token nonempty, List.drop_left]

theorem scanRun?_nil (token : String → Token) (chars : List Char) :
    scanRun? token [] chars = none := rfl

def marks : List Char :=
  ['=', '!', '<', '>', '(', ')', '"', '\'']

theorem not_mem_of_accepts {accepts : Char → Bool} {chars : List Char} {char : Char}
    (accepted : accepts char = true) (free : chars.any accepts = false) : char ∉ chars := by
  intro member
  exact List.any_eq_false.mp free char member accepted

theorem scan?_of_not_mark {first : Char} {rest : List Char} (plain : first ∉ marks) :
    scan? (first :: rest) =
      ((scanRun? .identifier (wordSpelling (first :: rest)) (first :: rest)).or <|
      (scanRun? .hexadecimal (hexadecimalSpelling (first :: rest)) (first :: rest)).or <|
      scanRun? .number (numberSpelling (first :: rest)) (first :: rest)) := by
  have noSymbol : scanSymbol? (first :: rest) = none := by
    unfold scanSymbol?
    split <;> simp_all [marks]
  have noQuote : scanQuoted? (first :: rest) = none := by
    unfold scanQuoted?
    split <;> simp_all [marks]
  simp [scan?, noSymbol, noQuote]

theorem scan?_word_of_stops {word rest : List Char} (isWord : IsWord word)
    (stops : Stops isWordChar rest) :
    scan? (word ++ rest) = some ⟨.identifier (String.ofList word), word, rest⟩ := by
  have spelled := wordSpelling_append isWord stops
  cases word with
  | nil => exact isWord.elim
  | cons first others =>
      have plain : first ∉ marks := not_mem_of_accepts isWord.1 (by decide)
      rw [List.cons_append] at spelled ⊢
      rw [scan?_of_not_mark plain, spelled, ← List.cons_append,
        scanRun?_append .identifier (List.cons_ne_nil _ _), Option.some_or]

theorem scan?_word {word rest : List Char} (isWord : IsWord word) (breaks : Breaks rest) :
    scan? (word ++ rest) = some ⟨.identifier (String.ofList word), word, rest⟩ :=
  scan?_word_of_stops isWord (breaks.stops (by decide))

theorem wordSpelling_of_not_start {first : Char} (rest : List Char)
    (other : isWordStart first = false) : wordSpelling (first :: rest) = [] := by
  simp [wordSpelling, other]

theorem scan?_hexadecimal {digits rest : List Char} (isHexadecimal : IsHexadecimal digits)
    (breaks : Breaks rest) :
    scan? (digits ++ rest) = some ⟨.hexadecimal (String.ofList digits), digits, rest⟩ := by
  have spelled := hexadecimalSpelling_append isHexadecimal (breaks.stops (by decide))
  obtain ⟨mark, others, rfl, _⟩ := isHexadecimal
  rw [List.cons_append] at spelled ⊢
  rw [scan?_of_not_mark (by decide), wordSpelling_of_not_start _ (by decide), spelled,
    scanRun?_nil, Option.none_or, ← List.cons_append,
    scanRun?_append .hexadecimal (List.cons_ne_nil _ _), Option.some_or]

theorem hexadecimalSpelling_of_stops {rest : List Char}
    (stops : Stops (fun char => char = 'x' || char = 'X') rest) (first : Char) :
    hexadecimalSpelling (first :: rest) = [] := by
  unfold hexadecimalSpelling
  split
  · rename_i mark others same
    cases same
    have unmarked := stops mark rfl
    simp_all
  · rfl

theorem IsUnsigned.stops_mark {digit : Char} {others rest : List Char}
    (isUnsigned : IsUnsigned (digit :: others)) (breaks : Breaks rest) :
    Stops (fun char => char = 'x' || char = 'X') (others ++ rest) := by
  obtain ⟨whole, fraction, exponent, same, ⟨nonempty, isDigit⟩, isFraction, isExponent⟩ :=
    isUnsigned
  have after : Stops (fun char => char = 'x' || char = 'X') (fraction ++ (exponent ++ rest)) :=
    .fraction_append isFraction (by decide) <|
      .exponent_append isExponent (by decide) (by decide) (breaks.stops (by decide))
  match whole, nonempty, isDigit with
  | [first], _, _ =>
      simp only [List.cons_append, List.nil_append, List.cons.injEq] at same
      simpa [same.2] using after
  | first :: second :: digits, _, isDigit =>
      simp only [List.cons_append, List.cons.injEq] at same
      rw [same.2]
      refine stops_cons _ ?_
      have isDigit := isDigit second (by simp)
      by_contra marked
      simp only [Bool.not_eq_false, Bool.or_eq_true, decide_eq_true_eq] at marked
      rcases marked with rfl | rfl
      · exact absurd isDigit (by decide)
      · exact absurd isDigit (by decide)

theorem hexadecimalSpelling_of_isNumber {digits rest : List Char} (isNumber : IsNumber digits)
    (breaks : Breaks rest) : hexadecimalSpelling (digits ++ rest) = [] := by
  -- Hexadecimal digits are tried first, so no number may start like them.
  rcases isNumber with isUnsigned | ⟨unsigned, rfl, isUnsigned⟩
  · obtain ⟨digit, others, rfl, _⟩ := isUnsigned.exists_digit
    exact hexadecimalSpelling_of_stops (isUnsigned.stops_mark breaks) digit
  · rfl

def isNumberStart (char : Char) : Bool :=
  char = '-' || char.isDigit

theorem isWordStart_of_isNumberStart {char : Char} (start : isNumberStart char = true) :
    isWordStart char = false := by
  simp only [isNumberStart, Bool.or_eq_true, decide_eq_true_eq] at start
  rcases start with rfl | isDigit
  · decide
  · have range := Text.toNat_of_isDigit isDigit
    by_contra isStart
    rw [Bool.not_eq_false] at isStart
    change ((char.isUpper || char.isLower) || decide (char = '_')) = true at isStart
    simp only [Bool.or_eq_true, decide_eq_true_eq] at isStart
    rcases isStart with (upper | lower) | rfl
    · have letters := Text.toNat_of_isUpper upper
      omega
    · have letters := Text.toNat_of_isLower lower
      omega
    · exact absurd isDigit (by decide)

theorem IsNumber.exists_start {digits : List Char} (isNumber : IsNumber digits) :
    ∃ first others, digits = first :: others ∧ isNumberStart first = true := by
  rcases isNumber with isUnsigned | ⟨unsigned, rfl, _⟩
  · obtain ⟨digit, others, rfl, isDigit⟩ := isUnsigned.exists_digit
    exact ⟨digit, others, rfl, by simp [isNumberStart, isDigit]⟩
  · exact ⟨'-', unsigned, rfl, rfl⟩

theorem scan?_number {digits rest : List Char} (isNumber : IsNumber digits)
    (breaks : Breaks rest) :
    scan? (digits ++ rest) = some ⟨.number (String.ofList digits), digits, rest⟩ := by
  have spelled := numberSpelling_append isNumber breaks
  have notHexadecimal := hexadecimalSpelling_of_isNumber isNumber breaks
  obtain ⟨first, others, rfl, start⟩ := isNumber.exists_start
  have plain : first ∉ marks := not_mem_of_accepts start (by decide)
  rw [List.cons_append] at spelled notHexadecimal ⊢
  rw [scan?_of_not_mark plain, wordSpelling_of_not_start _ (isWordStart_of_isNumberStart start),
    scanRun?_nil, Option.none_or, notHexadecimal, scanRun?_nil, Option.none_or, spelled,
    ← List.cons_append, scanRun?_append .number (List.cons_ne_nil _ _)]

theorem scan?_quotedIdentifier_of_stops {rest : List Char} (stops : Stops (· = '"') rest)
    (content : List Char) :
    scan? ('"' :: Text.doubled '"' content ++ ['"'] ++ rest) =
      some ⟨.quotedIdentifier (String.ofList ('"' :: Text.doubled '"' content ++ ['"'])),
        '"' :: Text.doubled '"' content ++ ['"'], rest⟩ := by
  have found := untilQuote?_doubled stops content
  simp [scan?, scanSymbol?, scanQuoted?, found]

theorem scan?_quotedIdentifier {rest : List Char} (breaks : Breaks rest) (content : List Char) :
    scan? ('"' :: Text.doubled '"' content ++ ['"'] ++ rest) =
      some ⟨.quotedIdentifier (String.ofList ('"' :: Text.doubled '"' content ++ ['"'])),
        '"' :: Text.doubled '"' content ++ ['"'], rest⟩ :=
  scan?_quotedIdentifier_of_stops (breaks.stops (by decide)) content

theorem scan?_string {rest : List Char} (breaks : Breaks rest) (content : List Char) :
    scan? ('\'' :: Text.doubled '\'' content ++ ['\''] ++ rest) =
      some ⟨.string (String.ofList content),
        '\'' :: Text.doubled '\'' content ++ ['\''], rest⟩ := by
  have stops : Stops (· = '\'') rest := breaks.stops (by decide)
  have found := untilQuote?_doubled stops content
  simp [scan?, scanSymbol?, scanQuoted?, found, Text.undoubled_doubled]

theorem scan?_less {rest : List Char}
    (stops : Stops (fun char => char = '=' || char = '>') rest) :
    scan? ('<' :: rest) = some ⟨.relation .less, ['<'], rest⟩ := by
  unfold scan? scanSymbol?
  split <;> simp_all [Stops]

theorem scan?_greater {rest : List Char} (stops : Stops (· = '=') rest) :
    scan? ('>' :: rest) = some ⟨.relation .greater, ['>'], rest⟩ := by
  unfold scan? scanSymbol?
  split <;> simp_all [Stops]

theorem scan?_operator {rest : List Char} (breaks : Breaks rest) (operator : Operator) :
    scan? (operator.symbol.toList ++ rest) =
      some ⟨.relation operator, operator.symbol.toList, rest⟩ := by
  cases operator with
  | equal => rfl
  | atLeast => rfl
  | greater => exact scan?_greater (breaks.stops (by decide))
  | atMost => rfl
  | less => exact scan?_less (breaks.stops (by decide))
  | unequal => rfl

theorem scan?_of_isSpelling {token : Token} {spelling rest : List Char}
    (spelled : IsSpelling token spelling) (breaks : Breaks rest) :
    scan? (spelling ++ rest) = some ⟨token, spelling, rest⟩ := by
  cases spelled with
  | relation operator => exact scan?_operator breaks operator
  | diamond => rfl
  | openParen => rfl
  | closeParen => rfl
  | identifier isWord => exact scan?_word isWord breaks
  | quotedIdentifier content => exact scan?_quotedIdentifier breaks content
  | number isNumber => exact scan?_number isNumber breaks
  | hexadecimal isHexadecimal => exact scan?_hexadecimal isHexadecimal breaks
  | string content => exact scan?_string breaks content

theorem IsSpelling.ne_nil {token : Token} {spelling : List Char}
    (spelled : IsSpelling token spelling) : spelling ≠ [] :=
  (scan?_splits (scan?_of_isSpelling spelled breaks_nil)).2

/-! The rules are decided by scanning. -/

theorem isWord_iff {chars : List Char} :
    IsWord chars ↔ chars ≠ [] ∧ wordSpelling chars = chars := by
  constructor
  · intro isWord
    have spelled := wordSpelling_append isWord (breaks_nil.stops (by decide))
    rw [List.append_nil] at spelled
    exact ⟨(IsSpelling.identifier isWord).ne_nil, spelled⟩
  · rintro ⟨nonempty, spelled⟩
    rw [← spelled] at nonempty ⊢
    exact isWord_wordSpelling nonempty

theorem isNumber_iff {chars : List Char} :
    IsNumber chars ↔ chars ≠ [] ∧ numberSpelling chars = chars := by
  constructor
  · intro isNumber
    have spelled := numberSpelling_append isNumber breaks_nil
    rw [List.append_nil] at spelled
    exact ⟨(IsSpelling.number isNumber).ne_nil, spelled⟩
  · rintro ⟨nonempty, spelled⟩
    rw [← spelled] at nonempty ⊢
    exact isNumber_numberSpelling nonempty

theorem isHexadecimal_iff {chars : List Char} :
    IsHexadecimal chars ↔ chars ≠ [] ∧ hexadecimalSpelling chars = chars := by
  constructor
  · intro isHexadecimal
    have spelled := hexadecimalSpelling_append isHexadecimal (breaks_nil.stops (by decide))
    rw [List.append_nil] at spelled
    exact ⟨(IsSpelling.hexadecimal isHexadecimal).ne_nil, spelled⟩
  · rintro ⟨nonempty, spelled⟩
    rw [← spelled] at nonempty ⊢
    exact isHexadecimal_hexadecimalSpelling nonempty

instance : DecidablePred IsWord := fun _ => decidable_of_iff _ isWord_iff.symm

instance : DecidablePred IsNumber := fun _ => decidable_of_iff _ isNumber_iff.symm

instance : DecidablePred IsHexadecimal := fun _ => decidable_of_iff _ isHexadecimal_iff.symm

/-! No spelling starts with a blank. -/

theorem isSpace_iff_mem {char : Char} : isSpace char = true ↔ char ∈ [' ', '\t', '\r', '\n'] := by
  simp [isSpace, or_assoc]

theorem isSpace_of_accepts {accepts : Char → Bool} {char : Char} (accepted : accepts char = true)
    (free : [' ', '\t', '\r', '\n'].any accepts = false) : isSpace char = false := by
  by_contra space
  rw [Bool.not_eq_false, isSpace_iff_mem] at space
  exact not_mem_of_accepts accepted free space

theorem isSpace_of_isSpelling {token : Token} {first : Char} {rest : List Char}
    (spelled : IsSpelling token (first :: rest)) : isSpace first = false := by
  generalize same : first :: rest = chars at spelled
  cases spelled with
  | relation operator => cases operator <;> cases same <;> decide
  | diamond => cases same; decide
  | openParen => cases same; decide
  | closeParen => cases same; decide
  | identifier isWord =>
      subst same
      exact isSpace_of_accepts isWord.1 (by decide)
  | quotedIdentifier => cases same; decide
  | number isNumber =>
      obtain ⟨start, others, rfl, accepted⟩ := isNumber.exists_start
      cases same
      exact isSpace_of_accepts accepted (by decide)
  | hexadecimal isHexadecimal =>
      obtain ⟨mark, digits, rfl, _⟩ := isHexadecimal
      cases same
      decide
  | string => cases same; decide

theorem scan?_of_isSpace {first : Char} (space : isSpace first = true) (rest : List Char) :
    scan? (first :: rest) = none := by
  cases found : scan? (first :: rest) with
  | none => rfl
  | some scanned =>
      obtain ⟨token, spelling, after⟩ := scanned
      obtain ⟨whole, nonempty⟩ := scan?_splits found
      have spelled := isSpelling_of_scan? found
      cases spelling with
      | nil => exact absurd rfl nonempty
      | cons start others =>
          cases whole
          rw [isSpace_of_isSpelling spelled] at space
          contradiction

end ColumnChecks.Clause
