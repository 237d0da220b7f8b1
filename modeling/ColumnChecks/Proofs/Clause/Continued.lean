import ColumnChecks.Proofs.Clause.Longest
import ColumnChecks.Proofs.Clause.Tokens

/-! A break ends every token, so a text that is split into tokens is split into the same ones when
it is continued behind a break. -/

namespace ColumnChecks.Clause

section

variable {tail : List Char}

theorem takeWhile_continued {accepts : Char → Bool} (stops : Stops accepts tail)
    (chars : List Char) : (chars ++ tail).takeWhile accepts = chars.takeWhile accepts := by
  induction chars with
  | nil => exact takeWhile_of_stops stops
  | cons first rest ih => simp [List.takeWhile_cons, ih]

theorem takeWhile_isDigit_continued (breaks : Breaks tail) (chars : List Char) :
    (chars ++ tail).takeWhile Char.isDigit = chars.takeWhile Char.isDigit :=
  takeWhile_continued (breaks.stops (by decide)) chars

theorem drop_continued {spelling chars : List Char} (leads : spelling <+: chars) :
    (chars ++ tail).drop spelling.length = chars.drop spelling.length ++ tail :=
  List.drop_append_of_le_length leads.length_le

theorem fractionSpelling_continued (breaks : Breaks tail) (chars : List Char) :
    fractionSpelling (chars ++ tail) = fractionSpelling chars := by
  cases chars with
  | nil =>
      exact fractionSpelling_append (Or.inl rfl) (breaks.stops (by decide))
        (breaks.stops (by decide))
  | cons first rest =>
      by_cases point : first = '.'
      · simp only [point, List.cons_append, fractionSpelling, takeWhile_isDigit_continued breaks]
      · simp [point, fractionSpelling]

theorem signSpelling_continued (breaks : Breaks tail) (chars : List Char) :
    signSpelling (chars ++ tail) = signSpelling chars := by
  cases chars with
  | nil =>
      have unsigned : Stops (fun char => char = '+' || char = '-') tail :=
        breaks.stops (by decide)
      simp only [List.nil_append]
      unfold signSpelling
      split <;> simp_all [Stops]
  | cons first rest =>
      by_cases plus : first = '+'
      · simp [plus, signSpelling]
      · by_cases minus : first = '-'
        · simp [minus, signSpelling]
        · simp [plus, minus, signSpelling]

theorem exponentSpelling_continued (breaks : Breaks tail) (chars : List Char) :
    exponentSpelling (chars ++ tail) = exponentSpelling chars := by
  cases chars with
  | nil =>
      exact exponentSpelling_append (Or.inl rfl) (breaks.stops (by decide))
        (breaks.stops (by decide))
  | cons mark rest =>
      simp only [List.cons_append, exponentSpelling, signSpelling_continued breaks,
        drop_continued (signSpelling_leads rest),
        takeWhile_isDigit_continued breaks]

theorem unsignedSpelling_continued (breaks : Breaks tail) (chars : List Char) :
    unsignedSpelling (chars ++ tail) = unsignedSpelling chars := by
  have whole := prefix_append_of_drop (List.takeWhile_prefix Char.isDigit)
    (fractionSpelling_leads (chars.drop (chars.takeWhile Char.isDigit).length))
  simp only [unsignedSpelling,
    takeWhile_isDigit_continued breaks,
    drop_continued (List.takeWhile_prefix Char.isDigit), fractionSpelling_continued breaks,
    drop_continued whole, exponentSpelling_continued breaks]

theorem numberSpelling_continued (breaks : Breaks tail) (first : Char) (rest : List Char) :
    numberSpelling (first :: (rest ++ tail)) = numberSpelling (first :: rest) := by
  by_cases minus : first = '-'
  · simp [minus, numberSpelling, unsignedSpelling_continued breaks]
  · have continued := unsignedSpelling_continued breaks (first :: rest)
    simpa [minus, numberSpelling] using continued

theorem hexadecimalSpelling_continued (breaks : Breaks tail) (first : Char) (rest : List Char) :
    hexadecimalSpelling (first :: (rest ++ tail)) = hexadecimalSpelling (first :: rest) := by
  cases rest with
  | nil =>
      rw [List.nil_append, hexadecimalSpelling_of_stops (breaks.stops (by decide)),
        hexadecimalSpelling_of_stops (breaks_nil.stops (by decide))]
  | cons mark rest =>
      by_cases zero : first = '0'
      · simp [zero, hexadecimalSpelling, takeWhile_continued (breaks.stops
          (show breakChars.any Text.isHexDigit = false by decide))]
      · simp [zero, hexadecimalSpelling]

theorem wordSpelling_continued (breaks : Breaks tail) (first : Char) (rest : List Char) :
    wordSpelling (first :: (rest ++ tail)) = wordSpelling (first :: rest) := by
  simp [wordSpelling,
    takeWhile_continued (breaks.stops (show breakChars.any isWordChar = false by decide))]

theorem untilQuote?_continued {quote : Char} {chars content rest : List Char}
    (stops : Stops (· = quote) tail) (found : untilQuote? quote chars = some (content, rest)) :
    untilQuote? quote (chars ++ tail) = some (content, rest ++ tail) := by
  fun_induction untilQuote? quote chars generalizing content rest with
  | case1 => cases found
  | case2 =>
      cases found
      exact untilQuote?_doubled stops []
  | case3 after ih =>
      simp only [Option.map_eq_some_iff, Prod.exists, Prod.mk.injEq] at found
      obtain ⟨content, rest, found, rfl, rfl⟩ := found
      simp [untilQuote?, ih found]
  | case4 next after other =>
      cases found
      simp [untilQuote?, other]
  | case5 char after other ih =>
      simp only [Option.map_eq_some_iff, Prod.exists, Prod.mk.injEq] at found
      obtain ⟨content, rest, found, rfl, rfl⟩ := found
      rw [List.cons_append, untilQuote?.eq_def]
      simp [other, ih found]

def Scanned.continued (scanned : Scanned) (tail : List Char) : Scanned :=
  { scanned with rest := scanned.rest ++ tail }

theorem scanRun?_continued {spelling chars : List Char} (token : String → Token)
    (leads : spelling <+: chars) :
    scanRun? token spelling (chars ++ tail) =
      (scanRun? token spelling chars).map (·.continued tail) := by
  unfold scanRun?
  split
  · rfl
  · rw [drop_continued leads]
    rfl

theorem scan?_plain_continued {first : Char} (breaks : Breaks tail) (plain : first ∉ marks)
    (rest : List Char) :
    scan? (first :: (rest ++ tail)) = (scan? (first :: rest)).map (·.continued tail) := by
  rw [scan?_of_not_mark plain, scan?_of_not_mark plain, wordSpelling_continued breaks,
    hexadecimalSpelling_continued breaks, numberSpelling_continued breaks, ← List.cons_append,
    scanRun?_continued _ (wordSpelling_leads _), scanRun?_continued _ (hexadecimalSpelling_leads _),
    scanRun?_continued _ (numberSpelling_leads _), Option.map_or, Option.map_or]

theorem scan?_quote_continued {first : Char} {rest : List Char} {scanned : Scanned}
    (breaks : Breaks tail) (quoted : first = '"' ∨ first = '\'')
    (found : scan? (first :: rest) = some scanned) :
    scan? (first :: (rest ++ tail)) = some (scanned.continued tail) := by
  rw [scan?_of_quote quoted] at found ⊢
  rcases quoted with rfl | rfl
  all_goals
    simp only [scanQuoted?, Option.map_eq_some_iff, Prod.exists] at found ⊢
    obtain ⟨content, after, found, rfl⟩ := found
    exact ⟨content, _, untilQuote?_continued (breaks.stops (by decide)) found, rfl⟩

theorem Stops.append {accepts : Char → Bool} {chars : List Char} (stops : Stops accepts chars)
    (tailStops : Stops accepts tail) : Stops accepts (chars ++ tail) := by
  cases chars with
  | nil => exact tailStops
  | cons first rest => exact stops_cons _ (stops first rfl)

theorem stops_of_scan?_less {rest : List Char}
    (found : scan? ('<' :: rest) = some ⟨.relation .less, ['<'], rest⟩) :
    Stops (fun char => char = '=' || char = '>') rest := by
  intro char same
  obtain ⟨more, rfl⟩ := List.head?_eq_some_iff.mp same
  by_contra prolongs
  simp only [Bool.not_eq_false, Bool.or_eq_true, decide_eq_true_eq] at prolongs
  rcases prolongs with rfl | rfl
  · cases found
  · cases found

theorem stops_of_scan?_greater {rest : List Char}
    (found : scan? ('>' :: rest) = some ⟨.relation .greater, ['>'], rest⟩) :
    Stops (· = '=') rest := by
  intro char same
  obtain ⟨more, rfl⟩ := List.head?_eq_some_iff.mp same
  rw [decide_eq_false_iff_not]
  rintro rfl
  cases found

theorem scan?_operator_continued {operator : Operator} {rest : List Char} (breaks : Breaks tail)
    (found : scan? (operator.symbol.toList ++ rest) =
      some ⟨.relation operator, operator.symbol.toList, rest⟩) :
    scan? (operator.symbol.toList ++ (rest ++ tail)) =
      some ⟨.relation operator, operator.symbol.toList, rest ++ tail⟩ := by
  cases operator with
  | equal => rfl
  | atLeast => rfl
  | greater =>
      exact scan?_greater ((stops_of_scan?_greater found).append (breaks.stops (by decide)))
  | atMost => rfl
  | less => exact scan?_less ((stops_of_scan?_less found).append (breaks.stops (by decide)))
  | unequal => rfl

/-- What is scanned does not change when the text goes on behind a break. -/
theorem scan?_continued {chars : List Char} {scanned : Scanned} (breaks : Breaks tail)
    (found : scan? chars = some scanned) :
    scan? (chars ++ tail) = some (scanned.continued tail) := by
  obtain ⟨token, spelling, rest⟩ := scanned
  have spelled : IsSpelling token spelling := isSpelling_of_scan? found
  obtain ⟨whole, _⟩ : chars = spelling ++ rest ∧ _ := scan?_splits found
  subst whole
  cases spelled with
  | relation operator =>
      rw [List.append_assoc]
      exact scan?_operator_continued breaks found
  | diamond => rfl
  | openParen => rfl
  | closeParen => rfl
  | identifier isWord =>
      obtain ⟨first, others, rfl⟩ :=
        List.exists_cons_of_ne_nil (IsSpelling.identifier isWord).ne_nil
      have plain : first ∉ marks := not_mem_of_accepts isWord.1 (by decide)
      exact (scan?_plain_continued breaks plain _).trans (congrArg _ found)
  | quotedIdentifier content => exact scan?_quote_continued breaks (Or.inl rfl) found
  | number isNumber =>
      obtain ⟨first, others, rfl, start⟩ := isNumber.exists_start
      have plain : first ∉ marks := not_mem_of_accepts start (by decide)
      exact (scan?_plain_continued breaks plain _).trans (congrArg _ found)
  | hexadecimal isHexadecimal =>
      obtain ⟨mark, digits, rfl, _⟩ := isHexadecimal
      exact (scan?_plain_continued breaks (by decide) _).trans (congrArg _ found)
  | string content => exact scan?_quote_continued breaks (Or.inr rfl) found

theorem Lexes.append {chars : List Char} {tokens more : List Token} (lexes : Lexes chars tokens)
    (breaks : Breaks tail) (lexesTail : Lexes tail more) :
    Lexes (chars ++ tail) (tokens ++ more) := by
  induction lexes with
  | nil => exact lexesTail
  | blank space _ ih => exact .blank space ih
  | token found _ ih =>
      exact (lexes_iff_of_scan? (scan?_continued breaks found)).mpr ⟨_, rfl, ih⟩

end

end ColumnChecks.Clause
