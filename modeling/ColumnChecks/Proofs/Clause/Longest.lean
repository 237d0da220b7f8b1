import ColumnChecks.Proofs.Clause.Spelling

/-! What is scanned is the longest spelling at the start of the text. -/

namespace ColumnChecks.Clause

theorem wordSpelling_covers {word : List Char} (isWord : IsWord word) (rest : List Char) :
    word <+: wordSpelling (word ++ rest) := by
  cases word with
  | nil => exact isWord.elim
  | cons first others =>
      obtain ⟨start, whole⟩ := isWord
      simp [wordSpelling, start, List.takeWhile_append_of_pos whole]

theorem hexadecimalSpelling_covers {digits : List Char} (isHexadecimal : IsHexadecimal digits)
    (rest : List Char) : digits <+: hexadecimalSpelling (digits ++ rest) := by
  obtain ⟨mark, digits, rfl, marked, whole⟩ := isHexadecimal
  simp [hexadecimalSpelling, marked, List.takeWhile_append_of_pos whole]

theorem fractionSpelling_covers {fraction : List Char} (isFraction : IsFraction fraction)
    (rest : List Char) : fraction <+: fractionSpelling (fraction ++ rest) := by
  obtain ⟨digits, rfl, nonempty, whole⟩ := isFraction
  simp [fractionSpelling, List.takeWhile_append_of_pos whole, nonempty]

theorem exponentSpelling_covers {exponent : List Char} (isExponent : IsExponent exponent)
    (rest : List Char) : exponent <+: exponentSpelling (exponent ++ rest) := by
  obtain ⟨mark, sign, digits, rfl, marked, isSign, isDigits⟩ := isExponent
  have signed := signSpelling_append isSign isDigits rest
  simp [exponentSpelling, signed, List.takeWhile_append_of_pos isDigits.2, marked, isDigits.1]

theorem takeWhile_leads_unsignedSpelling (chars : List Char) :
    chars.takeWhile Char.isDigit <+: unsignedSpelling chars := by
  simp only [unsignedSpelling]
  split
  · rename_i empty
    simp [List.isEmpty_iff.mp empty]
  · exact (List.prefix_append _ _).trans (List.prefix_append _ _)

theorem unsignedSpelling_covers {digits : List Char} (isUnsigned : IsUnsigned digits)
    (rest : List Char) : digits <+: unsignedSpelling (digits ++ rest) := by
  obtain ⟨whole, fraction, exponent, rfl, isDigits, isFraction, isExponent⟩ := isUnsigned
  -- Only the last part can go on into the rest, and the parts before it end where they should.
  rcases isExponent with rfl | isExponent
  · rcases isFraction with rfl | isFraction
    · have covered : whole <+: (whole ++ rest).takeWhile Char.isDigit := by
        rw [List.takeWhile_append_of_pos isDigits.2]
        exact List.prefix_append _ _
      simpa only [List.append_nil] using covered.trans (takeWhile_leads_unsignedSpelling _)
    · have stops : Stops Char.isDigit (fraction ++ rest) := by
        obtain ⟨_, rfl, _⟩ := isFraction
        exact stops_cons _ (by decide)
      rw [List.append_nil, List.append_assoc, unsignedSpelling_eq isDigits stops,
        List.prefix_append_right_inj]
      exact (fractionSpelling_covers isFraction rest).trans (List.prefix_append _ _)
  · have noDigit : Stops Char.isDigit (exponent ++ rest) :=
      isExponent.stops (by decide) (by decide) rest
    have noPoint : Stops (· = '.') (exponent ++ rest) :=
      isExponent.stops (by decide) (by decide) rest
    have taken := fractionSpelling_append isFraction noPoint noDigit
    have stops : Stops Char.isDigit (fraction ++ (exponent ++ rest)) :=
      .fraction_append isFraction (by decide) noDigit
    rw [List.append_assoc, List.append_assoc, List.append_assoc, unsignedSpelling_eq isDigits stops,
      taken, List.drop_left, List.prefix_append_right_inj, List.prefix_append_right_inj]
    exact exponentSpelling_covers isExponent rest

theorem numberSpelling_covers {digits : List Char} (isNumber : IsNumber digits)
    (rest : List Char) : digits <+: numberSpelling (digits ++ rest) := by
  rcases isNumber with isUnsigned | ⟨unsigned, rfl, isUnsigned⟩
  · have covered := unsignedSpelling_covers isUnsigned rest
    obtain ⟨digit, others, rfl, isDigit⟩ := isUnsigned.exists_digit
    rwa [List.cons_append, numberSpelling_of_digit isDigit]
  · have covered := unsignedSpelling_covers isUnsigned rest
    have some : unsignedSpelling (unsigned ++ rest) ≠ [] := by
      obtain ⟨digit, others, rfl, _⟩ := isUnsigned.exists_digit
      exact List.ne_nil_of_mem (covered.subset List.mem_cons_self)
    simpa [numberSpelling, some] using covered

theorem untilQuote?_covers {quote : Char} {content rest inner after : List Char}
    (found : untilQuote? quote (Text.doubled quote content ++ quote :: rest) =
      some (inner, after)) : Text.doubled quote content ++ [quote] <+: inner ++ [quote] := by
  induction content generalizing inner with
  | nil =>
      cases inner with
      | nil => simp [Text.doubled]
      | cons first others =>
          have whole := untilQuote?_whole found
          simp only [Text.doubled, List.nil_append, List.cons_append, List.cons.injEq] at whole
          simp [Text.doubled, whole.1]
  | cons char content ih =>
      by_cases same : char = quote
      · simp only [Text.doubled, same, if_true, List.cons_append, untilQuote?,
          Option.map_eq_some_iff, Prod.exists, Prod.mk.injEq] at found
        obtain ⟨inner, after, found, rfl, rfl⟩ := found
        simpa [Text.doubled, same] using ih found
      · rw [Text.doubled, if_neg same, List.cons_append, untilQuote?.eq_def] at found
        simp only [same, if_false, Option.map_eq_some_iff, Prod.exists, Prod.mk.injEq] at found
        obtain ⟨inner, after, found, rfl, rfl⟩ := found
        simpa [Text.doubled, same] using ih found

section

variable {scanned : Scanned} {rest : List Char}

theorem singleton_leads_of_scan? {first : Char} (found : scan? (first :: rest) = some scanned) :
    [first] <+: scanned.spelling := by
  obtain ⟨whole, nonempty⟩ := scan?_splits found
  obtain ⟨start, others, same⟩ := List.exists_cons_of_ne_nil nonempty
  rw [same, List.cons_append, List.cons.injEq] at whole
  simp [same, whole.1]

theorem operator_leads_of_scan? {operator : Operator}
    (found : scan? (operator.symbol.toList ++ rest) = some scanned) :
    operator.symbol.toList <+: scanned.spelling := by
  cases operator with
  | equal => exact singleton_leads_of_scan? found
  | atLeast => cases found; exact List.prefix_refl _
  | greater => exact singleton_leads_of_scan? found
  | atMost => cases found; exact List.prefix_refl _
  | less => exact singleton_leads_of_scan? found
  | unequal => cases found; exact List.prefix_refl _

theorem word_leads_of_scan? {word : List Char} (isWord : IsWord word)
    (found : scan? (word ++ rest) = some scanned) : word <+: scanned.spelling := by
  have covered := wordSpelling_covers isWord rest
  cases word with
  | nil => exact isWord.elim
  | cons first others =>
      have plain : first ∉ marks := not_mem_of_accepts isWord.1 (by decide)
      have some := List.ne_nil_of_mem (covered.subset List.mem_cons_self)
      rw [List.cons_append] at found covered some
      rw [scan?_of_not_mark plain, scanRun?_of_ne_nil .identifier some, Option.some_or] at found
      cases found
      exact covered

theorem hexadecimal_leads_of_scan? {digits : List Char} (isHexadecimal : IsHexadecimal digits)
    (found : scan? (digits ++ rest) = some scanned) : digits <+: scanned.spelling := by
  have covered := hexadecimalSpelling_covers isHexadecimal rest
  obtain ⟨mark, others, rfl, _⟩ := isHexadecimal
  have some := List.ne_nil_of_mem (covered.subset List.mem_cons_self)
  rw [List.cons_append] at found covered some
  rw [scan?_of_not_mark (by decide), wordSpelling_of_not_start _ (by decide), scanRun?_nil,
    Option.none_or, scanRun?_of_ne_nil .hexadecimal some, Option.some_or] at found
  cases found
  exact covered

theorem number_leads_of_scan? {digits : List Char} (isNumber : IsNumber digits)
    (found : scan? (digits ++ rest) = some scanned) : digits <+: scanned.spelling := by
  have covered := numberSpelling_covers isNumber rest
  obtain ⟨first, others, rfl, start⟩ := isNumber.exists_start
  -- A digit alone may be the start of hexadecimal digits, which are then what is scanned.
  cases others with
  | nil => exact singleton_leads_of_scan? found
  | cons second others =>
      have notHexadecimal : hexadecimalSpelling (first :: second :: (others ++ rest)) = [] := by
        rcases isNumber with isUnsigned | ⟨_, same, _⟩
        · have unmarked := isUnsigned.stops_mark breaks_nil second rfl
          exact hexadecimalSpelling_of_stops (stops_cons _ unmarked) first
        · cases same
          rfl
      have plain : first ∉ marks := not_mem_of_accepts start (by decide)
      have some := List.ne_nil_of_mem (covered.subset List.mem_cons_self)
      simp only [List.cons_append] at found covered some
      rw [scan?_of_not_mark plain, wordSpelling_of_not_start _ (isWordStart_of_isNumberStart start),
        scanRun?_nil, Option.none_or, notHexadecimal, scanRun?_nil, Option.none_or,
        scanRun?_of_ne_nil .number some] at found
      cases found
      exact covered

theorem scan?_of_quote {first : Char} (quoted : first = '"' ∨ first = '\'') (rest : List Char) :
    scan? (first :: rest) = scanQuoted? (first :: rest) := by
  rcases quoted with rfl | rfl
  all_goals
    change none.or ((scanQuoted? (_ :: rest)).or none) = _
    rw [Option.none_or, Option.or_none]

theorem quoted_leads_of_scan? {quote : Char} {content : List Char}
    (quoted : quote = '"' ∨ quote = '\'')
    (found : scan? (quote :: Text.doubled quote content ++ [quote] ++ rest) = some scanned) :
    quote :: Text.doubled quote content ++ [quote] <+: scanned.spelling := by
  simp only [List.cons_append, List.append_assoc, List.nil_append, scan?_of_quote quoted] at found
  rcases quoted with rfl | rfl
  all_goals
    simp only [scanQuoted?, Option.map_eq_some_iff, Prod.exists] at found
    obtain ⟨inner, after, found, rfl⟩ := found
    exact (List.prefix_cons_inj _).mpr (untilQuote?_covers found)

/-- A spelling at the start of the text is not longer than what is scanned there. -/
theorem leads_of_scan? {chars spelling : List Char} {token : Token}
    (found : scan? chars = some scanned) (spelled : IsSpelling token spelling)
    (leads : spelling <+: chars) : spelling <+: scanned.spelling := by
  obtain ⟨rest, rfl⟩ := leads
  cases spelled with
  | relation operator => exact operator_leads_of_scan? found
  | diamond => cases found; exact List.prefix_refl _
  | openParen => exact singleton_leads_of_scan? found
  | closeParen => exact singleton_leads_of_scan? found
  | identifier isWord => exact word_leads_of_scan? isWord found
  | quotedIdentifier content => exact quoted_leads_of_scan? (Or.inl rfl) found
  | number isNumber => exact number_leads_of_scan? isNumber found
  | hexadecimal isHexadecimal => exact hexadecimal_leads_of_scan? isHexadecimal found
  | string content => exact quoted_leads_of_scan? (Or.inr rfl) found

end

end ColumnChecks.Clause
