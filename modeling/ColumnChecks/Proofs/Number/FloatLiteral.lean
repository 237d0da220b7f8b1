import ColumnChecks.Number.FloatLiteral
import ColumnChecks.Proofs.Number.Integer
import ColumnChecks.Proofs.Number.Rounding
import ColumnChecks.Proofs.Text.Letters

/-! Float literals. A text is read as a pattern exactly if it is a decimal form of a number to which
the pattern's is the nearest one, or one of the words for infinity and for no number. -/

namespace ColumnChecks.Number

inductive DenotesExponent : List Char → Int → Prop
  | absent : DenotesExponent [] 0
  | present {mark : Char} {size : List Char} {exponent : Int} : mark = 'e' ∨ mark = 'E' →
      Denotes size exponent → DenotesExponent (mark :: size) exponent

inductive DenotesDecimal : List Char → ℚ → Prop
  | whole {digits tail : List Char} {exponent : Int} : IsDecimal digits →
      DenotesExponent tail exponent →
      DenotesDecimal (digits ++ tail) (decimal digits * 10 ^ exponent)
  | point {whole fraction tail : List Char} {exponent : Int} : IsDecimal (whole ++ fraction) →
      DenotesExponent tail exponent →
      DenotesDecimal (whole ++ '.' :: (fraction ++ tail))
        ((decimal whole + decimal fraction / 10 ^ fraction.length) * 10 ^ exponent)

theorem exponentSize_saturates (digits : List Char) :
    exponentSize digits ≤ decimal digits ∧
      (exponentSize digits = decimal digits ∨ exponentLimit ≤ exponentSize digits) := by
  rw [← ofDigits_eq_decimal, exponentSize, ofDigits]
  have general (digits : List Char) : ∀ size total : Nat, size ≤ total →
      (size = total ∨ exponentLimit ≤ size) →
      let sized := digits.foldl (fun total digit =>
        if total < exponentLimit then total * 10 + (digit.toNat - '0'.toNat) else total) size
      let read := digits.foldl (fun total digit => total * 10 + (digit.toNat - '0'.toNat)) total
      sized ≤ read ∧ (sized = read ∨ exponentLimit ≤ sized) := by
    induction digits with
    | nil => exact fun _ _ below exact => ⟨below, exact⟩
    | cons digit rest ih =>
        intro size total below exact
        simp only [List.foldl_cons]
        apply ih <;> split <;> omega
  exact general digits 0 0 (Nat.le_refl 0) (Or.inl rfl)

/-- The exponent that is read: the one that is written, or a smaller one of the same sign that is
still beyond the limit. -/
def ReadsAs (written read : Int) : Prop :=
  read = written ∨ (exponentLimit : Int) ≤ read ∧ read ≤ written ∨
    written ≤ read ∧ read ≤ -(exponentLimit : Int)

theorem exponent?_of_denotes {tail : List Char} {written : Int}
    (denotes : DenotesExponent tail written) :
    ∃ read, exponent? tail = some read ∧ ReadsAs written read := by
  cases denotes with
  | absent => exact ⟨0, rfl, Or.inl rfl⟩
  | @present mark size _ isMark isInteger =>
      have marked : (decide (mark = 'e') || decide (mark = 'E')) = true := by simpa using isMark
      have sized (negative : Bool) (digits : List Char) (isDecimal : IsDecimal digits)
          (splits : splitSign size = (negative, digits)) :
          exponent? (mark :: size) =
            some (if negative then -(exponentSize digits : Int) else exponentSize digits) := by
        have found : (natural? digits).isSome = true := by
          rw [natural?_eq_some_iff.mpr ⟨isDecimal, rfl⟩]
          rfl
        simp only [exponent?, splits, marked, found, Bool.and_self, if_true]
      cases isInteger with
      | unsigned digits =>
          have saturates := exponentSize_saturates size
          refine ⟨_, sized false size digits (splitSign_of_isDecimal digits), ?_⟩
          simp only [ReadsAs, Bool.false_eq_true, if_false]
          omega
      | @plus digits isDecimal =>
          have saturates := exponentSize_saturates digits
          refine ⟨_, sized false digits isDecimal rfl, ?_⟩
          simp only [ReadsAs, Bool.false_eq_true, if_false]
          omega
      | @minus digits isDecimal =>
          have saturates := exponentSize_saturates digits
          refine ⟨_, sized true digits isDecimal rfl, ?_⟩
          simp only [ReadsAs, if_true]
          omega

theorem exists_denotes_of_exponent? {tail : List Char} {read : Int}
    (found : exponent? tail = some read) : ∃ written, DenotesExponent tail written := by
  cases tail with
  | nil => exact ⟨0, .absent⟩
  | cons mark size =>
      simp only [exponent?] at found
      split at found
      · rename_i complete
        simp only [Bool.and_eq_true, Bool.or_eq_true, decide_eq_true_eq] at complete
        obtain ⟨number, natural⟩ := Option.isSome_iff_exists.mp complete.2
        obtain ⟨integer, denotes⟩ : ∃ integer, integer? size = some integer := by
          simp only [integer?, natural]
          exact ⟨_, rfl⟩
        exact ⟨integer, .present complete.1 (integer?_eq_some_iff.mp denotes)⟩
      · cases found

theorem span_of_denotesExponent {digits tail : List Char} {exponent : Int}
    (isDigits : ∀ digit ∈ digits, digit.isDigit = true) (denotes : DenotesExponent tail exponent) :
    (digits ++ tail).takeWhile Char.isDigit = digits ∧
      (digits ++ tail).dropWhile Char.isDigit = tail := by
  rw [List.takeWhile_append_of_pos isDigits, List.dropWhile_append_of_pos isDigits]
  cases denotes with
  | absent => exact ⟨List.append_nil _, rfl⟩
  | @present mark size _ isMark =>
      have stops : mark.isDigit = false := by rcases isMark with rfl | rfl <;> decide
      simp [stops]

theorem decimal_cons (digit : Char) (digits : List Char) :
    decimal (digit :: digits) =
      (digit.toNat - '0'.toNat) * 10 ^ digits.length + decimal digits := by
  simp only [decimal, List.reverse_cons, List.map_append, Nat.ofDigits_append, List.map_cons,
    List.map_nil, Nat.ofDigits_singleton, List.length_map, List.length_reverse]
  ring

theorem decimal_append (front back : List Char) :
    decimal (front ++ back) = decimal front * 10 ^ back.length + decimal back := by
  simp only [decimal, List.reverse_append, List.map_append, Nat.ofDigits_append, List.length_map,
    List.length_reverse]
  ring

theorem decimal_lt {digits : List Char} (isDigits : ∀ digit ∈ digits, digit.isDigit = true) :
    decimal digits < 10 ^ digits.length := by
  induction digits with
  | nil => decide
  | cons digit rest ih =>
      obtain ⟨first, others⟩ := List.forall_mem_cons.mp isDigits
      have range := Text.toNat_of_isDigit first
      have bound := ih others
      have most : (digit.toNat - '0'.toNat) * 10 ^ rest.length ≤ 9 * 10 ^ rest.length :=
        Nat.mul_le_mul_right _ (by change digit.toNat - 48 ≤ 9; omega)
      rw [decimal_cons, List.length_cons, Nat.pow_succ]
      omega

theorem decimal_dropWhile_zeros (digits : List Char) :
    decimal (digits.dropWhile (· = '0')) = decimal digits := by
  induction digits with
  | nil => rfl
  | cons digit rest ih =>
      by_cases zero : digit = '0'
      · subst zero
        rw [List.dropWhile_cons_of_pos (by simp), ih, decimal_cons]
        simp
      · rw [List.dropWhile_cons_of_neg (by simpa using zero)]

theorem le_decimal {digit : Char} {digits : List Char} (isDigit : digit.isDigit = true)
    (nonzero : digit ≠ '0') : 10 ^ digits.length ≤ decimal (digit :: digits) := by
  have range := Text.toNat_of_isDigit isDigit
  have other : digit.toNat ≠ 48 := fun same => nonzero (Char.toNat_inj.mp same)
  have least : 1 * 10 ^ digits.length ≤ (digit.toNat - '0'.toNat) * 10 ^ digits.length :=
    Nat.mul_le_mul_right _ (by change 1 ≤ digit.toNat - 48; omega)
  rw [decimal_cons]
  omega

namespace Decimal

def number (decimal : Decimal) : ℚ :=
  Number.decimal decimal.digits * 10 ^ decimal.exponent

end Decimal

/-- The numbers of the format lie within the powers of ten that are told apart. -/
structure BinaryFormat.InRange (format : BinaryFormat) : Prop where
  wide : 0 < format.fractionBits
  great : format.value format.infinity ≤ 10 ^ 400
  small : 2 * 10 ^ (-401 : Int) ≤ format.value 1

theorem BinaryFormat.inRange_of_bits {format : BinaryFormat} (wide : 0 < format.fractionBits)
    (signed : 0 < format.exponentBits) (few : 2 ^ (format.exponentBits - 1) ≤ 3 * 400)
    (least : -1202 ≤ format.leastExponent) : format.InRange := by
  refine ⟨wide, ?_, ?_⟩
  · calc format.value format.infinity = 2 ^ 2 ^ (format.exponentBits - 1) := value_infinity signed
      _ ≤ 2 ^ (3 * 400) := pow_le_pow_right₀ (by norm_num) few
      _ = (2 ^ 3) ^ 400 := pow_mul _ _ _
      _ ≤ 10 ^ 400 := pow_le_pow_left₀ (by norm_num) (by norm_num) 400
  · have one : format.value 1 = 2 ^ format.leastExponent := by
      rw [value, steps_of_lt (Nat.one_lt_two_pow wide.ne'), Nat.cast_one, one_mul]
    have eighth : (10 : ℚ) ^ (-401 : Int) ≤ (2 ^ 3) ^ (-401 : Int) := by
      rw [zpow_neg, zpow_neg]
      exact inv_anti₀ (by positivity) (zpow_le_zpow_left₀ (by norm_num) (by norm_num) (by norm_num))
    calc 2 * (10 : ℚ) ^ (-401 : Int) ≤ 2 * (2 ^ 3) ^ (-401 : Int) :=
          mul_le_mul_of_nonneg_left eighth (by norm_num)
      _ = 2 ^ (1 : Int) * 2 ^ (3 * (-401) : Int) := by
          rw [zpow_one, zpow_mul]
          rfl
      _ = 2 ^ (-1202 : Int) := by
          rw [← zpow_add₀ (by norm_num)]
          rfl
      _ ≤ format.value 1 := by
          rw [one]
          exact zpow_le_zpow_right₀ (by norm_num) least

theorem inRange_binary32 : binary32.InRange :=
  BinaryFormat.inRange_of_bits (by decide) (by decide) (by decide) (by decide)

theorem inRange_binary64 : binary64.InRange :=
  BinaryFormat.inRange_of_bits (by decide) (by decide) (by decide) (by decide)

namespace Decimal

variable {format : BinaryFormat} {digits : List Char} {exponent : Int}

theorem number_lt (isDigits : ∀ digit ∈ digits, digit.isDigit = true) (exponent : Int) :
    (⟨digits, exponent⟩ : Decimal).number < 10 ^ (digits.length + exponent) := by
  have below : (Number.decimal digits : ℚ) < 10 ^ digits.length := by
    exact_mod_cast decimal_lt isDigits
  rw [zpow_add₀ (by norm_num), zpow_natCast]
  exact mul_lt_mul_of_pos_right below (by positivity)

theorem le_number {first : Char} (isDigit : first.isDigit = true) (nonzero : first ≠ '0')
    (rest : List Char) (exponent : Int) :
    (10 : ℚ) ^ (rest.length + exponent) ≤ (⟨first :: rest, exponent⟩ : Decimal).number := by
  have above : (10 : ℚ) ^ rest.length ≤ Number.decimal (first :: rest) := by
    exact_mod_cast le_decimal isDigit nonzero
  rw [zpow_add₀ (by norm_num), zpow_natCast]
  exact mul_le_mul_of_nonneg_right above (by positivity)

theorem number_nonneg (decimal : Decimal) : 0 ≤ decimal.number := by
  unfold number
  positivity

theorem number_dropWhile_zeros (digits : List Char) (exponent : Int) :
    (⟨digits.dropWhile (· = '0'), exponent⟩ : Decimal).number =
      (⟨digits, exponent⟩ : Decimal).number := by
  rw [number, number, decimal_dropWhile_zeros]

theorem nearest_of_small (inRange : format.InRange)
    (isDigits : ∀ digit ∈ digits, digit.isDigit = true)
    (small : digits.length + exponent < -extreme) :
    format.Nearest (⟨digits, exponent⟩ : Decimal).number 0 := by
  have below := number_lt isDigits exponent
  have least : (10 : ℚ) ^ (digits.length + exponent) ≤ 10 ^ (-401 : Int) :=
    zpow_le_zpow_right₀ (by norm_num) (by unfold extreme at small; omega)
  exact BinaryFormat.nearest_zero (by linarith [inRange.small]) (number_nonneg _)

theorem nearest_of_great (inRange : format.InRange) {first : Char} {rest : List Char}
    (isDigit : first.isDigit = true) (nonzero : first ≠ '0')
    (great : extreme < (first :: rest).length + exponent) :
    format.Nearest (⟨first :: rest, exponent⟩ : Decimal).number format.infinity := by
  have above : (10 : ℚ) ^ (400 : Int) ≤ 10 ^ (rest.length + exponent) := by
    rw [extreme, List.length_cons] at great
    exact zpow_le_zpow_right₀ (by norm_num) (by omega)
  rw [zpow_ofNat] at above
  exact BinaryFormat.nearest_infinity
    ((inRange.great.trans above).trans (le_number isDigit nonzero rest exponent))

theorem nearest_ofRatio (inRange : format.InRange) (digits : List Char) (exponent : Int) :
    format.Nearest (⟨digits, exponent⟩ : Decimal).number
      (if 0 ≤ exponent then format.ofRatio (Number.decimal digits * 10 ^ exponent.toNat) 1
        else format.ofRatio (Number.decimal digits) (10 ^ (-exponent).toNat)) := by
  unfold number
  split
  · rename_i up
    rw [zpow_of_nonneg up]
    simpa using BinaryFormat.ofRatio_nearest inRange.wide
      (Number.decimal digits * 10 ^ exponent.toNat) Nat.one_pos
  · rename_i down
    rw [zpow_of_neg (not_le.mp down), ← div_eq_mul_inv]
    have positive : 0 < 10 ^ (-exponent).toNat := Nat.pow_pos (by decide)
    simpa using BinaryFormat.ofRatio_nearest inRange.wide (Number.decimal digits) positive

theorem toPattern_nearest (inRange : format.InRange)
    (isDigits : ∀ digit ∈ digits, digit.isDigit = true) (exponent : Int) :
    format.Nearest (⟨digits, exponent⟩ : Decimal).number
      ((⟨digits, exponent⟩ : Decimal).toPattern format) := by
  have significantDigits : ∀ digit ∈ digits.dropWhile (· = '0'), digit.isDigit = true :=
    fun digit member => isDigits digit ((List.dropWhile_sublist _).subset member)
  have leading := List.head?_dropWhile_not (· = '0') digits
  rw [← number_dropWhile_zeros]
  unfold toPattern
  dsimp only
  generalize digits.dropWhile (· = '0') = significant at *
  cases significant with
  | nil =>
      -- Zero has no digits but zeros, so its exponent does not count.
      have least := format.value_nonneg 1
      exact BinaryFormat.nearest_zero (by simpa [number, Number.decimal] using least)
        (number_nonneg _)
  | cons first rest =>
      have nonzero : first ≠ '0' := by simpa using leading
      have isDigit := significantDigits first List.mem_cons_self
      rw [List.isEmpty_cons, Bool.false_or, ofDigits_eq_decimal]
      split
      · rename_i small
        exact nearest_of_small inRange significantDigits (of_decide_eq_true small)
      · split
        · rename_i great
          exact nearest_of_great inRange isDigit nonzero great
        · exact nearest_ofRatio inRange (first :: rest) exponent

theorem toPattern_of_readsAs {places : Nat} {written read : Int} (readsAs : ReadsAs written read)
    (behind : places ≤ digits.length) (short : digits.length + 400 < exponentLimit) :
    (⟨digits, read - places⟩ : Decimal).toPattern format =
      (⟨digits, written - places⟩ : Decimal).toPattern format := by
  have fewer := (List.dropWhile_sublist (· = '0') (l := digits)).length_le
  unfold toPattern extreme
  dsimp only
  generalize digits.dropWhile (· = '0') = significant at *
  rcases readsAs with rfl | ⟨high, higher⟩ | ⟨lower, low⟩
  · rfl
  · cases significant with
    | nil => rfl
    | cons first rest =>
        rw [List.isEmpty_cons, Bool.false_or, Bool.false_or, if_neg (by simpa using by omega),
          if_pos (by omega), if_neg (by simpa using by omega), if_pos (by omega)]
  · rw [if_pos, if_pos] <;> simp only [Bool.or_eq_true, decide_eq_true_eq] <;> omega

end Decimal

theorem decimal?_whole {digits tail : List Char} {exponent : Int} (isDecimal : IsDecimal digits)
    (denotes : DenotesExponent tail exponent) :
    decimal? (digits ++ tail) = (exponent? tail).map fun read => ⟨digits, read - (0 : Nat)⟩ := by
  obtain ⟨taken, dropped⟩ := span_of_denotesExponent isDecimal.2 denotes
  have nonempty : digits.isEmpty = false := by simpa using isDecimal.1
  simp only [decimal?, taken, dropped]
  cases denotes with
  | absent => simp [nonempty]
  | present isMark => rcases isMark with rfl | rfl <;> simp [nonempty]

theorem decimal?_point {whole fraction tail : List Char} {exponent : Int}
    (isDecimal : IsDecimal (whole ++ fraction)) (denotes : DenotesExponent tail exponent) :
    decimal? (whole ++ '.' :: (fraction ++ tail)) =
      (exponent? tail).map fun read => ⟨whole ++ fraction, read - fraction.length⟩ := by
  obtain ⟨wholeDigits, fractionDigits⟩ := List.forall_mem_append.mp isDecimal.2
  obtain ⟨taken, dropped⟩ := span_of_denotesExponent fractionDigits denotes
  have takenWhole : (whole ++ '.' :: (fraction ++ tail)).takeWhile Char.isDigit = whole := by
    rw [List.takeWhile_append_of_pos wholeDigits, List.takeWhile_cons_of_neg (by decide),
      List.append_nil]
  have droppedWhole : (whole ++ '.' :: (fraction ++ tail)).dropWhile Char.isDigit =
      '.' :: (fraction ++ tail) := by
    rw [List.dropWhile_append_of_pos wholeDigits, List.dropWhile_cons_of_neg (by decide)]
  have nonempty : (whole ++ fraction).isEmpty = false := by simpa using isDecimal.1
  simp only [decimal?, takenWhole, droppedWhole, taken, dropped, nonempty, Bool.false_eq_true,
    if_false]

theorem decimal?_of_denotes {chars : List Char} {number : ℚ}
    (denotes : DenotesDecimal chars number) :
    ∃ digits places written read,
      decimal? chars = some ⟨digits, read - (places : Nat)⟩ ∧
      (∀ digit ∈ digits, digit.isDigit = true) ∧ digits.length ≤ chars.length ∧
      places ≤ digits.length ∧ ReadsAs written read ∧
      number = (⟨digits, written - places⟩ : Decimal).number := by
  cases denotes with
  | @whole digits tail written isDecimal denotes =>
      obtain ⟨read, found, readsAs⟩ := exponent?_of_denotes denotes
      refine ⟨digits, 0, written, read, ?_, isDecimal.2, ?_, Nat.zero_le _, readsAs, ?_⟩
      · rw [decimal?_whole isDecimal denotes, found]
        rfl
      · simp
      · simp [Decimal.number]
  | @point whole fraction tail written isDecimal denotes =>
      obtain ⟨read, found, readsAs⟩ := exponent?_of_denotes denotes
      refine ⟨whole ++ fraction, fraction.length, written, read, ?_, isDecimal.2, ?_, ?_, readsAs,
        ?_⟩
      · rw [decimal?_point isDecimal denotes, found]
        rfl
      · simp
        omega
      · simp
      · rw [Decimal.number, decimal_append, zpow_sub₀ (by norm_num), zpow_natCast]
        push_cast
        field_simp

theorem isDigit_of_mem_takeWhile {chars : List Char} :
    ∀ digit ∈ chars.takeWhile Char.isDigit, digit.isDigit = true :=
  List.all_eq_true.mp List.all_takeWhile

theorem exists_denotes_of_decimal? {chars : List Char} {decimal : Decimal}
    (found : decimal? chars = some decimal) : ∃ number, DenotesDecimal chars number := by
  have split := List.takeWhile_append_dropWhile (p := Char.isDigit) (l := chars)
  have wholeDigits := @isDigit_of_mem_takeWhile chars
  unfold decimal? at found
  generalize chars.takeWhile Char.isDigit = whole at *
  generalize chars.dropWhile Char.isDigit = rest at *
  subst split
  simp only [Option.ite_none_left_eq_some, Option.map_eq_some_iff, List.isEmpty_iff] at found
  split at found
  · rename_i afterPoint
    obtain ⟨nonempty, exponent, read, _⟩ := found
    obtain ⟨written, denotes⟩ := exists_denotes_of_exponent? read
    have isDecimal : IsDecimal (whole ++ afterPoint.takeWhile Char.isDigit) :=
      ⟨nonempty, List.forall_mem_append.mpr ⟨wholeDigits, isDigit_of_mem_takeWhile⟩⟩
    have point := DenotesDecimal.point isDecimal denotes
    rw [List.takeWhile_append_dropWhile] at point
    exact ⟨_, point⟩
  · obtain ⟨nonempty, exponent, read, _⟩ := found
    obtain ⟨written, denotes⟩ := exists_denotes_of_exponent? read
    exact ⟨_, .whole ⟨by simpa using nonempty, wholeDigits⟩ denotes⟩

/-- The text is a decimal form of a number, and the pattern is that of the nearest one of the
format; or it is one of the words. -/
inductive DenotesMagnitude (format : BinaryFormat) : List Char → Nat → Prop
  | number {chars : List Char} {number : ℚ} {pattern : Nat} : DenotesDecimal chars number →
      format.Nearest number pattern → DenotesMagnitude format chars pattern
  | infinity {chars : List Char} :
      chars.map Char.toLower = "inf".toList ∨ chars.map Char.toLower = "infinity".toList →
      DenotesMagnitude format chars format.infinity
  | notANumber {chars : List Char} : chars.map Char.toLower = "nan".toList →
      DenotesMagnitude format chars (format.infinity + format.quietBit)

inductive DenotesFloat (format : BinaryFormat) : List Char → Nat → Prop
  | unsigned {chars : List Char} {pattern : Nat} : DenotesMagnitude format chars pattern →
      DenotesFloat format chars pattern
  | plus {chars : List Char} {pattern : Nat} : DenotesMagnitude format chars pattern →
      DenotesFloat format ('+' :: chars) pattern
  | minus {chars : List Char} {pattern : Nat} : DenotesMagnitude format chars pattern →
      DenotesFloat format ('-' :: chars) (format.signBit + pattern)

variable {format : BinaryFormat} {chars : List Char} {pattern : Nat}

theorem decimal?_eq_some_iff (inRange : format.InRange)
    (short : chars.length + 400 < exponentLimit) :
    (decimal? chars).map (·.toPattern format) = some pattern ↔
      ∃ number, DenotesDecimal chars number ∧ format.Nearest number pattern := by
  have rounds {number : ℚ} (denotes : DenotesDecimal chars number) :
      ∃ pattern, (decimal? chars).map (·.toPattern format) = some pattern ∧
        format.Nearest number pattern := by
    obtain ⟨digits, places, written, read, found, isDigits, fewer, behind, readsAs, rfl⟩ :=
      decimal?_of_denotes denotes
    refine ⟨_, by rw [found, Option.map_some], ?_⟩
    rw [Decimal.toPattern_of_readsAs readsAs behind (by omega)]
    exact Decimal.toPattern_nearest inRange isDigits _
  constructor
  · intro read
    obtain ⟨decimal, found, _⟩ := Option.map_eq_some_iff.mp read
    obtain ⟨number, denotes⟩ := exists_denotes_of_decimal? found
    obtain ⟨nearest, same, isNearest⟩ := rounds denotes
    rw [read, Option.some.injEq] at same
    exact ⟨number, denotes, same ▸ isNearest⟩
  · rintro ⟨number, denotes, isNearest⟩
    obtain ⟨nearest, same, isNearestToo⟩ := rounds denotes
    rw [same, isNearestToo.unique isNearest]

theorem head_of_denotesDecimal {number : ℚ} (denotes : DenotesDecimal chars number) :
    ∃ first rest, chars = first :: rest ∧ (first.isDigit = true ∨ first = '.') := by
  cases denotes with
  | @whole digits tail _ isDecimal =>
      cases digits with
      | nil => exact absurd rfl isDecimal.1
      | cons first rest =>
          exact ⟨first, rest ++ tail, rfl, Or.inl (isDecimal.2 first List.mem_cons_self)⟩
  | @point whole fraction tail _ isDecimal =>
      cases whole with
      | nil => exact ⟨'.', fraction ++ tail, rfl, Or.inr rfl⟩
      | cons first rest =>
          exact ⟨first, _, rfl, Or.inl (isDecimal.2 first List.mem_cons_self)⟩

theorem toLower_ne_of_denotesDecimal {number : ℚ} (denotes : DenotesDecimal chars number)
    (letter : Char) (lower : letter.isLower = true) (ending : List Char) :
    chars.map Char.toLower ≠ letter :: ending := by
  intro spelled
  obtain ⟨first, rest, rfl, isFirst⟩ := head_of_denotesDecimal denotes
  have bounds := Text.toNat_of_isLower lower
  have range : first.toNat < 65 := by
    rcases isFirst with isDigit | rfl
    · have range := Text.toNat_of_isDigit isDigit
      omega
    · decide
  have same := (List.cons.inj spelled).1
  rw [Text.toLower_eq_self (by omega)] at same
  subst same
  omega

theorem unsignedFloat?_eq_some_iff (inRange : format.InRange)
    (short : chars.length + 400 < exponentLimit) :
    unsignedFloat? format chars = some pattern ↔ DenotesMagnitude format chars pattern := by
  have spelled (word : String) : String.ofList (chars.map Char.toLower) = word ↔
      chars.map Char.toLower = word.toList :=
    ⟨fun same => by rw [← same, String.toList_ofList],
      fun same => by rw [same, String.ofList_toList]⟩
  simp only [unsignedFloat?, Bool.or_eq_true, decide_eq_true_eq, spelled]
  constructor
  · intro read
    split at read
    · rename_i infinite
      cases read
      exact .infinity infinite
    · split at read
      · rename_i notANumber
        cases read
        exact .notANumber notANumber
      · obtain ⟨number, denotes, isNearest⟩ := (decimal?_eq_some_iff inRange short).mp read
        exact .number denotes isNearest
  · intro denotes
    cases denotes with
    | number isDecimal isNearest =>
        have notWord := toLower_ne_of_denotesDecimal isDecimal
        have finite : ¬(chars.map Char.toLower = "inf".toList ∨
            chars.map Char.toLower = "infinity".toList) :=
          not_or.mpr ⟨notWord 'i' rfl _, notWord 'i' rfl _⟩
        have isNumber : chars.map Char.toLower ≠ "nan".toList := notWord 'n' rfl _
        rw [if_neg finite, if_neg isNumber]
        exact (decimal?_eq_some_iff inRange short).mpr ⟨_, isDecimal, isNearest⟩
    | infinity infinite => rw [if_pos infinite]
    | notANumber word => rw [word, if_neg (by decide), if_pos rfl]

theorem splitSign_of_denotesMagnitude (denotes : DenotesMagnitude format chars pattern) :
    splitSign chars = (false, chars) := by
  have unsigned (sign : Char) (rest : List Char) (isSign : sign = '-' ∨ sign = '+') :
      ¬ DenotesMagnitude format (sign :: rest) pattern := by
    intro denotes
    have same : sign.toLower = sign := by rcases isSign with rfl | rfl <;> decide
    cases denotes with
    | number isDecimal =>
        obtain ⟨first, tail, together, isFirst⟩ := head_of_denotesDecimal isDecimal
        obtain ⟨rfl, _⟩ := List.cons.inj together
        rcases isSign with rfl | rfl <;> revert isFirst <;> decide
    | infinity infinite =>
        rw [List.map_cons, same] at infinite
        rcases isSign with rfl | rfl <;> rcases infinite with word | word <;>
          cases (List.cons.inj word).1
    | notANumber word =>
        rw [List.map_cons, same] at word
        rcases isSign with rfl | rfl <;> cases (List.cons.inj word).1
  fun_cases splitSign chars with
  | case1 rest => exact absurd denotes (unsigned '-' rest (Or.inl rfl))
  | case2 rest => exact absurd denotes (unsigned '+' rest (Or.inr rfl))
  | case3 => rfl

/-- A text is read as a pattern exactly if it denotes the pattern's number, or infinity or no
number. The bound on the length keeps an exponent that is not read to its end out of reach of the
digits. -/
theorem float?_eq_some_iff (inRange : format.InRange)
    (short : chars.length + 400 < exponentLimit) :
    float? format chars = some pattern ↔ DenotesFloat format chars pattern := by
  have magnitude {rest : List Char} {pattern : Nat} (shorter : rest.length ≤ chars.length) :
      unsignedFloat? format rest = some pattern ↔ DenotesMagnitude format rest pattern :=
    unsignedFloat?_eq_some_iff inRange (by omega)
  constructor
  · intro read
    simp only [float?, Option.map_eq_some_iff] at read
    obtain ⟨unsigned, found, rfl⟩ := read
    unfold splitSign at found ⊢
    split at found
    · exact .minus ((magnitude (by simp)).mp found)
    · exact .plus ((magnitude (by simp)).mp found)
    · exact .unsigned ((magnitude (Nat.le_refl _)).mp found)
  · intro denotes
    cases denotes with
    | unsigned denotes =>
        simp [float?, splitSign_of_denotesMagnitude denotes,
          (magnitude (Nat.le_refl _)).mpr denotes]
    | plus denotes => simp [float?, splitSign, (magnitude (by simp)).mpr denotes]
    | minus denotes => simp [float?, splitSign, (magnitude (by simp)).mpr denotes]

end ColumnChecks.Number
