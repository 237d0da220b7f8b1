import ColumnChecks.Clause.Token
import ColumnChecks.Text.Hexadecimal

/-!
Splitting a clause into tokens. At each place the longest spelling of a token is taken, and blanks
separate tokens. Main statement: what a token is scanned from is its spelling and the rest.
-/

namespace ColumnChecks.Clause

def isSpace (char : Char) : Bool :=
  char = ' ' || char = '\t' || char = '\r' || char = '\n'

def isWordStart (char : Char) : Bool :=
  char.isAlpha || char = '_'

def isWordChar (char : Char) : Bool :=
  char.isAlphanum || char = '_'

/-- The text up to the quote that closes it, where a doubled quote does not, and what follows that
quote. -/
def untilQuote? (quote : Char) : List Char → Option (List Char × List Char)
  | [] => none
  | char :: rest =>
    if char = quote then
      match rest with
      | [] => some ([], [])
      | next :: after =>
        if next = quote then
          (untilQuote? quote after).map fun (content, rest) => (quote :: quote :: content, rest)
        else some ([], next :: after)
    else (untilQuote? quote rest).map fun (content, rest) => (char :: content, rest)

def fractionSpelling : List Char → List Char
  | '.' :: rest =>
    let digits := rest.takeWhile Char.isDigit
    if digits.isEmpty then [] else '.' :: digits
  | _ => []

def signSpelling : List Char → List Char
  | '+' :: _ => ['+']
  | '-' :: _ => ['-']
  | _ => []

def exponentSpelling : List Char → List Char
  | [] => []
  | mark :: rest =>
    let sign := signSpelling rest
    let digits := (rest.drop sign.length).takeWhile Char.isDigit
    if (mark = 'e' || mark = 'E') && !digits.isEmpty then mark :: sign ++ digits else []

def unsignedSpelling (chars : List Char) : List Char :=
  let digits := chars.takeWhile Char.isDigit
  if digits.isEmpty then []
  else
    let fraction := fractionSpelling (chars.drop digits.length)
    let whole := digits ++ fraction
    whole ++ exponentSpelling (chars.drop whole.length)

def numberSpelling : List Char → List Char
  | '-' :: rest =>
    let spelling := unsignedSpelling rest
    if spelling.isEmpty then [] else '-' :: spelling
  | chars => unsignedSpelling chars

def hexadecimalSpelling : List Char → List Char
  | '0' :: mark :: rest =>
    if mark = 'x' || mark = 'X' then '0' :: mark :: rest.takeWhile Text.isHexDigit else []
  | _ => []

def wordSpelling : List Char → List Char
  | [] => []
  | first :: rest => if isWordStart first then first :: rest.takeWhile isWordChar else []

structure Scanned where
  token : Token
  spelling : List Char
  rest : List Char

def scanSymbol? : List Char → Option Scanned
  | '=' :: rest => some ⟨.relation .equal, ['='], rest⟩
  | '!' :: '=' :: rest => some ⟨.relation .unequal, ['!', '='], rest⟩
  | '<' :: '>' :: rest => some ⟨.relation .unequal, ['<', '>'], rest⟩
  | '<' :: '=' :: rest => some ⟨.relation .atMost, ['<', '='], rest⟩
  | '>' :: '=' :: rest => some ⟨.relation .atLeast, ['>', '='], rest⟩
  | '<' :: rest => some ⟨.relation .less, ['<'], rest⟩
  | '>' :: rest => some ⟨.relation .greater, ['>'], rest⟩
  | '(' :: rest => some ⟨.openParen, ['('], rest⟩
  | ')' :: rest => some ⟨.closeParen, [')'], rest⟩
  | _ => none

def scanQuoted? : List Char → Option Scanned
  | '"' :: rest =>
    (untilQuote? '"' rest).map fun (content, rest) =>
      let spelling := '"' :: content ++ ['"']
      ⟨.quotedIdentifier (String.ofList spelling), spelling, rest⟩
  | '\'' :: rest =>
    (untilQuote? '\'' rest).map fun (content, rest) =>
      ⟨.string (String.ofList (Text.undoubled '\'' content)), '\'' :: content ++ ['\''], rest⟩
  | _ => none

def scanRun? (token : String → Token) (spelling chars : List Char) : Option Scanned :=
  if spelling.isEmpty then none
  else some ⟨token (String.ofList spelling), spelling, chars.drop spelling.length⟩

def scan? (chars : List Char) : Option Scanned :=
  (scanSymbol? chars).or <| (scanQuoted? chars).or <|
    (scanRun? .identifier (wordSpelling chars) chars).or <|
    (scanRun? .hexadecimal (hexadecimalSpelling chars) chars).or <|
    scanRun? .number (numberSpelling chars) chars

theorem untilQuote?_whole {quote : Char} {chars content rest : List Char}
    (found : untilQuote? quote chars = some (content, rest)) :
    chars = content ++ quote :: rest := by
  fun_induction untilQuote? quote chars generalizing content rest with
  | case1 => simp at found
  | case2 => simp_all
  | case3 after ih =>
    simp only [Option.map_eq_some_iff, Prod.exists, Prod.mk.injEq] at found
    obtain ⟨content', rest', found, rfl, rfl⟩ := found
    simp [ih found]
  | case4 => simp_all
  | case5 _ _ _ ih =>
    simp only [Option.map_eq_some_iff, Prod.exists, Prod.mk.injEq] at found
    obtain ⟨content', rest', found, rfl, rfl⟩ := found
    simp [ih found]

theorem fractionSpelling_leads (chars : List Char) : fractionSpelling chars <+: chars := by
  fun_cases fractionSpelling chars with
  | case1 => exact List.nil_prefix
  | case2 => exact (List.prefix_cons_inj _).mpr (List.takeWhile_prefix _)
  | case3 => exact List.nil_prefix

theorem signSpelling_leads (chars : List Char) : signSpelling chars <+: chars := by
  fun_cases signSpelling chars with
  | case1 => simp
  | case2 => simp
  | case3 => exact List.nil_prefix

theorem prefix_append_of_drop {first second chars : List Char} (head : first <+: chars)
    (tail : second <+: chars.drop first.length) : first ++ second <+: chars := by
  obtain ⟨rest, rfl⟩ := head
  simpa [List.prefix_append_right_inj] using tail

theorem exponentSpelling_leads (chars : List Char) : exponentSpelling chars <+: chars := by
  cases chars with
  | nil => exact List.nil_prefix
  | cons mark rest =>
    simp only [exponentSpelling]
    split
    · exact (List.prefix_cons_inj _).mpr
        (prefix_append_of_drop (signSpelling_leads rest) (List.takeWhile_prefix _))
    · exact List.nil_prefix

theorem unsignedSpelling_leads (chars : List Char) : unsignedSpelling chars <+: chars := by
  simp only [unsignedSpelling]
  split
  · exact List.nil_prefix
  · exact prefix_append_of_drop
      (prefix_append_of_drop (List.takeWhile_prefix _) (fractionSpelling_leads _))
      (exponentSpelling_leads _)

theorem numberSpelling_leads (chars : List Char) : numberSpelling chars <+: chars := by
  fun_cases numberSpelling chars with
  | case1 => exact List.nil_prefix
  | case2 => exact (List.prefix_cons_inj _).mpr (unsignedSpelling_leads _)
  | case3 => exact unsignedSpelling_leads _

theorem hexadecimalSpelling_leads (chars : List Char) : hexadecimalSpelling chars <+: chars := by
  fun_cases hexadecimalSpelling chars with
  | case1 =>
    exact (List.prefix_cons_inj _).mpr ((List.prefix_cons_inj _).mpr (List.takeWhile_prefix _))
  | case2 => exact List.nil_prefix
  | case3 => exact List.nil_prefix

theorem wordSpelling_leads (chars : List Char) : wordSpelling chars <+: chars := by
  cases chars with
  | nil => exact List.nil_prefix
  | cons first rest =>
    simp only [wordSpelling]
    split
    · exact (List.prefix_cons_inj _).mpr (List.takeWhile_prefix _)
    · exact List.nil_prefix

def Scanned.Splits (scanned : Scanned) (chars : List Char) : Prop :=
  chars = scanned.spelling ++ scanned.rest ∧ scanned.spelling ≠ []

theorem scanSymbol?_splits {chars : List Char} {scanned : Scanned}
    (found : scanSymbol? chars = some scanned) : scanned.Splits chars := by
  unfold scanSymbol? at found
  split at found <;> simp_all [Scanned.Splits] <;> subst found <;> simp

theorem scanQuoted?_splits {chars : List Char} {scanned : Scanned}
    (found : scanQuoted? chars = some scanned) : scanned.Splits chars := by
  unfold scanQuoted? at found
  split at found
  · simp only [Option.map_eq_some_iff, Prod.exists] at found
    obtain ⟨content, rest, found, rfl⟩ := found
    simp [Scanned.Splits, untilQuote?_whole found]
  · simp only [Option.map_eq_some_iff, Prod.exists] at found
    obtain ⟨content, rest, found, rfl⟩ := found
    simp [Scanned.Splits, untilQuote?_whole found]
  · simp at found

theorem scanRun?_splits {token : String → Token} {spelling chars : List Char} {scanned : Scanned}
    (head : spelling <+: chars) (found : scanRun? token spelling chars = some scanned) :
    scanned.Splits chars := by
  obtain ⟨rest, rfl⟩ := head
  unfold scanRun? at found
  split at found
  · simp at found
  · rename_i nonempty
    simp only [Option.some.injEq] at found
    subst found
    simp_all [Scanned.Splits]

theorem scan?_splits {chars : List Char} {scanned : Scanned} (found : scan? chars = some scanned) :
    scanned.Splits chars := by
  simp only [scan?, Option.or_eq_some_iff] at found
  rcases found with found | ⟨_, found | ⟨_, found | ⟨_, found | ⟨_, found⟩⟩⟩⟩
  · exact scanSymbol?_splits found
  · exact scanQuoted?_splits found
  · exact scanRun?_splits (wordSpelling_leads chars) found
  · exact scanRun?_splits (hexadecimalSpelling_leads chars) found
  · exact scanRun?_splits (numberSpelling_leads chars) found

theorem length_rest_lt {chars : List Char} {scanned : Scanned}
    (found : scan? chars = some scanned) : scanned.rest.length < chars.length := by
  obtain ⟨whole, nonempty⟩ := scan?_splits found
  have positive := List.length_pos_iff.mpr nonempty
  simp [whole]
  omega

/-- The text that a message shows where no token starts: all that follows a quote which is not
closed, and one character otherwise. -/
def unknownSlice : List Char → List Char
  | [] => []
  | char :: rest => if char = '"' || char = '\'' then char :: rest else [char]

def lexFrom (offset : Nat) (chars : List Char) : Except SyntaxError (List Lexeme) :=
  match chars with
  | [] => .ok []
  | char :: rest =>
    if isSpace char then lexFrom (offset + 1) rest
    else
      match _found : scan? (char :: rest) with
      | some scanned => do
        let lexemes ← lexFrom (offset + Text.byteLength scanned.spelling) scanned.rest
        return ⟨scanned.token, offset⟩ :: lexemes
      | none => .error (.unknownText (String.ofList (unknownSlice (char :: rest))) offset)
termination_by chars.length
decreasing_by
  · simp
  · exact length_rest_lt _found

def lex (clause : String) : Except SyntaxError (List Lexeme) :=
  lexFrom 0 clause.toList

end ColumnChecks.Clause
