import ColumnChecks.Number.Integer
import ColumnChecks.Number.Shortest
import ColumnChecks.Text.Hexadecimal

/-!
Scanning JSON text from left to right. The first problem in the text is the one that is reported.
-/

namespace ColumnChecks.Json

inductive SyntaxError where
  | endOfValue
  | endOfObject
  | endOfList
  | endOfString
  | expectedValue
  | expectedWord
  | expectedColon
  | expectedMemberEnd
  | expectedElementEnd
  | keyNotString
  | trailingComma
  | trailingCharacters
  | invalidNumber
  | numberOutOfRange
  | invalidEscape
  | loneSurrogate
  | unfinishedPair
  | controlCharacter
  deriving DecidableEq

def SyntaxError.message : SyntaxError → String
  | endOfValue => "EOF while parsing a value"
  | endOfObject => "EOF while parsing an object"
  | endOfList => "EOF while parsing a list"
  | endOfString => "EOF while parsing a string"
  | expectedValue => "expected value"
  | expectedWord => "expected ident"
  | expectedColon => "expected `:`"
  | expectedMemberEnd => "expected `,` or `\x7d`"
  | expectedElementEnd => "expected `,` or `]`"
  | keyNotString => "key must be a string"
  | trailingComma => "trailing comma"
  | trailingCharacters => "trailing characters"
  | invalidNumber => "invalid number"
  | numberOutOfRange => "number out of range"
  | invalidEscape => "invalid escape"
  | loneSurrogate => "lone leading surrogate in hex escape"
  | unfinishedPair => "unexpected end of hex escape"
  | controlCharacter => "control character (\\u0000-\\u001F) found while parsing a string"

abbrev Scanner := StateT (List Char) (Except SyntaxError)

namespace Scanner

def isBlank (char : Char) : Bool :=
  char = ' ' || char = '\n' || char = '\t' || char = '\r'

def peek? : Scanner (Option Char) := do
  return (← get).head?

def next? : Scanner (Option Char) := do
  let chars ← get
  set chars.tail
  return chars.head?

def advance : Scanner Unit :=
  modify List.tail

def peekPastBlanks? : Scanner (Option Char) := do
  modify (·.dropWhile isBlank)
  peek?

def digits : Scanner (List Char) := do
  let chars ← get
  set (chars.dropWhile Char.isDigit)
  return chars.takeWhile Char.isDigit

def word : List Char → Scanner Unit
  | [] => return
  | expected :: rest => do
    match ← next? with
    | none => throw .endOfValue
    | some char => if char = expected then word rest else throw .expectedWord

end Scanner

open Scanner

/-! ### Strings -/

/-- Takes four hexadecimal digits. A text that ends within four bytes is unfinished. -/
def hexEscape : Scanner Nat := fun chars =>
  let four := chars.take 4
  if Text.byteLength four < 4 then .error .endOfString
  else
    match four.mapM Text.hexDigit? with
    | some digits => .ok (digits.foldl (fun total digit => total * 16 + digit) 0, chars.drop 4)
    | none => .error .invalidEscape

def isLeading (unit : Nat) : Bool :=
  0xD800 ≤ unit && unit ≤ 0xDBFF

def isTrailing (unit : Nat) : Bool :=
  0xDC00 ≤ unit && unit ≤ 0xDFFF

def pairMark (expected : Char) : Scanner Unit := do
  match ← peek? with
  | none => throw .endOfString
  | some char => if char = expected then advance else throw .unfinishedPair

def numberedChar : Scanner Char := do
  let first ← hexEscape
  if isTrailing first then throw .loneSurrogate
  else if isLeading first then
    pairMark '\\'
    pairMark 'u'
    let second ← hexEscape
    if isTrailing second then
      return Char.ofNat ((first - 0xD800) * 0x400 + (second - 0xDC00) + 0x10000)
    else throw .loneSurrogate
  else return Char.ofNat first

def escapeLetter? : Char → Option Char
  | '"' => some '"'
  | '\\' => some '\\'
  | '/' => some '/'
  | 'b' => some '\x08'
  | 'f' => some '\x0C'
  | 'n' => some '\n'
  | 'r' => some '\r'
  | 't' => some '\t'
  | _ => none

def escapeWith (numbered : Scanner (List Char)) : Scanner (List Char) := do
  match ← next? with
  | none => throw .endOfString
  | some 'u' => numbered
  | some letter =>
    match escapeLetter? letter with
    | some char => return [char]
    | none => throw .invalidEscape

def escape : Scanner (List Char) :=
  escapeWith do return [← numberedChar]

/-- An escape of a string that is passed over, where surrogates need not be paired. -/
def ignoredEscape : Scanner (List Char) :=
  escapeWith do
    let _ ← hexEscape
    return []

/-- The rest of a string, behind the characters already taken. Each round takes a character, so the
text itself counts the rounds. -/
def stringFrom (escape : Scanner (List Char)) :
    (rounds reversed chars : List Char) → Except SyntaxError (String × List Char)
  | [], _, _ => .error .endOfString
  | _, _, [] => .error .endOfString
  | _ :: _, reversed, '"' :: rest => .ok (String.ofList reversed.reverse, rest)
  | _ :: rounds, reversed, '\\' :: rest =>
    match escape rest with
    | .error error => .error error
    | .ok (text, rest) => stringFrom escape rounds (text.reverse ++ reversed) rest
  | _ :: rounds, reversed, char :: rest =>
    if char.toNat < 0x20 then .error .controlCharacter
    else stringFrom escape rounds (char :: reversed) rest

def string : Scanner String := fun chars =>
  stringFrom escape chars [] chars

def skipString : Scanner Unit := fun chars => do
  let (_, rest) ← stringFrom ignoredEscape chars [] chars
  return ((), rest)

/-! ### Numbers -/

inductive Number where
  | integer (value : Int)
  | float (bits : Nat)
  deriving DecidableEq

/-- The value of the longest run of digits that fits 64 bits, behind those of the given value, and
the number of digits left over. -/
def significandFrom (value : Nat) : List Char → Nat × Nat
  | [] => (value, 0)
  | digit :: rest =>
    let longer := value * 10 + (digit.toNat - '0'.toNat)
    if longer < 2 ^ 64 then significandFrom longer rest else (value, rest.length + 1)

def scaledOnce (pattern power : Nat) (inverse : Bool) : Nat :=
  let (numerator, denominator) := Number.binary64.toRatio pattern
  let (numerator', denominator') := Number.binary64.toRatio power
  if inverse then Number.binary64.ofRatio (numerator * denominator') (denominator * numerator')
  else Number.binary64.ofRatio (numerator * numerator') (denominator * denominator')

def greatestPower : Nat := 308

def powerOfTen (exponent : Nat) : Nat :=
  Number.binary64.ofRatio (10 ^ exponent) 1

/-- A significand times a power of ten: the significand is rounded to a float and then multiplied or
divided by rounded powers of ten. There is no result above the greatest float. -/
def scaled? (significand : Nat) (exponent : Int) : Option Nat :=
  let start := Number.binary64.ofRatio significand 1
  let steps := exponent.natAbs
  if 0 ≤ exponent then
    if steps ≤ greatestPower then
      let product := scaledOnce start (powerOfTen steps) false
      if product = Number.binary64.infinity then none else some product
    else if start = 0 then some 0
    else none
  else if steps ≤ greatestPower then some (scaledOnce start (powerOfTen steps) true)
  else if steps ≤ 2 * greatestPower then
    let lower := scaledOnce start (powerOfTen greatestPower) true
    some (scaledOnce lower (powerOfTen (steps - greatestPower)) true)
  else some 0

def signed (negative : Bool) (pattern : Nat) : Number :=
  .float (if negative then Number.binary64.signBit + pattern else pattern)

def float (negative : Bool) (significand : Nat) (exponent : Int) : Scanner Number := do
  match scaled? significand exponent with
  | some pattern => return signed negative pattern
  | none => throw .numberOutOfRange

def isExponentMark (char? : Option Char) : Bool :=
  char? = some 'e' || char? = some 'E'

def exponentSign : Scanner Bool := do
  match ← peek? with
  | some '+' => advance; return false
  | some '-' => advance; return true
  | _ => return false

/-- The exponent of a number, from behind its mark. An exponent beyond 32 bits is out of range
unless the number is zero or near to it. -/
def exponent (negative : Bool) (significand : Nat) (places : Int) : Scanner Number := do
  let down ← exponentSign
  match ← peek? with
  | none => throw .endOfValue
  | some char =>
    if !char.isDigit then throw .invalidNumber
    else
      let size := Number.ofDigits (← digits)
      if size < 2 ^ 31 then
        float negative significand (if down then places - size else places + size)
      else if significand ≠ 0 && !down then throw .numberOutOfRange
      else return signed negative 0

def optionalExponent (negative : Bool) (significand : Nat) (places : Int) : Scanner Number := do
  if isExponentMark (← peek?) then
    advance
    exponent negative significand places
  else float negative significand places

def fraction (negative : Bool) (significand : Nat) (places : Int) : Scanner Number := do
  let taken ← digits
  if taken.isEmpty then
    match ← peek? with
    | none => throw .endOfValue
    | some _ => throw .invalidNumber
  else
    let (significand, dropped) := significandFrom significand taken
    optionalExponent negative significand (places - (taken.length - dropped))

def wholeNumber (negative : Bool) (value : Nat) : Number :=
  if !negative then .integer value
  else if 0 < value && value ≤ 2 ^ 63 then .integer (-value)
  else signed true (Number.binary64.ofRatio value 1)

def afterDigits (negative : Bool) (significand dropped : Nat) : Scanner Number := do
  let next ← peek?
  if next = some '.' then
    advance
    fraction negative significand dropped
  else if isExponentMark next then
    advance
    exponent negative significand dropped
  else if dropped = 0 then return wholeNumber negative significand
  else float negative significand dropped

def number (negative : Bool) : Scanner Number := do
  match ← peek? with
  | none => throw .endOfValue
  | some '0' =>
    advance
    if (← peek?).any (·.isDigit) then throw .invalidNumber else afterDigits negative 0 0
  | some char =>
    if char.isDigit then
      let (significand, dropped) := significandFrom 0 (← digits)
      afterDigits negative significand dropped
    else throw .invalidNumber

def skipDigits : Scanner Unit := do
  if (← digits).isEmpty then throw .invalidNumber

def skipExponent : Scanner Unit := do
  if isExponentMark (← peek?) then
    advance
    let _ ← exponentSign
    skipDigits

def skipNumber : Scanner Unit := do
  match ← peek? with
  | some '0' =>
    advance
    if (← peek?).any (·.isDigit) then throw .invalidNumber
  | _ => skipDigits
  if (← peek?) = some '.' then
    advance
    skipDigits
  skipExponent

/-! ### Values -/

def skipScalar : Char → Scanner Unit
  | 'n' => do advance; word ['u', 'l', 'l']
  | 't' => do advance; word ['r', 'u', 'e']
  | 'f' => do advance; word ['a', 'l', 's', 'e']
  | '"' => do advance; skipString
  | '-' => do advance; skipNumber
  | char => if char.isDigit then skipNumber else throw .expectedValue

inductive Bracket where
  | list
  | object

def Bracket.close : Bracket → Char
  | list => ']'
  | object => '\x7d'

def Bracket.unclosed : Bracket → SyntaxError
  | list => .endOfList
  | object => .endOfObject

def Bracket.unseparated : Bracket → SyntaxError
  | list => .expectedElementEnd
  | object => .expectedMemberEnd

inductive Stage where
  | value
  | first (bracket : Bracket)
  | separator

def skipHead (open_ : List Bracket) : Scanner (Stage × List Bracket) := do
  match ← peekPastBlanks? with
  | none => throw .endOfValue
  | some '[' => advance; return (.first .list, open_)
  | some '\x7b' => advance; return (.first .object, open_)
  | some char => skipScalar char; return (.separator, open_)

def skipKey : Scanner Unit := do
  match ← peekPastBlanks? with
  | none => throw .endOfObject
  | some '"' => advance; skipString
  | some _ => throw .keyNotString
  match ← peekPastBlanks? with
  | none => throw .endOfObject
  | some ':' => advance
  | some _ => throw .expectedColon

def skipEntry (bracket : Bracket) (open_ : List Bracket) : Scanner (Stage × List Bracket) := do
  match bracket with
  | .list => skipHead (bracket :: open_)
  | .object =>
    skipKey
    return (.value, bracket :: open_)

def skipStep : Stage → List Bracket → Scanner (Stage × List Bracket)
  | .value, open_ => skipHead open_
  | .first bracket, open_ => do
    match ← peekPastBlanks? with
    | none => throw bracket.unclosed
    | some char =>
      if char = bracket.close then
        advance
        return (.separator, open_)
      else skipEntry bracket open_
  | .separator, [] => return (.separator, [])
  | .separator, bracket :: open_ => do
    match ← peekPastBlanks? with
    | none => throw bracket.unclosed
    | some char =>
      if char = bracket.close then
        advance
        return (.separator, open_)
      else if char = ',' then
        advance
        skipEntry bracket open_
      else throw bracket.unseparated

def skipFrom : (steps : List Char) → Stage → List Bracket → (chars : List Char) →
    Except SyntaxError (List Char)
  | _, .separator, [], chars => .ok chars
  | [], _, _, _ => .error .endOfValue
  | _ :: steps, stage, open_, chars =>
    match skipStep stage open_ chars with
    | .error error => .error error
    | .ok ((stage, open_), rest) => skipFrom steps stage open_ rest

def skipValue : Scanner Unit := fun chars => do
  let rest ← skipFrom (' ' :: chars) .value [] chars
  return ((), rest)

end ColumnChecks.Json
