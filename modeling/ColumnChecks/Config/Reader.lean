import ColumnChecks.Config.Basic
import ColumnChecks.Config.Json
import ColumnChecks.Text.Escaped
import ColumnChecks.Text.Utf8

/-!
Configurations as JSON: an object with any of the fields, or a list of their values in order. Fields
that are left out have their defaults, and members with other names are passed over.
-/

namespace ColumnChecks

inductive FoundValue where
  | null
  | boolean (value : Bool)
  | number (value : Json.Number)
  | string (text : String)
  | list
  | object
  deriving DecidableEq

/-- Floats are written with an exponent below 10⁻⁵ and from 10¹⁶ on. -/
def configFloats : Number.FloatStyle :=
  ⟨-5, 15⟩

def FoundValue.describe : FoundValue → String
  | null => "null"
  | boolean value => "boolean `" ++ (if value then "true" else "false") ++ "`"
  | number (.integer value) => "integer `" ++ toString value ++ "`"
  | number (.float bits) => "floating point `" ++ configFloats.write bits ++ "`"
  | string text => "string " ++ Text.escaped text
  | list => "sequence"
  | object => "map"

inductive WantedValue where
  | boolean
  | versionToken
  | termLength
  | config
  deriving DecidableEq

def WantedValue.describe : WantedValue → String
  | boolean => "a boolean"
  | versionToken => "u32"
  | termLength => "usize"
  | config => "struct ConstraintConfig"

inductive FileError where
  | notFound
  | notUtf8
  deriving DecidableEq

def FileError.message : FileError → String
  | notFound => "No such file or directory (os error 2)"
  | notUtf8 => "stream did not contain valid UTF-8"

inductive ConfigError where
  | syntaxError (cause : Json.SyntaxError)
  | duplicateField (name : String)
  | wrongType (found : FoundValue) (wanted : WantedValue)
  | outOfRange (number : Int) (wanted : WantedValue)
  | version (cause : WireError)
  | file (path : String) (cause : FileError)
  deriving DecidableEq

def ConfigError.message : ConfigError → String
  | syntaxError cause => cause.message
  | duplicateField name => "duplicate field `" ++ name ++ "`"
  | wrongType found wanted =>
    "invalid type: " ++ found.describe ++ ", expected " ++ wanted.describe
  | outOfRange number wanted =>
    "invalid value: integer `" ++ toString number ++ "`, expected " ++ wanted.describe
  | version cause => cause.message
  | file path cause => path ++ ": " ++ cause.message

namespace Config

abbrev ConfigReader := StateT (List Char) (Except ConfigError)

def scan {α : Type} (scanner : Json.Scanner α) : ConfigReader α := fun chars =>
  match scanner chars with
  | .ok result => .ok result
  | .error cause => .error (.syntaxError cause)

def refuse {α : Type} (cause : Json.SyntaxError) : ConfigReader α :=
  throw (.syntaxError cause)

open Json Json.Scanner

/-- What the value is that starts with the given character. Lists and objects are not looked
into. -/
def foundValue : Char → Scanner FoundValue
  | 'n' => do advance; word ['u', 'l', 'l']; return .null
  | 't' => do advance; word ['r', 'u', 'e']; return .boolean true
  | 'f' => do advance; word ['a', 'l', 's', 'e']; return .boolean false
  | '"' => do advance; return .string (← string)
  | '-' => do advance; return .number (← number true)
  | '[' => return .list
  | '\x7b' => return .object
  | char => if char.isDigit then return .number (← number false) else throw .expectedValue

def found : ConfigReader FoundValue := scan do
  match ← peekPastBlanks? with
  | none => throw .endOfValue
  | some char => foundValue char

def boolean : ConfigReader Bool := do
  match ← found with
  | .boolean value => return value
  | other => throw (.wrongType other .boolean)

def natural (bound : Nat) (wanted : WantedValue) : ConfigReader Nat := do
  match ← found with
  | .number (.integer value) =>
    if 0 ≤ value && value < bound then return value.toNat
    else throw (.outOfRange value wanted)
  | other => throw (.wrongType other wanted)

def version : ConfigReader Version := do
  let token ← natural (2 ^ 32) .versionToken
  match Version.ofToken (UInt32.ofNat token) with
  | .ok version => return version
  | .error cause => throw (.version cause)

inductive Field where
  | enforceOnWrite
  | metadataVersion
  | maxTermLength
  deriving DecidableEq

namespace Field

def all : List Field := [.enforceOnWrite, .metadataVersion, .maxTermLength]

def name : Field → String
  | enforceOnWrite => "enforce_on_write"
  | metadataVersion => "metadata_version"
  | maxTermLength => "max_term_length"

def ofName? (name : String) : Option Field :=
  all.find? (·.name = name)

def read (config : Config) : Field → ConfigReader Config
  | enforceOnWrite => return { config with enforceOnWrite := ← boolean }
  | metadataVersion => return { config with metadataVersion := ← version }
  | maxTermLength => return { config with maxTermLength := ← natural (2 ^ 64) .termLength }

end Field

def anotherElement (first : Bool) : Scanner Bool := do
  match ← peekPastBlanks? with
  | none => throw .endOfList
  | some ']' => return false
  | some char =>
    if first then return true
    else if char = ',' then
      advance
      match ← peekPastBlanks? with
      | none => throw .endOfValue
      | some ']' => throw .trailingComma
      | some _ => return true
    else throw .expectedElementEnd

def elements (config : Config) (first : Bool) : List Field → ConfigReader Config
  | [] => return config
  | field :: rest => do
    if ← scan (anotherElement first) then elements (← field.read config) false rest
    else return config

def endOfElements : Scanner Unit := do
  match ← peekPastBlanks? with
  | none => throw .endOfList
  | some ']' => advance
  | some ',' =>
    advance
    if (← peekPastBlanks?) = some ']' then throw .trailingComma else throw .trailingCharacters
  | some _ => throw .trailingCharacters

def anotherMember (first : Bool) : Scanner Bool := do
  match ← peekPastBlanks? with
  | none => throw .endOfObject
  | some '\x7d' => return false
  | some char =>
    if first then
      if char = '"' then return true else throw .keyNotString
    else if char = ',' then
      advance
      match ← peekPastBlanks? with
      | none => throw .endOfValue
      | some '"' => return true
      | some '\x7d' => throw .trailingComma
      | some _ => throw .keyNotString
    else throw .expectedMemberEnd

def colon : Scanner Unit := do
  match ← peekPastBlanks? with
  | none => throw .endOfObject
  | some ':' => advance
  | some _ => throw .expectedColon

/-- Reads a member; a field may be given once. -/
def member (config : Config) (seen : List Field) : ConfigReader (Config × List Field) := do
  let key ← scan do advance; string
  match Field.ofName? key with
  | some field =>
    if field ∈ seen then throw (.duplicateField field.name)
    else
      scan colon
      return (← field.read config, field :: seen)
  | none =>
    scan colon
    scan skipValue
    return (config, seen)

def members : (count : Nat) → (config : Config) → (seen : List Field) → (first : Bool) →
    ConfigReader Config
  | 0, _, _, _ => refuse .endOfObject
  | count + 1, config, seen, first => do
    if ← scan (anotherMember first) then
      let (config, seen) ← member config seen
      members count config seen false
    else
      scan advance
      return config

def value : ConfigReader Config := do
  match ← scan peekPastBlanks? with
  | none => refuse .endOfValue
  | some '[' =>
    scan advance
    let config ← elements {} true Field.all
    scan endOfElements
    return config
  | some '\x7b' =>
    scan advance
    members ((← get).length + 1) {} [] true
  | some char =>
    let other ← scan (foundValue char)
    throw (.wrongType other .config)

def document : ConfigReader Config := do
  let config ← value
  match ← scan peekPastBlanks? with
  | none => return config
  | some _ => refuse .trailingCharacters

def ofJson (text : String) : Except ConfigError Config :=
  (document.run text.toList).map (·.1)

def ofFile (path : String) (content : Option Bytes) : Except ConfigError Config :=
  match content with
  | none => .error (.file path .notFound)
  | some bytes =>
    match Text.ofUtf8? bytes with
    | none => .error (.file path .notUtf8)
    | some text => ofJson text

def toJson (config : Config) : String :=
  let enforce := if config.enforceOnWrite then "true" else "false"
  "\x7b\"enforce_on_write\":" ++ enforce ++
    ",\"metadata_version\":" ++ toString config.metadataVersion.token ++
    ",\"max_term_length\":" ++ toString config.maxTermLength ++ "\x7d"

end Config

end ColumnChecks
