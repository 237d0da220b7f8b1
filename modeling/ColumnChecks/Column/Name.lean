import ColumnChecks.Text.Doubled
import ColumnChecks.Text.Escaped
import ColumnChecks.Text.LowerCase
import ColumnChecks.Text.Utf8

/-!
Names of columns. A name is written bare, which folds its case, or between double quotes, which
keeps it.
-/

namespace ColumnChecks

structure ColumnName where
  text : String
  deriving DecidableEq

namespace ColumnName

def folded (text : String) : ColumnName :=
  ⟨Text.lowerCase text⟩

def quotedContent? : List Char → Option (List Char)
  | '"' :: rest => if rest.getLast? = some '"' then some rest.dropLast else none
  | _ => none

def ofCql (cql : String) : ColumnName :=
  match quotedContent? cql.toList with
  | some content => ⟨String.ofList (Text.undoubled '"' content)⟩
  | none => folded cql

def isBareChar (char : Char) : Bool :=
  char.isLower || char.isDigit || char = '_'

/-- A name that reads back without quotes: a small ASCII letter, then small letters, digits and
underscores. -/
def isBare : List Char → Bool
  | [] => false
  | first :: rest => first.isLower && rest.all isBareChar

def quoted (chars : List Char) : List Char :=
  '"' :: Text.doubled '"' chars ++ ['"']

def toCql (name : ColumnName) : String :=
  if isBare name.text.toList then name.text else String.ofList (quoted name.text.toList)

def inspect (name : ColumnName) : String :=
  "ColumnIdentifier(" ++ Text.escaped name.text ++ ")"

instance : Ord ColumnName where
  compare first second := compare (Text.utf8 first.text) (Text.utf8 second.text)

end ColumnName

end ColumnChecks
