import ColumnChecks.Column.Name
import ColumnChecks.Constraint.Operator

/-!
The tokens of a clause, and the ways in which a clause can be malformed.
-/

namespace ColumnChecks.Clause

/-- A token. Identifiers and numbers are kept as written, quoted identifiers with their quotes;
strings are kept without quotes. -/
inductive Token where
  | relation (operator : Operator)
  | openParen
  | closeParen
  | identifier (word : String)
  | quotedIdentifier (quoted : String)
  | number (digits : String)
  | hexadecimal (digits : String)
  | string (content : String)
  deriving DecidableEq

namespace Token

def isAnd (word : String) : Bool :=
  word.toList.map Char.toLower = ['a', 'n', 'd']

def relationName : Operator → String
  | .equal => "Eq"
  | .unequal => "Neq"
  | .atMost => "Lte"
  | .atLeast => "Gte"
  | .less => "Lt"
  | .greater => "Gt"

def describe : Token → String
  | relation operator => relationName operator
  | openParen => "LParen"
  | closeParen => "RParen"
  | identifier word => "Ident(" ++ Text.escaped word ++ ")"
  | quotedIdentifier quoted => "QuotedIdent(" ++ Text.escaped quoted ++ ")"
  | number digits => "Number(" ++ Text.escaped digits ++ ")"
  | hexadecimal digits => "Hex(" ++ Text.escaped digits ++ ")"
  | string content => "Str(" ++ Text.escaped content ++ ")"

end Token

structure Lexeme where
  token : Token
  offset : Nat
  deriving DecidableEq

inductive SyntaxError where
  | unknownText (slice : String) (offset : Nat)
  | unexpectedToken (lexeme : Lexeme)
  | unexpectedEnd
  | foreignColumn (declaring target : ColumnName)
  deriving DecidableEq

def SyntaxError.message : SyntaxError → String
  | unknownText slice offset => "unexpected '" ++ slice ++ "' at offset " ++ toString offset
  | unexpectedToken lexeme =>
    "unexpected " ++ lexeme.token.describe ++ " at offset " ++ toString lexeme.offset
  | unexpectedEnd => "unexpected end of constraint"
  | foreignColumn declaring target =>
    "constraint on column '" ++ declaring.text ++ "' can not reference column '" ++ target.text ++
      "'"

end ColumnChecks.Clause
