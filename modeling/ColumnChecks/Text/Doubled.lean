/-!
Quote characters inside quoted text are written twice. Main statement: taking the doubled quotes
apart again gives back the content.
-/

namespace ColumnChecks.Text

def doubled (quote : Char) : List Char → List Char
  | [] => []
  | char :: rest =>
    if char = quote then quote :: quote :: doubled quote rest else char :: doubled quote rest

/-- Every two `quote`s in a row, taken from the left, become one. -/
def undoubled (quote : Char) : List Char → List Char
  | first :: second :: rest =>
    if first = quote ∧ second = quote then quote :: undoubled quote rest
    else first :: undoubled quote (second :: rest)
  | chars => chars

theorem undoubled_cons_of_ne {quote char : Char} (other : char ≠ quote) (rest : List Char) :
    undoubled quote (char :: rest) = char :: undoubled quote rest := by
  cases rest with
  | nil => simp [undoubled]
  | cons next rest => simp [undoubled, other]

theorem undoubled_doubled (quote : Char) (chars : List Char) :
    undoubled quote (doubled quote chars) = chars := by
  induction chars with
  | nil => simp [doubled, undoubled]
  | cons char rest ih =>
    by_cases same : char = quote
    · simp [doubled, undoubled, same, ih]
    · simp [doubled, same, undoubled_cons_of_ne same, ih]

end ColumnChecks.Text
