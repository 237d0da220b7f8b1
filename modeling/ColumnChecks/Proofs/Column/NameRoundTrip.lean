import ColumnChecks.Column.Name
import ColumnChecks.Proofs.Text.Letters

/-! The canonical spelling of a column name reads back as the name, whatever characters it has. -/

namespace ColumnChecks

namespace Text

def Uncased (char : Char) : Prop :=
  char.toNat < 0x80 ∧ char.toLower = char

theorem lowerAfter_of_uncased (chars : List Char) (uncased : ∀ char ∈ chars, Uncased char) :
    ∀ before, lowerAfter before chars = chars := by
  induction chars with
  | nil => simp [lowerAfter]
  | cons char rest ih =>
      intro before
      obtain ⟨ascii, same⟩ := uncased char (by simp)
      have notSigma : char ≠ 'Σ' := by
        rintro rfl
        exact absurd ascii (by decide)
      have tail := ih (fun other member => uncased other (by simp [member])) (char :: before)
      simp [lowerAfter, notSigma, lowerChar_of_ascii ascii, same, tail]

end Text

namespace ColumnName

theorem toNat_of_isBareChar {char : Char} (bare : isBareChar char = true) :
    char.toNat < 65 ∨ 90 < char.toNat ∧ char.toNat < 128 := by
  simp only [isBareChar, Bool.or_eq_true, decide_eq_true_eq] at bare
  rcases bare with (lower | digit) | rfl
  · have range := Text.toNat_of_isLower lower
    omega
  · have range := Text.toNat_of_isDigit digit
    omega
  · decide

theorem uncased_of_isBareChar {char : Char} (bare : isBareChar char = true) :
    Text.Uncased char := by
  have range := toNat_of_isBareChar bare
  exact ⟨by omega, Text.toLower_eq_self (by omega)⟩

theorem isBareChar_of_isBare {chars : List Char} (bare : isBare chars = true) :
    ∀ char ∈ chars, isBareChar char = true := by
  cases chars with
  | nil => simp
  | cons first rest =>
      simp only [isBare, Bool.and_eq_true, List.all_eq_true] at bare
      intro char member
      rcases List.mem_cons.mp member with rfl | later
      · simp [isBareChar, bare.1]
      · exact bare.2 char later

theorem quotedContent?_of_isBare {chars : List Char} (bare : isBare chars = true) :
    quotedContent? chars = none := by
  cases chars with
  | nil => rfl
  | cons first rest =>
      simp only [isBare, Bool.and_eq_true] at bare
      have notQuote : first ≠ '"' := by
        rintro rfl
        exact absurd bare.1 (by decide)
      simp [quotedContent?, notQuote]

theorem quotedContent?_quoted (chars : List Char) :
    quotedContent? (quoted chars) = some (Text.doubled '"' chars) := by
  simp [quotedContent?, quoted]

theorem ofCql_of_isBare {cql : String} (bare : isBare cql.toList = true) : ofCql cql = ⟨cql⟩ := by
  have uncased : ∀ char ∈ cql.toList, Text.Uncased char := fun char member =>
    uncased_of_isBareChar (isBareChar_of_isBare bare char member)
  simp [ofCql, quotedContent?_of_isBare bare, folded, Text.lowerCase,
    Text.lowerAfter_of_uncased _ uncased]

theorem ofCql_quoted (chars : List Char) :
    ofCql (String.ofList (quoted chars)) = ⟨String.ofList chars⟩ := by
  simp [ofCql, quotedContent?_quoted, Text.undoubled_doubled]

@[simp] theorem ofCql_toCql (name : ColumnName) : ofCql name.toCql = name := by
  unfold toCql
  split
  · rename_i bare
    exact ofCql_of_isBare bare
  · rw [ofCql_quoted, String.ofList_toList]

end ColumnName

end ColumnChecks
