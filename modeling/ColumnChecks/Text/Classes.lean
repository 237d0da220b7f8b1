/-!
Classes of characters by their code points, and trimming of blanks. A character is blank when it has
the White_Space property.
-/

namespace ColumnChecks.Text

abbrev CodePointRanges := List (Nat × Nat)

def CodePointRanges.contains (ranges : CodePointRanges) (char : Char) : Bool :=
  ranges.any fun (first, last) => first ≤ char.toNat && char.toNat ≤ last

def isBlank (char : Char) : Bool :=
  let code := char.toNat
  (0x09 ≤ code && code ≤ 0x0D) || code = 0x20 || code = 0x85 || code = 0xA0 || code = 0x1680 ||
    (0x2000 ≤ code && code ≤ 0x200A) || code = 0x2028 || code = 0x2029 || code = 0x202F ||
    code = 0x205F || code = 0x3000

def trim (chars : List Char) : List Char :=
  ((chars.dropWhile isBlank).reverse.dropWhile isBlank).reverse

end ColumnChecks.Text
