import ColumnChecks.Text.CaseTable

/-!
Lower-casing of text by the full Unicode mapping: a capital I with a dot above becomes two
characters, and a capital sigma has its own form at the end of a word.
-/

namespace ColumnChecks.Text

def CaseRun.covers (run : CaseRun) (code : Nat) : Bool :=
  run.first ≤ code && code ≤ run.last && (code - run.first) % run.step = 0

/-- The lower-case form of a character that maps without regard to its neighbours. -/
def lowerChar (char : Char) : List Char :=
  if char.toNat < 0x80 then [char.toLower]
  else if char = 'İ' then ['i', '\u0307']
  else match caseRuns.find? (·.covers char.toNat) with
    | some run => [Char.ofNat (char.toNat + run.shift).toNat]
    | none => [char]

def reachesCased (chars : List Char) : Bool :=
  match chars.dropWhile caseIgnorable.contains with
  | [] => false
  | char :: _ => cased.contains char

/-- A sigma ends a word when a cased letter precedes it and none follows. -/
def endsWord (before after : List Char) : Bool :=
  reachesCased before && !reachesCased after

def lowerAfter : (before chars : List Char) → List Char
  | _, [] => []
  | before, char :: rest =>
    let lower :=
      if char = 'Σ' then [if endsWord before rest then 'ς' else 'σ'] else lowerChar char
    lower ++ lowerAfter (char :: before) rest

def lowerCase (text : String) : String :=
  String.ofList (lowerAfter [] text.toList)

theorem lowerChar_of_ascii {char : Char} (ascii : char.toNat < 0x80) :
    lowerChar char = [char.toLower] := by
  simp [lowerChar, ascii]

end ColumnChecks.Text
