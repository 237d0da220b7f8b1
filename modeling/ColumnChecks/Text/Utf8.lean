/-!
Byte strings and the UTF-8 form of text. Main statements: reading the UTF-8 form of a text gives
the text back, and bytes are read only if they are the UTF-8 form of the result.
-/

namespace ColumnChecks

abbrev Bytes := List UInt8

namespace Text

def utf8 (text : String) : Bytes :=
  text.toByteArray.data.toList

def byteLength : List Char → Nat
  | [] => 0
  | first :: rest => first.utf8Size + byteLength rest

def ofUtf8? (bytes : Bytes) : Option String :=
  String.fromUTF8? ⟨bytes.toArray⟩

theorem ofUtf8?_utf8 (text : String) : ofUtf8? (utf8 text) = some text := by
  cases text with
  | ofByteArray bytes valid => simp [ofUtf8?, utf8, String.fromUTF8?, valid, String.fromUTF8]

theorem utf8_of_ofUtf8? {bytes : Bytes} {text : String} (read : ofUtf8? bytes = some text) :
    utf8 text = bytes := by
  simp only [ofUtf8?, String.fromUTF8?] at read
  split at read
  · simp only [Option.some.injEq] at read
    subst text
    simp [utf8, String.fromUTF8]
  · simp at read

theorem utf8_injective {first second : String} (same : utf8 first = utf8 second) :
    first = second := by
  have read := ofUtf8?_utf8 first
  rw [same, ofUtf8?_utf8] at read
  exact (Option.some.inj read).symm

theorem length_utf8 (text : String) : (utf8 text).length = text.utf8ByteSize := by
  simp only [utf8, Array.length_toList]
  rfl

theorem length_utf8_ofList (chars : List Char) :
    (utf8 (String.ofList chars)).length = byteLength chars := by
  rw [length_utf8]
  induction chars with
  | nil => rfl
  | cons first rest ih =>
    rw [String.ofList_cons, String.utf8ByteSize_append, String.utf8ByteSize_singleton, ih,
      byteLength]

theorem byteLength_append (front back : List Char) :
    byteLength (front ++ back) = byteLength front + byteLength back := by
  induction front with
  | nil => simp [byteLength]
  | cons first rest ih => simp [byteLength, ih, Nat.add_assoc]

theorem length_le_byteLength (chars : List Char) : chars.length ≤ byteLength chars := by
  induction chars with
  | nil => simp [byteLength]
  | cons first rest ih =>
    have positive := first.utf8Size_pos
    simp only [List.length_cons, byteLength]
    omega

theorem byteLength_le (chars : List Char) : byteLength chars ≤ 4 * chars.length := by
  induction chars with
  | nil => simp [byteLength]
  | cons first rest ih =>
    have size := first.utf8Size_le_four
    simp only [List.length_cons, byteLength]
    omega

theorem byteLength_toList (text : String) : byteLength text.toList = (utf8 text).length := by
  rw [← length_utf8_ofList, String.ofList_toList]

theorem length_le_length_utf8 (text : String) : text.length ≤ (utf8 text).length := by
  rw [← byteLength_toList, ← String.length_toList]
  exact length_le_byteLength text.toList

theorem length_utf8_le (text : String) : (utf8 text).length ≤ 4 * text.length := by
  rw [← byteLength_toList, ← String.length_toList]
  exact byteLength_le text.toList

end Text

end ColumnChecks
