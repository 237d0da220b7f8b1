import ColumnChecks.Proofs.Constraint.IntegerComparison
import ColumnChecks.Proofs.Value.Kind

/-! Stored bytes against the values that they store. A value read from a literal is read again from
its stored bytes, stored bytes are written back as they were up to the byte of a boolean, and the
byte strings that can be read are told by their width and their encoding alone. -/

namespace ColumnChecks

namespace Text

def IsUtf8 (bytes : Bytes) : Prop :=
  ∃ chars : List Char, bytes = chars.flatMap String.utf8EncodeChar

theorem utf8_ofList (chars : List Char) :
    utf8 (String.ofList chars) = chars.flatMap String.utf8EncodeChar := by
  simp [utf8, List.utf8Encode]

theorem exists_ofUtf8?_iff {bytes : Bytes} :
    (∃ content, ofUtf8? bytes = some content) ↔ IsUtf8 bytes := by
  constructor
  · intro ⟨content, read⟩
    refine ⟨content.toList, ?_⟩
    rw [← utf8_ofList, String.ofList_toList, utf8_of_ofUtf8? read]
  · intro ⟨chars, encoded⟩
    refine ⟨String.ofList chars, ?_⟩
    rw [encoded, ← utf8_ofList, ofUtf8?_utf8]

theorem utf8EncodeChar_of_ascii {char : Char} (ascii : char.toNat < 0x80) :
    String.utf8EncodeChar char = [UInt8.ofNat char.toNat] := by
  have small : char.val.toNat ≤ 0x7f := by
    change char.toNat ≤ 0x7f
    omega
  simp only [String.utf8EncodeChar, if_pos small]
  rfl

theorem toNat_ofNat_of_ascii {code : Nat} (ascii : code < 0x80) :
    (Char.ofNat code).toNat = code := by
  have valid : code.isValidChar := Or.inl (by omega)
  rw [Char.ofNat, dif_pos valid]
  rfl

theorem utf8_of_ascii {bytes : Bytes} (ascii : ∀ byte ∈ bytes, byte.toNat < 0x80) :
    utf8 (String.ofList (bytes.map fun byte => Char.ofNat byte.toNat)) = bytes := by
  rw [utf8_ofList]
  induction bytes with
  | nil => rfl
  | cons byte rest ih =>
      obtain ⟨first, others⟩ := List.forall_mem_cons.mp ascii
      have code := toNat_ofNat_of_ascii first
      have encoded : String.utf8EncodeChar (Char.ofNat byte.toNat) = [byte] := by
        rw [utf8EncodeChar_of_ascii (by omega), code, UInt8.ofNat_toNat]
      rw [List.map_cons, List.flatMap_cons, encoded, ih others]
      rfl

theorem isUtf8_of_ascii {bytes : Bytes} (ascii : ∀ byte ∈ bytes, byte.toNat < 0x80) :
    IsUtf8 bytes := by
  have encoded := utf8_of_ascii ascii
  rw [utf8_ofList] at encoded
  exact ⟨_, encoded.symm⟩

theorem utf8_ascii_iff {content : String} :
    (∀ byte ∈ utf8 content, byte.toNat < 0x80) ↔ ∀ char ∈ content.toList, char.toNat < 0x80 := by
  constructor
  · intro ascii char mem
    have same : content = String.ofList ((utf8 content).map fun byte => Char.ofNat byte.toNat) :=
      utf8_injective (utf8_of_ascii ascii).symm
    rw [same, String.toList_ofList] at mem
    obtain ⟨byte, byteMem, rfl⟩ := List.mem_map.mp mem
    have small := ascii byte byteMem
    rw [toNat_ofNat_of_ascii small]
    exact small
  · intro ascii byte mem
    rw [← String.ofList_toList (s := content), utf8_ofList, List.mem_flatMap] at mem
    obtain ⟨char, charMem, byteMem⟩ := mem
    have small := ascii char charMem
    rw [utf8EncodeChar_of_ascii small, List.mem_singleton] at byteMem
    rw [byteMem, UInt8.toNat_ofNat']
    omega

end Text

namespace Value

/-- The values that literals and stored bytes of a type are read as. The short float format is left
out: its values are widened ones. -/
inductive Belongs : ColumnType → Value → Prop
  | integer {type : ColumnType} {width : Nat} {number : Int} : type.IsInteger width →
      Number.InSignedRange width number → Belongs type (.integer (Int64.ofInt number))
  | timestamp (milliseconds : Int64) : Belongs .timestamp (.timestamp milliseconds)
  | double (bits : UInt64) : Belongs .double (.float bits)
  | boolean (truth : Bool) : Belongs .boolean (.boolean truth)
  | uuid (identifier : Uuid) : Belongs .uuid (.uuid identifier)
  | blob (content : Bytes) : Belongs .blob (.bytes content)
  | ascii {content : String} : (∀ char ∈ content.toList, char.toNat < 0x80) →
      Belongs .ascii (.text content)
  | text (content : String) : Belongs .text (.text content)

variable {type : ColumnType} {stored : Bytes} {value : Value}

theorem integerWidth_of_isInteger {width : Nat} (integers : type.IsInteger width) :
    type.integerWidth = width := by
  cases integers <;> rfl

theorem all_ascii_iff : stored.all (· < 0x80) = true ↔ ∀ byte ∈ stored, byte.toNat < 0x80 := by
  simp [List.all_eq_true, UInt8.lt_iff_toNat_lt]

theorem storedText_utf8 (type : ColumnType) (content : String) :
    storedText type (Text.utf8 content) = .ok (.text content) := by
  rw [storedText, Text.ofUtf8?_utf8]

theorem storedInteger_bigEndian {width : Nat} {number : Int} (positive : 0 < width)
    (narrow : width ≤ 8) (inRange : Number.InSignedRange width number) :
    storedInteger (Number.bigEndian width (Int64.ofInt number).toUInt64.toNat) =
      Int64.ofInt number := by
  rw [storedInteger, Number.ofSignedBigEndian_bigEndian positive narrow inRange]

theorem decode_encode (belongs : Belongs type value) :
    decode type (encode type value) = .ok value := by
  cases belongs with
  | @integer _ width number integers inRange =>
      obtain ⟨positive, narrow⟩ := integers.narrow
      rw [decode_of_isInteger integers, encode, integerWidth_of_isInteger integers,
        if_pos (Number.length_bigEndian _ _), storedInteger_bigEndian positive narrow inRange]
  | timestamp milliseconds =>
      have inRange := Number.inSignedRange_toInt milliseconds
      have read := storedInteger_bigEndian (by decide) (by decide) inRange
      rw [Int64.ofInt_toInt] at read
      rw [decode, encode, exactly, dif_pos (Number.length_bigEndian _ _), read]
  | double bits =>
      have bound : bits.toNat < 256 ^ 8 := bits.toNat_lt
      have written : encode .double (.float bits) = Number.bigEndian 8 bits.toNat := rfl
      rw [written, decode, exactly, dif_pos (Number.length_bigEndian _ _),
        Number.ofBigEndian_bigEndian, Nat.mod_eq_of_lt bound, UInt64.ofNat_toNat]
  | boolean truth => cases truth <;> rfl
  | uuid identifier => rw [decode, encode, exactly, dif_pos identifier.length_eq]
  | blob content => rfl
  | @ascii content ascii =>
      rw [decode, encode, if_pos (all_ascii_iff.mpr (Text.utf8_ascii_iff.mpr ascii)),
        storedText_utf8]
  | text content => exact storedText_utf8 .text content

theorem belongs_integerLiteral {width : Nat} {chars : List Char} (integers : type.IsInteger width)
    (read : integerLiteral? width chars = some value) : Belongs type value := by
  obtain ⟨number, signed, rfl⟩ := Option.map_eq_some_iff.mp read
  exact .integer integers (Number.signed?_eq_some_iff.mp signed).2

theorem belongs_of_isInteger {width : Nat} (integers : type.IsInteger width)
    (decoded : decode type stored = .ok value) : Belongs type value := by
  rw [decode_of_isInteger integers] at decoded
  split at decoded
  · rename_i fits
    cases decoded
    have nonempty : stored ≠ [] := by
      have positive := integers.narrow.1
      rintro rfl
      exact absurd fits (Nat.ne_of_lt positive)
    refine .integer integers ?_
    rw [← fits, Number.ofSignedBigEndian_eq_twosComplement]
    exact Number.inSignedRange_twosComplement nonempty
  · cases decoded

theorem belongs_of_kind (kind : value.kind = type.kind) (wide : type ≠ .float)
    (other : type.kind ≠ .integer) (unicode : type ≠ .ascii) : Belongs type value := by
  cases type with
  | tinyint | smallint | int | bigint | counter => exact absurd rfl other
  | float => exact absurd rfl wide
  | ascii => exact absurd rfl unicode
  | double | boolean | timestamp | uuid | blob | text =>
      cases value <;> first | constructor | cases kind

theorem belongs_of_ofLiteral? {literal : String} (wide : type ≠ .float)
    (read : ofLiteral? type literal = some value) : Belongs type value := by
  have kind := kind_of_ofLiteral? read
  cases type with
  | tinyint => exact belongs_integerLiteral .tinyint read
  | smallint => exact belongs_integerLiteral .smallint read
  | int => exact belongs_integerLiteral .int read
  | bigint => exact belongs_integerLiteral .bigint read
  | counter => exact belongs_integerLiteral .counter read
  | ascii =>
      simp only [ofLiteral?] at read
      split at read
      · rename_i ascii
        cases read
        exact .ascii (by simpa using ascii)
      · cases read
  | _ => exact belongs_of_kind kind wide (by decide) (by decide)

theorem belongs_of_ofLiteral {literal : String} (wide : type ≠ .float)
    (read : ofLiteral type literal = .ok value) : Belongs type value := by
  unfold ofLiteral at read
  split at read
  · rename_i found
    cases read
    exact belongs_of_ofLiteral? wide found
  · cases read

theorem belongs_of_decode (wide : type ≠ .float) (decoded : decode type stored = .ok value) :
    Belongs type value := by
  have kind := kind_of_decode decoded
  cases type with
  | tinyint => exact belongs_of_isInteger .tinyint decoded
  | smallint => exact belongs_of_isInteger .smallint decoded
  | int => exact belongs_of_isInteger .int decoded
  | bigint => exact belongs_of_isInteger .bigint decoded
  | counter => exact belongs_of_isInteger .counter decoded
  | ascii =>
      obtain ⟨content, rfl, written⟩ := text_of_decode rfl decoded
      simp only [decode] at decoded
      split at decoded
      · rename_i ascii
        rw [← written] at ascii
        exact .ascii (Text.utf8_ascii_iff.mp (all_ascii_iff.mp ascii))
      · cases decoded
  | _ => exact belongs_of_kind kind wide (by decide) (by decide)

theorem encode_of_exactly {width : Nat} {make : stored.length = width → Value} {form : Bytes}
    (written : ∀ length_eq, encode type (make length_eq) = form)
    (read : exactly type width stored make = .ok value) : encode type value = form := by
  unfold exactly at read
  split at read
  · cases read
    exact written _
  · cases read

/-- The form in which the value of stored bytes is written: every byte but zero stores the same
truth value as one. -/
def normalized (type : ColumnType) (stored : Bytes) : Bytes :=
  match type with
  | .boolean => stored.map fun byte => if byte = 0 then 0 else 1
  | _ => stored

theorem encode_of_isInteger {width : Nat} (integers : type.IsInteger width)
    (decoded : decode type stored = .ok value) : encode type value = stored := by
  have narrow := integers.narrow.2
  rw [decode_of_isInteger integers] at decoded
  split at decoded
  · rename_i fits
    cases decoded
    subst fits
    rw [encode, integerWidth_of_isInteger integers]
    exact Number.bigEndian_ofSignedBigEndian narrow
  · cases decoded

theorem encode_of_decode (wide : type ≠ .float) (decoded : decode type stored = .ok value) :
    encode type value = normalized type stored := by
  cases type with
  | tinyint => exact encode_of_isInteger .tinyint decoded
  | smallint => exact encode_of_isInteger .smallint decoded
  | int => exact encode_of_isInteger .int decoded
  | bigint => exact encode_of_isInteger .bigint decoded
  | counter => exact encode_of_isInteger .counter decoded
  | float => exact absurd rfl wide
  | ascii | text =>
      obtain ⟨content, rfl, rfl⟩ := text_of_decode rfl decoded
      rfl
  | blob =>
      cases decoded
      rfl
  | uuid => exact encode_of_exactly (fun _ => rfl) decoded
  | timestamp =>
      refine encode_of_exactly (fun fits => ?_) decoded
      have narrow : stored.length ≤ 8 := Nat.le_of_eq fits
      have written := Number.bigEndian_ofSignedBigEndian narrow
      rw [fits] at written
      exact written
  | double =>
      refine encode_of_exactly (fun fits => ?_) decoded
      have bound := Number.ofBigEndian_lt stored
      have written := Number.bigEndian_ofBigEndian stored
      rw [fits] at bound written
      change Number.bigEndian 8 (UInt64.ofNat (Number.ofBigEndian stored)).toNat = stored
      rw [UInt64.toNat_ofNat', Nat.mod_eq_of_lt bound, written]
  | boolean =>
      refine encode_of_exactly (fun fits => ?_) decoded
      obtain ⟨byte, rfl⟩ := List.length_eq_one_iff.mp fits
      by_cases zero : byte = 0
      · subst byte
        rfl
      · have nonzero : byte.toNat ≠ 0 := fun none => zero (UInt8.toNat_inj.mp none)
        simp [encode, normalized, Number.ofBigEndian, zero, nonzero]

structure IsStored (type : ColumnType) (stored : Bytes) : Prop where
  width : ∀ width, type.width? = some width → stored.length = width
  ascii : type = .ascii → ∀ byte ∈ stored, byte.toNat < 128
  text : type = .text → Text.IsUtf8 stored

theorem exists_exactly_iff {width : Nat} {make : stored.length = width → Value} :
    (∃ value, exactly type width stored make = .ok value) ↔ stored.length = width := by
  unfold exactly
  by_cases fits : stored.length = width
  · simp [fits]
  · simp [fits]

theorem exists_storedText_iff :
    (∃ value, storedText type stored = .ok value) ↔ Text.IsUtf8 stored := by
  rw [← Text.exists_ofUtf8?_iff]
  unfold storedText
  cases Text.ofUtf8? stored <;> simp

theorem isStored_iff_of_width {width : Nat} (wide : type.width? = some width) :
    IsStored type stored ↔ stored.length = width := by
  constructor
  · intro isStored
    exact isStored.width width wide
  · intro fits
    refine ⟨fun other same => ?_, ?_, ?_⟩
    · rw [wide] at same
      exact fits.trans (Option.some.inj same)
    · rintro rfl
      cases wide
    · rintro rfl
      cases wide

theorem isStored_iff_of_no_width (unbounded : type.width? = none) :
    IsStored type stored ↔
      (type = .ascii → ∀ byte ∈ stored, byte.toNat < 128) ∧
        (type = .text → Text.IsUtf8 stored) := by
  constructor
  · intro isStored
    exact ⟨isStored.ascii, isStored.text⟩
  · intro ⟨forAscii, forText⟩
    refine ⟨fun width wide => ?_, forAscii, forText⟩
    rw [unbounded] at wide
    cases wide

theorem exists_decode_iff : (∃ value, decode type stored = .ok value) ↔ IsStored type stored := by
  cases type with
  | blob =>
      rw [isStored_iff_of_no_width rfl]
      simp [decode]
  | text =>
      rw [isStored_iff_of_no_width rfl, decode, exists_storedText_iff]
      simp
  | ascii =>
      rw [isStored_iff_of_no_width rfl, decode]
      by_cases ascii : ∀ byte ∈ stored, byte.toNat < 128
      · rw [if_pos (all_ascii_iff.mpr ascii), exists_storedText_iff]
        exact iff_of_true (Text.isUtf8_of_ascii ascii) ⟨fun _ => ascii, by simp⟩
      · rw [if_neg (mt all_ascii_iff.mp ascii)]
        simp [ascii]
  | _ => exact exists_exactly_iff.trans (isStored_iff_of_width rfl).symm

/-- Writing and reading are inverse to each other. The first two clauses leave out the short float
format, where a written value has lost half of its width. -/
theorem encode_decode_inverse (type : ColumnType) :
    (type ≠ .float →
      (∀ literal value, ofLiteral type literal = .ok value →
        ∃ stored, encodeLiteral type literal = .ok stored ∧ decode type stored = .ok value) ∧
      (∀ stored value, decode type stored = .ok value →
        encode type value = normalized type stored ∧
          decode type (normalized type stored) = .ok value)) ∧
    ∀ stored, (∃ value, decode type stored = .ok value) ↔ IsStored type stored := by
  refine ⟨fun wide => ⟨?literals, ?bytes⟩, fun stored => exists_decode_iff⟩
  case literals =>
    intro literal value read
    refine ⟨encode type value, ?_, decode_encode (belongs_of_ofLiteral wide read)⟩
    rw [encodeLiteral, read]
    rfl
  case bytes =>
    intro stored value decoded
    have written := encode_of_decode wide decoded
    refine ⟨written, ?_⟩
    rw [← written]
    exact decode_encode (belongs_of_decode wide decoded)

theorem inverse_for_samples :
    ofLiteral .smallint " -2 " = .ok (.integer (-2)) ∧
      (∃ stored, encodeLiteral .smallint " -2 " = .ok stored ∧
        decode .smallint stored = .ok (.integer (-2))) ∧
      decode .boolean [7] = .ok (.boolean true) ∧
      encode .boolean (.boolean true) = [1] ∧ decode .boolean [1] = .ok (.boolean true) ∧
      IsStored .uuid (List.replicate 16 9) := by
  have read : ofLiteral .smallint " -2 " = .ok (.integer (-2)) := by rfl
  have decoded : decode .boolean [7] = .ok (.boolean true) := by rfl
  have decodedUuid : ∃ value, decode .uuid (List.replicate 16 9) = .ok value := ⟨_, rfl⟩
  have forBoolean := ((encode_decode_inverse .boolean).1 (by decide)).2 [7] _ decoded
  exact ⟨read, ((encode_decode_inverse .smallint).1 (by decide)).1 _ _ read, decoded,
    forBoolean.1, forBoolean.2, ((encode_decode_inverse .uuid).2 _).mp decodedUuid⟩

end Value

end ColumnChecks
