import ColumnChecks.Wire.Input

/-! What a reader does with given bytes at the front of its input, whatever follows them, and how
that composes. -/

namespace ColumnChecks

namespace Reader

variable {ε α β : Type}

/-- The reader takes exactly the bytes and gives the value. -/
def Reads (read : Reader ε α) (bytes : Bytes) (value : α) : Prop :=
  ∀ rest, read (bytes ++ rest) = .ok value rest

def Refuses (read : Reader ε α) (bytes : Bytes) (cause : ε) : Prop :=
  ∀ rest, ∃ left, read (bytes ++ rest) = .error cause left

theorem Reads.pure (value : α) : Reads (Pure.pure value : Reader ε α) [] value := by
  intro rest
  rfl

theorem Reads.bind {first : Reader ε α} {next : α → Reader ε β} {front back : Bytes}
    {value : α} {result : β} (readFirst : Reads first front value)
    (readNext : Reads (next value) back result) :
    Reads (first >>= next) (front ++ back) result := by
  intro rest
  simp only [Bind.bind, EStateM.bind, List.append_assoc, readFirst (back ++ rest)]
  exact readNext rest

theorem Reads.map {read : Reader ε α} {bytes : Bytes} {value : α} (f : α → β)
    (found : Reads read bytes value) : Reads (f <$> read) bytes (f value) := by
  intro rest
  simp only [Functor.map, EStateM.map, found rest]

theorem Reads.adaptExcept {δ : Type} {read : Reader ε α} {bytes : Bytes} {value : α} (f : ε → δ)
    (found : Reads read bytes value) : Reads (EStateM.adaptExcept f read) bytes value := by
  intro rest
  simp only [EStateM.adaptExcept, found rest]

theorem Reads.bind_pure {first : Reader ε α} {next : α → Reader ε β} {bytes : Bytes} {value : α}
    {result : β} (readFirst : Reads first bytes value) (decided : next value = Pure.pure result) :
    Reads (first >>= next) bytes result := by
  have readNext : Reads (next value) [] result := decided ▸ Reads.pure result
  simpa using Reads.bind readFirst readNext

theorem Refuses.bind_first {first : Reader ε α} {bytes : Bytes} {cause : ε}
    (refused : Refuses first bytes cause) (next : α → Reader ε β) :
    Refuses (first >>= next) bytes cause := by
  intro rest
  obtain ⟨left, failed⟩ := refused rest
  refine ⟨left, ?_⟩
  simp only [Bind.bind, EStateM.bind, failed]

theorem Refuses.bind_next {first : Reader ε α} {next : α → Reader ε β} {front back : Bytes}
    {value : α} {cause : ε} (readFirst : Reads first front value)
    (refused : Refuses (next value) back cause) :
    Refuses (first >>= next) (front ++ back) cause := by
  intro rest
  obtain ⟨left, failed⟩ := refused rest
  refine ⟨left, ?_⟩
  simpa only [Bind.bind, EStateM.bind, List.append_assoc, readFirst (back ++ rest)] using failed

theorem Refuses.append {read : Reader ε α} {bytes : Bytes} {cause : ε}
    (refused : Refuses read bytes cause) (more : Bytes) : Refuses read (bytes ++ more) cause := by
  intro rest
  simpa only [List.append_assoc] using refused (more ++ rest)

/-! The primitive readers. -/

theorem reads_take (bytes : Bytes) : Reads (take bytes.length) bytes bytes := by
  intro rest
  simp [take, split?_append]

theorem reads_int32 (number : Int32) :
    Reads int32 (Number.bigEndian 4 number.toUInt32.toNat) number := by
  have bound : number.toUInt32.toNat < 256 ^ 4 := number.toUInt32.toNat_lt
  have taken := reads_take (Number.bigEndian 4 number.toUInt32.toNat)
  rw [Number.length_bigEndian] at taken
  apply Reads.bind_pure taken
  rw [Number.ofBigEndian_bigEndian, Nat.mod_eq_of_lt bound, UInt32.ofNat_toNat,
    Int32.toInt32_toUInt32]

theorem reads_text (content : String) (short : (Text.utf8 content).length < 256 ^ 2) :
    Reads text (Number.bigEndian 2 (Text.utf8 content).length ++ Text.utf8 content) content := by
  have lengthTaken := reads_take (Number.bigEndian 2 (Text.utf8 content).length)
  rw [Number.length_bigEndian] at lengthTaken
  apply Reads.bind lengthTaken
  rw [Number.ofBigEndian_bigEndian, Nat.mod_eq_of_lt short]
  apply Reads.bind_pure (reads_take _)
  simp only [Text.ofUtf8?_utf8]

end Reader

end ColumnChecks
