import ColumnChecks.Proofs.Wire.Delimited
import ColumnChecks.Wire.Output

/-! How many bytes a reader takes at least from the front of its input whenever it succeeds, and how
many elements a list in that input can therefore have. -/

namespace ColumnChecks

namespace Reader

variable {ε α β : Type}

def Takes (least : Nat) (read : Reader ε α) : Prop :=
  ∀ input value rest, read input = .ok value rest →
    ∃ used, input = used ++ rest ∧ least ≤ used.length

theorem Takes.pure (value : α) : Takes 0 (Pure.pure value : Reader ε α) := by
  intro input found rest read
  cases read
  exact ⟨[], rfl, Nat.le_refl 0⟩

theorem Takes.throw (least : Nat) (cause : ε) : Takes least (throw cause : Reader ε α) := by
  intro input found rest read
  cases read

theorem Takes.mono {least more : Nat} {read : Reader ε α} (takes : Takes more read)
    (fewer : least ≤ more) : Takes least read := by
  intro input value rest found
  obtain ⟨used, whole, enough⟩ := takes input value rest found
  exact ⟨used, whole, Nat.le_trans fewer enough⟩

theorem Takes.bind {least more : Nat} {first : Reader ε α} {next : α → Reader ε β}
    (firstTakes : Takes least first) (nextTakes : ∀ value, Takes more (next value)) :
    Takes (least + more) (first >>= next) := by
  intro input result rest read
  obtain ⟨value, middle, readFirst, readNext⟩ := bind_eq_ok_iff.mp read
  obtain ⟨front, rfl, enoughFirst⟩ := firstTakes _ _ _ readFirst
  obtain ⟨back, rfl, enoughNext⟩ := nextTakes _ _ _ _ readNext
  refine ⟨front ++ back, by simp, ?_⟩
  rw [List.length_append]
  omega

theorem Takes.map {least : Nat} {read : Reader ε α} (f : α → β) (takes : Takes least read) :
    Takes least (f <$> read) := by
  have returned : ∀ value, Takes 0 (Pure.pure (f value) : Reader ε β) :=
    fun value => Takes.pure (f value)
  exact takes.bind returned

theorem Takes.adaptExcept {δ : Type} {least : Nat} {read : Reader ε α} {f : ε → δ}
    (takes : Takes least read) : Takes least (EStateM.adaptExcept f read) :=
  fun _ _ _ found => takes _ _ _ (adaptExcept_eq_ok_iff.mp found)

theorem Takes.times {least : Nat} {read : Reader ε α} (takes : Takes least read) (count : Nat) :
    Takes (count * least) (times read count) := by
  induction count with
  | zero =>
      rw [Nat.zero_mul]
      exact Takes.pure []
  | succ count ih =>
      rw [Nat.add_mul, Nat.one_mul, Nat.add_comm]
      exact takes.bind fun _ => ih.bind fun _ => Takes.pure _

/-! Lists, by their first element. -/

theorem times_succ_eq_ok_iff {read : Reader ε α} {count : Nat} {input rest : Bytes}
    {values : List α} :
    times read (count + 1) input = .ok values rest ↔
      ∃ first middle others, read input = .ok first middle ∧
        times read count middle = .ok others rest ∧ values = first :: others := by
  simp only [times, bind_eq_ok_iff]
  constructor
  · rintro ⟨first, middle, readFirst, others, left, readOthers, returned⟩
    cases returned
    exact ⟨first, middle, others, readFirst, readOthers, rfl⟩
  · rintro ⟨first, middle, others, readFirst, readOthers, rfl⟩
    exact ⟨first, middle, readFirst, others, rest, readOthers, rfl⟩

theorem times_succ_eq_error_iff {read : Reader ε α} {count : Nat} {input left : Bytes} {cause : ε} :
    times read (count + 1) input = .error cause left ↔
      read input = .error cause left ∨
        ∃ first middle, read input = .ok first middle ∧
          times read count middle = .error cause left := by
  simp only [times, bind_eq_error_iff]
  constructor
  · rintro (failed | ⟨first, middle, readFirst, failed | ⟨others, rest, _, returned⟩⟩)
    · exact Or.inl failed
    · exact Or.inr ⟨first, middle, readFirst, failed⟩
    · cases returned
  · rintro (failed | ⟨first, middle, readFirst, failed⟩)
    · exact Or.inl failed
    · exact Or.inr ⟨first, middle, readFirst, Or.inl failed⟩

/-- If an element cannot be read, then neither can a list that it is in. -/
theorem times_eq_error_of_turn {read : Reader ε α} {turns count : Nat} {input middle left : Bytes}
    {earlier : List α} {cause : ε} (before : turns < count)
    (readEarlier : times read turns input = .ok earlier middle)
    (failed : read middle = .error cause left) : times read count input = .error cause left := by
  induction turns generalizing count input earlier with
  | zero =>
      obtain ⟨more, rfl⟩ : ∃ more, count = more + 1 := ⟨count - 1, by omega⟩
      cases readEarlier
      exact times_succ_eq_error_iff.mpr (Or.inl failed)
  | succ turns ih =>
      obtain ⟨more, rfl⟩ : ∃ more, count = more + 1 := ⟨count - 1, by omega⟩
      obtain ⟨first, rest, others, readFirst, readOthers, rfl⟩ :=
        times_succ_eq_ok_iff.mp readEarlier
      exact times_succ_eq_error_iff.mpr
        (Or.inr ⟨first, rest, readFirst, ih (by omega) readOthers⟩)

theorem length_of_times {read : Reader ε α} {count : Nat} {input rest : Bytes} {values : List α}
    (found : times read count input = .ok values rest) : values.length = count := by
  induction count generalizing input values with
  | zero =>
      cases found
      rfl
  | succ count ih =>
      obtain ⟨first, middle, others, _, readOthers, rfl⟩ := times_succ_eq_ok_iff.mp found
      rw [List.length_cons, ih readOthers]

theorem mul_le_length_of_times {least : Nat} {read : Reader ε α} (takes : Takes least read)
    {count : Nat} {input rest : Bytes} {values : List α}
    (found : times read count input = .ok values rest) : count * least ≤ input.length := by
  obtain ⟨used, rfl, enough⟩ := takes.times count _ _ _ found
  rw [List.length_append]
  omega

/-! The primitive readers. -/

theorem take_eq_ok_iff {count : Nat} {input front rest : Bytes} :
    take count input = .ok front rest ↔ input = front ++ rest ∧ front.length = count := by
  rw [← split?_eq_some_iff, take]
  cases split? count input with
  | none => simp
  | some pair => simp [Prod.ext_iff]

theorem takes_take (count : Nat) : Takes count (take count) := by
  intro input front rest read
  obtain ⟨whole, length⟩ := take_eq_ok_iff.mp read
  exact ⟨front, whole, Nat.le_of_eq length.symm⟩

theorem takes_int32 : Takes 4 int32 :=
  (takes_take 4).bind fun _ => Takes.pure _

theorem used_of_text {input rest : Bytes} {content : String}
    (read : text input = .ok content rest) :
    ∃ used, input = used ++ rest ∧ used.length = textSize content := by
  -- A text takes two bytes for its length and then its own.
  obtain ⟨length, afterLength, readLength, readContent⟩ := bind_eq_ok_iff.mp read
  obtain ⟨rfl, two⟩ := take_eq_ok_iff.mp readLength
  obtain ⟨bytes, afterBytes, readBytes, decoded⟩ := bind_eq_ok_iff.mp readContent
  obtain ⟨rfl, _⟩ := take_eq_ok_iff.mp readBytes
  cases valid : Text.ofUtf8? bytes with
  | none =>
      simp only [valid] at decoded
      cases decoded
  | some found =>
      simp only [valid] at decoded
      cases decoded
      refine ⟨length ++ bytes, by simp, ?_⟩
      rw [List.length_append, two, textSize, Text.utf8_of_ofUtf8? valid]

theorem takes_text : Takes 2 text := by
  intro input content rest read
  obtain ⟨used, whole, length⟩ := used_of_text read
  rw [textSize] at length
  exact ⟨used, whole, by omega⟩

end Reader

end ColumnChecks
