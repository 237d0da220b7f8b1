import ColumnChecks.Proofs.Wire.Reads

/-! Readers that find the end of what they read by themselves: nothing that follows it matters, and
an input that stops before it is refused as too short. -/

namespace ColumnChecks

def WireError.IsShort (cause : WireError) : Prop :=
  ∃ needed remaining, cause = .unexpectedEnd needed remaining

theorem split?_eq_none_of_short {count : Nat} {input : Bytes} (few : input.length < count) :
    split? count input = none := by
  cases found : split? count input with
  | none => rfl
  | some pair =>
      obtain ⟨whole, length⟩ := split?_eq_some_iff.mp found
      rw [whole, List.length_append] at few
      omega

namespace Reader

variable {ε α β : Type} {short : ε → Prop}

def StopsShort (short : ε → Prop) (read : Reader ε α) (bytes : Bytes) : Prop :=
  ∃ cause left, read bytes = .error cause left ∧ short cause

/-- `short` tells the causes that mean missing input from the others. -/
structure Delimited (short : ε → Prop) (read : Reader ε α) : Prop where
  accepts : ∀ {input : Bytes} {value : α} {rest : Bytes}, read input = .ok value rest →
    ∃ used, input = used ++ rest ∧ Reads read used value ∧
      ∀ part missing, used = part ++ missing → missing ≠ [] → StopsShort short read part
  refuses : ∀ {input : Bytes} {cause : ε} {left : Bytes}, read input = .error cause left →
    ¬short cause → Refuses read input cause

theorem StopsShort.bind_first {first : Reader ε α} {bytes : Bytes}
    (stops : StopsShort short first bytes) (next : α → Reader ε β) :
    StopsShort short (first >>= next) bytes := by
  obtain ⟨cause, left, failed, missing⟩ := stops
  refine ⟨cause, left, ?_, missing⟩
  simp only [Bind.bind, EStateM.bind, failed]

theorem StopsShort.bind_next {first : Reader ε α} {next : α → Reader ε β} {front back : Bytes}
    {value : α} (readFirst : Reads first front value) (stops : StopsShort short (next value) back) :
    StopsShort short (first >>= next) (front ++ back) := by
  obtain ⟨cause, left, failed, missing⟩ := stops
  refine ⟨cause, left, ?_, missing⟩
  simpa only [Bind.bind, EStateM.bind, readFirst back] using failed

theorem bind_eq_ok_iff {first : Reader ε α} {next : α → Reader ε β} {input rest : Bytes}
    {result : β} :
    (first >>= next) input = .ok result rest ↔
      ∃ value middle, first input = .ok value middle ∧ next value middle = .ok result rest := by
  simp only [Bind.bind, EStateM.bind]
  cases first input with
  | ok value middle => simp [and_assoc]
  | error cause left => simp

theorem bind_eq_error_iff {first : Reader ε α} {next : α → Reader ε β} {input left : Bytes}
    {cause : ε} :
    (first >>= next) input = .error cause left ↔
      first input = .error cause left ∨
        ∃ value middle, first input = .ok value middle ∧ next value middle = .error cause left := by
  simp only [Bind.bind, EStateM.bind]
  cases first input with
  | ok value middle => simp [and_assoc]
  | error cause left => simp

theorem adaptExcept_eq_ok_iff {δ : Type} {read : Reader ε α} {f : ε → δ} {input rest : Bytes}
    {value : α} :
    EStateM.adaptExcept f read input = .ok value rest ↔ read input = .ok value rest := by
  rw [EStateM.adaptExcept]
  cases read input with
  | ok found left => simp
  | error cause left => simp

theorem adaptExcept_eq_error_iff {δ : Type} {read : Reader ε α} {f : ε → δ} {input left : Bytes}
    {cause : δ} :
    EStateM.adaptExcept f read input = .error cause left ↔
      ∃ first, read input = .error first left ∧ f first = cause := by
  rw [EStateM.adaptExcept]
  cases read input with
  | ok found rest => simp
  | error first rest =>
      constructor
      · rintro ⟨⟩
        exact ⟨first, rfl, rfl⟩
      · rintro ⟨_, ⟨⟩, rfl⟩
        rfl

theorem Delimited.pure (value : α) : Delimited short (Pure.pure value : Reader ε α) := by
  constructor
  · intro input result rest read
    cases read
    refine ⟨[], rfl, Reads.pure value, ?_⟩
    intro part missing split nonempty
    exact absurd (List.append_eq_nil_iff.mp split.symm).2 nonempty
  · intro input cause left read
    cases read

theorem Delimited.throw (cause : ε) : Delimited short (throw cause : Reader ε α) := by
  constructor
  · intro input result rest read
    cases read
  · intro input found left read _ rest
    cases read
    exact ⟨_, rfl⟩

theorem Delimited.bind {first : Reader ε α} {next : α → Reader ε β}
    (firstDelimited : Delimited short first)
    (nextDelimited : ∀ value, Delimited short (next value)) :
    Delimited short (first >>= next) := by
  constructor
  · intro input result rest read
    obtain ⟨value, middle, readFirst, readNext⟩ := bind_eq_ok_iff.mp read
    obtain ⟨front, rfl, frontReads, frontStops⟩ := firstDelimited.accepts readFirst
    obtain ⟨back, rfl, backReads, backStops⟩ := (nextDelimited value).accepts readNext
    refine ⟨front ++ back, by simp, frontReads.bind backReads, ?_⟩
    intro part missing split nonempty
    -- An input cut short ends behind all that the first reader takes, or within it.
    rcases List.append_eq_append_iff.mp split with ⟨taken, rfl, rfl⟩ | ⟨untaken, rfl, rfl⟩
    · exact (backStops taken missing rfl nonempty).bind_next frontReads
    · cases untaken with
      | nil =>
          rw [List.nil_append] at nonempty
          rw [List.append_nil] at frontReads
          simpa using (backStops [] back rfl nonempty).bind_next frontReads
      | cons byte others => exact (frontStops part _ rfl (by simp)).bind_first next
  · intro input cause left read notShort
    rcases bind_eq_error_iff.mp read with failed | ⟨value, middle, readFirst, failed⟩
    · exact (firstDelimited.refuses failed notShort).bind_first next
    · obtain ⟨front, rfl, frontReads, _⟩ := firstDelimited.accepts readFirst
      exact Refuses.bind_next frontReads ((nextDelimited value).refuses failed notShort)

theorem Delimited.map {read : Reader ε α} (f : α → β) (delimited : Delimited short read) :
    Delimited short (f <$> read) := by
  have returned : ∀ value, Delimited short (Pure.pure (f value) : Reader ε β) :=
    fun value => Delimited.pure (f value)
  exact delimited.bind returned

theorem Delimited.adaptExcept {δ : Type} {shortAfter : δ → Prop} {read : Reader ε α} {f : ε → δ}
    (delimited : Delimited short read) (same : ∀ cause, shortAfter (f cause) ↔ short cause) :
    Delimited shortAfter (EStateM.adaptExcept f read) := by
  have stopsShort : ∀ {bytes}, StopsShort short read bytes →
      StopsShort shortAfter (EStateM.adaptExcept f read) bytes := by
    rintro bytes ⟨cause, left, failed, missing⟩
    exact ⟨f cause, left, adaptExcept_eq_error_iff.mpr ⟨cause, failed, rfl⟩,
      (same cause).mpr missing⟩
  constructor
  · intro input value rest found
    obtain ⟨used, whole, reads, stops⟩ := delimited.accepts (adaptExcept_eq_ok_iff.mp found)
    exact ⟨used, whole, Reads.adaptExcept f reads, fun part missing split nonempty =>
      stopsShort (stops part missing split nonempty)⟩
  · intro input cause left failed notShort rest
    obtain ⟨first, failedFirst, rfl⟩ := adaptExcept_eq_error_iff.mp failed
    obtain ⟨left, refused⟩ :=
      delimited.refuses failedFirst (fun missing => notShort ((same first).mpr missing)) rest
    exact ⟨left, adaptExcept_eq_error_iff.mpr ⟨first, refused, rfl⟩⟩

theorem Delimited.times {read : Reader ε α} (delimited : Delimited short read) :
    ∀ count, Delimited short (times read count)
  | 0 => Delimited.pure []
  | count + 1 => delimited.bind fun _ => (delimited.times count).bind fun _ => Delimited.pure _

/-! The primitive readers. -/

theorem delimited_take (count : Nat) : Delimited WireError.IsShort (take count) := by
  constructor
  · intro input front rest read
    simp only [take] at read
    split at read
    · rename_i front' rest' found
      simp only [EStateM.Result.ok.injEq] at read
      obtain ⟨rfl, rfl⟩ := read
      obtain ⟨rfl, rfl⟩ := split?_eq_some_iff.mp found
      refine ⟨_, rfl, reads_take _, ?_⟩
      rintro part missing rfl nonempty
      have few : part.length < (part ++ missing).length := by
        have positive := List.length_pos_iff.mpr nonempty
        rw [List.length_append]
        omega
      refine ⟨.unexpectedEnd (part ++ missing).length part.length, part, ?_, ⟨_, _, rfl⟩⟩
      simp only [take, split?_eq_none_of_short few]
    · cases read
  · intro input cause left read notShort
    simp only [take] at read
    split at read
    · cases read
    · simp only [EStateM.Result.error.injEq] at read
      exact absurd ⟨_, _, read.1.symm⟩ notShort

theorem delimited_int32 : Delimited WireError.IsShort int32 :=
  (delimited_take 4).bind fun _ => Delimited.pure _

theorem delimited_text : Delimited WireError.IsShort text := by
  refine (delimited_take 2).bind fun length => (delimited_take _).bind fun content => ?_
  cases Text.ofUtf8? content with
  | none => exact Delimited.throw _
  | some text => exact Delimited.pure text

end Reader

end ColumnChecks
