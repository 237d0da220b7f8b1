import ColumnChecks.Proofs.Wire.Delimited

/-! What all values that a reader returns have in common, from any input, and all causes for which
it fails. -/

namespace ColumnChecks

namespace Reader

variable {ε α β : Type} {property : α → Prop} {result : β → Prop} {fault : ε → Prop}

/-- All that the reader returns, from any input, has the property. -/
def Yields (property : α → Prop) (read : Reader ε α) : Prop :=
  ∀ input value rest, read input = .ok value rest → property value

theorem Yields.pure {value : α} (holds : property value) :
    Yields property (Pure.pure value : Reader ε α) := by
  intro input found rest read
  cases read
  exact holds

theorem Yields.throw (cause : ε) : Yields property (throw cause : Reader ε α) := by
  intro input found rest read
  cases read

theorem Yields.bind {first : Reader ε α} {next : α → Reader ε β}
    (firstYields : Yields property first)
    (nextYields : ∀ value, property value → Yields result (next value)) :
    Yields result (first >>= next) := by
  intro input found rest read
  obtain ⟨value, middle, readFirst, readNext⟩ := bind_eq_ok_iff.mp read
  exact nextYields value (firstYields _ _ _ readFirst) _ _ _ readNext

theorem Yields.bind_next {first : Reader ε α} {next : α → Reader ε β}
    (nextYields : ∀ value, Yields result (next value)) : Yields result (first >>= next) := by
  have anything : Yields (fun _ => True) first := fun _ _ _ _ => trivial
  exact anything.bind fun value _ => nextYields value

theorem Yields.map {read : Reader ε α} {f : α → β} (holds : ∀ value, result (f value)) :
    Yields result (f <$> read) := by
  have returned : ∀ value, Yields result (Pure.pure (f value) : Reader ε β) :=
    fun value => Yields.pure (holds value)
  exact Yields.bind_next returned

theorem Yields.times {read : Reader ε α} (each : Yields property read) :
    ∀ count, Yields (fun values => ∀ value ∈ values, property value) (times read count)
  | 0 => Yields.pure (by simp)
  | count + 1 => each.bind fun first holds => (Yields.times each count).bind fun rest others =>
      Yields.pure (List.forall_mem_cons.mpr ⟨holds, others⟩)

def Fails (fault : ε → Prop) (read : Reader ε α) : Prop :=
  ∀ input cause rest, read input = .error cause rest → fault cause

theorem Fails.pure (value : α) : Fails fault (Pure.pure value : Reader ε α) := by
  intro input cause rest failed
  cases failed

theorem Fails.throw {cause : ε} (holds : fault cause) : Fails fault (throw cause : Reader ε α) := by
  intro input found rest failed
  cases failed
  exact holds

theorem Fails.bind {first : Reader ε α} {next : α → Reader ε β} (firstFails : Fails fault first)
    (nextFails : ∀ value, Fails fault (next value)) : Fails fault (first >>= next) := by
  intro input cause rest failed
  rcases bind_eq_error_iff.mp failed with early | ⟨value, middle, _, late⟩
  · exact firstFails _ _ _ early
  · exact nextFails value _ _ _ late

theorem Fails.map {read : Reader ε α} (f : α → β) (fails : Fails fault read) :
    Fails fault (f <$> read) := by
  have returned : ∀ value, Fails fault (Pure.pure (f value) : Reader ε β) :=
    fun value => Fails.pure (f value)
  exact fails.bind returned

theorem Fails.adaptExcept {δ : Type} {read : Reader δ α} {f : δ → ε}
    (holds : ∀ cause, fault (f cause)) : Fails fault (EStateM.adaptExcept f read) := by
  intro input cause rest failed
  obtain ⟨first, _, rfl⟩ := adaptExcept_eq_error_iff.mp failed
  exact holds first

theorem Fails.times {read : Reader ε α} (each : Fails fault read) :
    ∀ count, Fails fault (times read count)
  | 0 => Fails.pure []
  | count + 1 => each.bind fun _ => (Fails.times each count).bind fun _ => Fails.pure _

theorem times_map (f : α → β) (read : Reader ε α) (count : Nat) :
    times (f <$> read) count = List.map f <$> times read count := by
  induction count with
  | zero => rfl
  | succ count ih => simp only [times, ih, map_bind, bind_map_left, map_pure, List.map_cons]

end Reader

end ColumnChecks
