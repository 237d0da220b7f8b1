import ColumnChecks.Proofs.Constraint.RoundTrip

/-! Fields in any mix, some of them refused. What could be written reads back in its order, by
readers that know no more of each field than its kind. -/

namespace ColumnChecks

open Reader

namespace Field

inductive Kind where
  | word
  | count
  | operator
  | text
  deriving DecidableEq

def kind : Field → Kind
  | word _ => .word
  | count _ => .count
  | operator _ => .operator
  | text _ => .text

def Kind.read : Kind → ConstraintReader Field
  | word => .word <$> ConstraintReader.int32
  | count => .count <$> ConstraintReader.count
  | operator => .operator <$> ConstraintReader.operator
  | text => .text <$> ConstraintReader.text

/-- Writes the fields in turn, each whatever became of those before it. The result is the fields
that could be written, and the output after the last. -/
def tryEach : List Field → Output → List Field × Output
  | [], output => ([], output)
  | first :: rest, output =>
      match first.write output with
      | .ok _ after => (tryEach rest after).map (first :: ·) id
      | .error _ after => tryEach rest after

def eachSize : List Field → Nat
  | [] => 0
  | first :: rest => first.size + eachSize rest

theorem tryEach_eq (fields : List Field) (before : Output) :
    tryEach fields before = (fields.filter (·.Fits),
      before.append ((fields.filter (·.Fits)).flatMap bytes)) := by
  induction fields generalizing before with
  | nil => rfl
  | cons first rest ih =>
      simp only [tryEach, write_eq]
      cases refused : first.refusal? with
      | none =>
          have fits : first.Fits := refused
          simp [ih, fits, Output.append_append]
      | some cause =>
          have unfit : ¬ first.Fits := by simp [Fits, refused]
          simp [ih, unfit]

theorem reads_kind {field : Field} (fits : field.Fits) :
    Reads field.kind.read field.bytes field := by
  cases field with
  | word number => exact (ConstraintReader.reads_int32 number).map word
  | count length => exact (ConstraintReader.reads_count fits).map count
  | operator relation => exact (ConstraintReader.reads_operator relation).map operator
  | text content => exact (ConstraintReader.reads_text fits).map text

theorem reads_kinds {fields : List Field} (fits : ∀ field ∈ fields, field.Fits) :
    Reads ((fields.map kind).mapM Kind.read) (fields.flatMap bytes) fields := by
  induction fields with
  | nil => exact Reads.pure []
  | cons first rest ih =>
      have others := ih fun field member => fits field (List.mem_cons_of_mem first member)
      rw [List.map_cons, List.mapM_cons, List.flatMap_cons]
      apply Reads.bind (reads_kind (fits first List.mem_cons_self))
      exact Reads.bind_pure others rfl

theorem length_flatMap_bytes (fields : List Field) :
    (fields.flatMap bytes).length = eachSize fields := by
  induction fields with
  | nil => rfl
  | cons first rest ih =>
      rw [List.flatMap_cons, List.length_append, length_bytes, ih, eachSize]

/-- Numbers and operators are never refused, and a text is exactly if it has more than 65535 bytes.
A refused field leaves the output as it was, any other adds as many bytes as its size says. After
any sequence of fields, with failures in between, the bytes that were added read back as the fields
that were written, kind by kind, and what follows them is left. -/
theorem tryEach_reads_back :
    (∀ content before, (∃ cause after, (text content).write before = .error cause after) ↔
      65535 < (Text.utf8 content).length) ∧
    (∀ number before, ∃ after, (word number).write before = .ok () after) ∧
    (∀ relation before, ∃ after, (operator relation).write before = .ok () after) ∧
    (∀ (field : Field) (before : Output),
      match field.write before with
      | .ok _ after =>
        field.Fits ∧ ∃ added, after.bytes = before.bytes ++ added ∧ added.length = field.size
      | .error _ after => ¬field.Fits ∧ after = before) ∧
    ∀ fields before,
      let written := (tryEach fields before).1
      written = fields.filter (·.Fits) ∧
        ∃ added, (tryEach fields before).2.bytes = before.bytes ++ added ∧
          added.length = eachSize written ∧
          ∀ rest, (written.map kind).mapM Kind.read (added ++ rest) = .ok written rest := by
  refine ⟨?_, fun number before => ⟨_, rfl⟩, fun relation before => ⟨_, rfl⟩, ?_, ?_⟩
  · intro content before
    rw [write_eq, refusal?, Writer.longestText]
    by_cases short : (Text.utf8 content).length ≤ 65535
    · simp [short]
    · simp [short, Nat.lt_of_not_le short]
  · intro field before
    rw [write_eq]
    cases refused : field.refusal? with
    | none => exact ⟨refused, field.bytes, Output.bytes_append _ _, field.length_bytes⟩
    | some cause => exact ⟨by simp [Fits, refused], rfl⟩
  · intro fields before
    rw [tryEach_eq]
    have fits : ∀ field ∈ fields.filter (·.Fits), field.Fits := by simp
    exact ⟨rfl, _, Output.bytes_append _ _, length_flatMap_bytes _, reads_kinds fits⟩

example : (tryEach [.word (-2), .text "ö", .operator .unequal] .empty).2.bytes =
    [255, 255, 255, 254, 0, 2, 195, 182, 0, 0, 0, 8] := by decide +kernel

end Field

end ColumnChecks
