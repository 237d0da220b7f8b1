import ColumnChecks.Constraint.Encoding
import ColumnChecks.Proofs.Constraint.Tree

/-! The stored form of constraints as a flat list of fields. Writing a constraint writes its fields
in order, up to the first one that cannot be written. -/

namespace ColumnChecks

inductive Field where
  | word (number : Int32)
  | count (length : Nat)
  | operator (relation : Operator)
  | text (content : String)

namespace Field

def bytes : Field → Bytes
  | word number => Number.bigEndian 4 number.toUInt32.toNat
  | count length => Number.bigEndian 4 (Int32.ofNat length).toUInt32.toNat
  | operator relation => Number.bigEndian 4 relation.id.toUInt32.toNat
  | text content =>
      Number.bigEndian 2 (Text.utf8 content).length ++ Text.utf8 content

def refusal? : Field → Option WireError
  | word _ => none
  | count length => if length < 2 ^ 31 then none else some (.tooManyConstraints length)
  | operator _ => none
  | text content =>
      if (Text.utf8 content).length ≤ Writer.longestText then none
      else some (.textTooLong (Text.utf8 content).length)

def Fits (field : Field) : Prop :=
  field.refusal? = none

instance (field : Field) : Decidable field.Fits :=
  inferInstanceAs (Decidable (field.refusal? = none))

theorem fits_text_iff {content : String} :
    Fits (text content) ↔ (Text.utf8 content).length ≤ Writer.longestText := by
  simp [Fits, refusal?]

theorem fits_count_iff {length : Nat} : Fits (count length) ↔ length < 2 ^ 31 := by
  simp [Fits, refusal?]

def write : Field → Writer
  | word number => Writer.int32 number
  | count length => Constraint.writeCount length
  | operator relation => relation.write
  | text content => Writer.text content

theorem write_eq (field : Field) (before : Output) :
    field.write before =
      match field.refusal? with
      | none => .ok () (before.append field.bytes)
      | some cause => .error cause before := by
  cases field with
  | word number => rfl
  | operator relation => rfl
  | count length =>
      simp only [write, refusal?, Constraint.writeCount]
      split <;> rfl
  | text content =>
      simp only [write, refusal?, Writer.text]
      split <;> rfl

def writeAll : List Field → Writer
  | [] => pure ()
  | first :: rest => do
      first.write
      writeAll rest

theorem writeAll_append (front back : List Field) :
    writeAll (front ++ back) = (do writeAll front; writeAll back) := by
  induction front with
  | nil => simp [writeAll]
  | cons first rest ih => simp [writeAll, ih]

/-- The fields before the first one that is refused are written, and its refusal is the failure. -/
theorem writeAll_eq (fields : List Field) (before : Output) :
    writeAll fields before =
      match fields.findSome? refusal? with
      | none => .ok () (before.append (fields.flatMap bytes))
      | some cause =>
          .error cause (before.append ((fields.takeWhile (·.refusal?.isNone)).flatMap bytes)) := by
  induction fields generalizing before with
  | nil => rfl
  | cons first rest ih =>
      simp only [writeAll, bind, EStateM.bind, write_eq first before]
      cases refused : first.refusal? with
      | none =>
          simp only [ih, List.findSome?_cons, refused, List.takeWhile_cons, Option.isNone_none,
            List.flatMap_cons, ← Output.append_append, if_true]
      | some cause => simp [refused]

theorem writeAll_eq_ok_iff {fields : List Field} {before after : Output} :
    writeAll fields before = .ok () after ↔
      (∀ field ∈ fields, field.Fits) ∧
        after = before.append (fields.flatMap bytes) := by
  rw [writeAll_eq]
  cases refused : fields.findSome? refusal? with
  | none =>
      have all := List.findSome?_eq_none_iff.mp refused
      simp only [EStateM.Result.ok.injEq, true_and]
      exact ⟨fun same => ⟨all, same.symm⟩, fun written => written.2.symm⟩
  | some cause =>
      obtain ⟨field, member, found⟩ := List.exists_of_findSome?_eq_some refused
      simp only [reduceCtorEq, false_iff]
      rintro ⟨all, _⟩
      rw [all field member] at found
      simp at found

theorem writeAll_eq_error_iff {fields : List Field} {before after : Output} {cause : WireError} :
    writeAll fields before = .error cause after ↔
      ∃ front field back, fields = front ++ field :: back ∧ (∀ earlier ∈ front, earlier.Fits) ∧
        field.refusal? = some cause ∧ after = before.append (front.flatMap bytes) := by
  constructor
  · intro failed
    rw [writeAll_eq] at failed
    cases refused : fields.findSome? refusal? with
    | none => simp [refused] at failed
    | some first =>
        obtain ⟨front, field, back, rfl, found, fit⟩ := List.findSome?_eq_some_iff.mp refused
        have reached : (front ++ field :: back).takeWhile (·.refusal?.isNone) = front := by
          rw [List.takeWhile_append_of_pos fun earlier member => by simp [fit earlier member]]
          simp [found]
        simp only [refused, reached, EStateM.Result.error.injEq] at failed
        exact ⟨front, field, back, rfl, fit, failed.1 ▸ found, failed.2.symm⟩
  · rintro ⟨front, field, back, rfl, fit, found, rfl⟩
    have written : writeAll front before = .ok () (before.append (front.flatMap bytes)) :=
      writeAll_eq_ok_iff.mpr ⟨fit, rfl⟩
    simp [writeAll_append, writeAll, bind, EStateM.bind, written, write_eq, found]

def size : Field → Nat
  | word _ => int32Size
  | count _ => int32Size
  | operator _ => Operator.wireSize
  | text content => textSize content

theorem length_bytes (field : Field) : field.bytes.length = field.size := by
  cases field <;> simp [bytes, size, Number.length_bigEndian, textSize, int32Size,
    Operator.wireSize]

end Field

def Comparison.fields (comparison : Comparison) : List Field :=
  [.text comparison.column.toCql, .operator comparison.operator, .text comparison.term]

def MeasureComparison.fields (comparison : MeasureComparison) : List Field :=
  [.text comparison.column.toCql, .text comparison.measure.name, .operator comparison.operator,
    .text comparison.term]

def Application.fields (application : Application) : List Field :=
  [.text application.column.toCql, .text application.function.name]

namespace Constraint

mutual

def payloadFields : Constraint → List Field
  | composed column children =>
      .text column.toCql :: .count children.length :: eachFields children
  | function comparison => comparison.fields
  | scalar comparison => comparison.fields
  | unary application => application.fields

def eachFields : List Constraint → List Field
  | [] => []
  | first :: rest => .word first.kind.tag :: (first.payloadFields ++ eachFields rest)

end

def fields (constraint : Constraint) : List Field :=
  .word constraint.kind.tag :: constraint.payloadFields

def listFields (constraints : List Constraint) : List Field :=
  .count constraints.length :: eachFields constraints

theorem eachFields_cons (first : Constraint) (rest : List Constraint) :
    eachFields (first :: rest) = first.fields ++ eachFields rest := by
  simp [eachFields, fields]

theorem mem_eachFields {constraints : List Constraint} {field : Field} :
    field ∈ eachFields constraints ↔ ∃ constraint ∈ constraints, field ∈ constraint.fields := by
  induction constraints with
  | nil => simp [eachFields]
  | cons first rest ih => simp [eachFields_cons, ih]

theorem writeEach_eq_of_payloads {constraints : List Constraint}
    (payloads : ∀ constraint ∈ constraints,
      constraint.writePayload = Field.writeAll constraint.payloadFields) :
    writeEach constraints = Field.writeAll (eachFields constraints) := by
  induction constraints with
  | nil => simp [writeEach, eachFields, Field.writeAll]
  | cons first rest ih =>
      have tail := ih fun constraint member => payloads constraint (by simp [member])
      simp [writeEach, eachFields, Field.writeAll, Field.writeAll_append, Field.write, tail,
        payloads first (by simp)]

theorem writePayload_eq (constraint : Constraint) :
    constraint.writePayload = Field.writeAll constraint.payloadFields := by
  induction constraint with
  | composed column children ih =>
      simp [writePayload, payloadFields, Field.writeAll, Field.write, writeEach_eq_of_payloads ih]
  | function comparison =>
      simp [writePayload, payloadFields, MeasureComparison.write, MeasureComparison.fields,
        Field.writeAll, Field.write]
  | scalar comparison =>
      simp [writePayload, payloadFields, Comparison.write, Comparison.fields, Field.writeAll,
        Field.write]
  | unary application =>
      simp [writePayload, payloadFields, Application.write, Application.fields, Field.writeAll,
        Field.write]

theorem writeEach_eq (constraints : List Constraint) :
    writeEach constraints = Field.writeAll (eachFields constraints) :=
  writeEach_eq_of_payloads fun constraint _ => constraint.writePayload_eq

theorem write_eq (version : Version) (constraint : Constraint) :
    constraint.write version = Field.writeAll constraint.fields := by
  simp [write, fields, Field.writeAll, Field.write, writePayload_eq]

theorem write_eq_ok {version : Version} {constraint : Constraint} (before : Output)
    (fits : ∀ field ∈ constraint.fields, field.Fits) :
    constraint.write version before =
      .ok () (before.append (constraint.fields.flatMap Field.bytes)) := by
  rw [write_eq]
  exact Field.writeAll_eq_ok_iff.mpr ⟨fits, rfl⟩

theorem writeList_eq (version : Version) (constraints : List Constraint) :
    writeList version constraints = Field.writeAll (listFields constraints) := by
  simp [writeList, listFields, Field.writeAll, Field.write, writeEach_eq]

theorem writeList_eq_ok {version : Version} {constraints : List Constraint} (before : Output)
    (fits : ∀ field ∈ listFields constraints, field.Fits) :
    writeList version constraints before =
      .ok () (before.append ((listFields constraints).flatMap Field.bytes)) := by
  rw [writeList_eq]
  exact Field.writeAll_eq_ok_iff.mpr ⟨fits, rfl⟩

end Constraint

end ColumnChecks
