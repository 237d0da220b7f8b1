import ColumnChecks.Constraint.Decoding
import ColumnChecks.Proofs.Column.NameRoundTrip
import ColumnChecks.Proofs.Constraint.Fields
import ColumnChecks.Proofs.Wire.Reads

/-! What was written reads back, unless more composed constraints enclose one another than the
reader allows. -/

namespace ColumnChecks

open Reader

namespace ConstraintReader

theorem reads_int32 (number : Int32) : Reads int32 (Field.word number).bytes number :=
  Reads.adaptExcept DecodeError.wire (Reader.reads_int32 number)

theorem reads_text {content : String} (fits : (Field.text content).Fits) :
    Reads text (Field.text content).bytes content := by
  have short : (Text.utf8 content).length ≤ 65535 := Field.fits_text_iff.mp fits
  exact Reads.adaptExcept DecodeError.wire (Reader.reads_text content (by omega))

theorem reads_columnName {name : ColumnName} (fits : (Field.text name.toCql).Fits) :
    Reads columnName (Field.text name.toCql).bytes name := by
  apply Reads.bind_pure (reads_text fits)
  rw [ColumnName.ofCql_toCql]

theorem reads_operator (relation : Operator) :
    Reads operator (Field.operator relation).bytes relation := by
  apply Reads.bind_pure (reads_int32 relation.id)
  simp only [Operator.ofId?_id]

theorem reads_kind (tagged : ConstraintKind) :
    Reads kind (Field.word tagged.tag).bytes tagged := by
  apply Reads.bind_pure (reads_int32 tagged.tag)
  simp only [ConstraintKind.ofTag?_tag]

theorem reads_count {length : Nat} (fits : (Field.count length).Fits) :
    Reads count (Field.count length).bytes length := by
  have number : (Int32.ofNat length).toInt = length :=
    Int32.toInt_ofNat_of_lt (Field.fits_count_iff.mp fits)
  have notNegative : ¬Int32.ofNat length < 0 := by
    rw [Int32.lt_iff_toInt_lt, number]
    simp
  apply Reads.bind_pure (reads_int32 (Int32.ofNat length))
  rw [if_neg notNegative, number, Int.toNat_natCast]

theorem reads_comparison {written : Comparison}
    (fits : ∀ field ∈ written.fields, field.Fits) :
    Reads comparison (written.fields.flatMap Field.bytes) written := by
  simp only [Comparison.fields, List.mem_cons, List.not_mem_nil, or_false, forall_eq_or_imp,
    forall_eq] at fits
  obtain ⟨column, _, term⟩ := fits
  apply Reads.bind (reads_columnName column)
  apply Reads.bind (reads_operator written.operator)
  apply Reads.bind (reads_text term)
  exact Reads.pure written

theorem reads_measureComparison {written : MeasureComparison}
    (fits : ∀ field ∈ written.fields, field.Fits) :
    Reads measureComparison (written.fields.flatMap Field.bytes) written := by
  simp only [MeasureComparison.fields, List.mem_cons, List.not_mem_nil, or_false,
    forall_eq_or_imp, forall_eq] at fits
  obtain ⟨column, name, _, term⟩ := fits
  apply Reads.bind (reads_columnName column)
  apply Reads.bind (reads_text name)
  apply Reads.bind (reads_operator written.operator)
  apply Reads.bind (reads_text term)
  simp only [Measure.ofName?_name]
  exact Reads.pure written

theorem reads_application {α : Type} {make? : String → ColumnName → Option α} {made : α}
    {written : Application} (fits : ∀ field ∈ written.fields, field.Fits)
    (makes : make? written.function.name written.column = some made) :
    Reads (application make?) (written.fields.flatMap Field.bytes) made := by
  simp only [Application.fields, List.mem_cons, List.not_mem_nil, or_false, forall_eq_or_imp,
    forall_eq] at fits
  obtain ⟨column, name⟩ := fits
  apply Reads.bind (reads_columnName column)
  apply Reads.bind (reads_text name)
  simp only [makes]
  exact Reads.pure made

end ConstraintReader

namespace Constraint

open ConstraintReader

/-- The bytes are taken as the value if as deep a nesting is allowed, and refused otherwise. -/
structure ReadsWithin {α : Type} (allowance : Nat) (read : ConstraintReader α) (bytes : Bytes)
    (value : α) (nesting : Nat) : Prop where
  reads : nesting ≤ allowance → Reads read bytes value
  refuses : allowance < nesting → Refuses read bytes (.nestingTooDeep (maxNesting + 1))

theorem ReadsWithin.of_reads {α : Type} {allowance : Nat} {read : ConstraintReader α}
    {bytes : Bytes} {value : α} (found : Reads read bytes value) :
    ReadsWithin allowance read bytes value 0 := by
  constructor
  · intro _
    exact found
  · intro deep
    omega

theorem readsWithin_envelope {allowance : Nat} {constraint : Constraint}
    (payload : ReadsWithin allowance (readPayload allowance constraint.kind)
      (constraint.payloadFields.flatMap Field.bytes) constraint constraint.nesting) :
    ReadsWithin allowance (readEnvelope allowance) (constraint.fields.flatMap Field.bytes)
      constraint constraint.nesting := by
  constructor
  · intro shallow
    exact Reads.bind (reads_kind constraint.kind) (payload.reads shallow)
  · intro deep
    exact Refuses.bind_next (reads_kind constraint.kind) (payload.refuses deep)

theorem readsWithin_times {allowance : Nat} {constraints : List Constraint}
    (envelopes : ∀ constraint ∈ constraints,
      ReadsWithin allowance (readEnvelope allowance) (constraint.fields.flatMap Field.bytes)
        constraint constraint.nesting) :
    ReadsWithin allowance (times (readEnvelope allowance) constraints.length)
      ((eachFields constraints).flatMap Field.bytes) constraints (nestingEach constraints) := by
  induction constraints with
  | nil =>
      constructor
      · intro _
        exact Reads.pure []
      · intro deep
        simp [nestingEach] at deep
  | cons first rest ih =>
      have head := envelopes first (by simp)
      have tail := ih fun constraint member => envelopes constraint (by simp [member])
      rw [eachFields_cons, List.flatMap_append]
      constructor
      · intro shallow
        simp only [nestingEach] at shallow
        apply Reads.bind (head.reads (by omega))
        exact Reads.bind_pure (tail.reads (by omega)) rfl
      · intro deep
        simp only [nestingEach] at deep
        by_cases deepFirst : allowance < first.nesting
        · exact Refuses.append (Refuses.bind_first (head.refuses deepFirst) _) _
        · apply Refuses.bind_next (head.reads (by omega))
          exact Refuses.bind_first (tail.refuses (by omega)) _

theorem unary?_name (application : Application) :
    unary? application.function.name application.column = some (.unary application) := by
  rw [unary?, UnaryFunction.ofName?_name]
  rfl

theorem readsWithin_payload (constraint : Constraint) :
    ∀ allowance, (∀ field ∈ constraint.payloadFields, field.Fits) →
      ReadsWithin allowance (readPayload allowance constraint.kind)
        (constraint.payloadFields.flatMap Field.bytes) constraint constraint.nesting := by
  induction constraint with
  | composed column children ih =>
      intro allowance fits
      simp only [payloadFields, List.mem_cons, forall_eq_or_imp, mem_eachFields] at fits
      obtain ⟨columnFits, countFits, childrenFit⟩ := fits
      cases allowance with
      | zero =>
          constructor
          · intro shallow
            simp [nesting] at shallow
          · intro _ rest
            exact ⟨_, rfl⟩
      | succ allowance =>
          have envelopes : ∀ child ∈ children, ReadsWithin allowance (readEnvelope allowance)
              (child.fields.flatMap Field.bytes) child child.nesting := by
            intro child member
            apply readsWithin_envelope
            apply ih child member
            intro field inside
            exact childrenFit field ⟨child, member, by simp [fields, inside]⟩
          have each := readsWithin_times envelopes
          constructor
          · intro shallow
            simp only [nesting] at shallow
            apply Reads.bind (reads_columnName columnFits)
            exact Reads.bind_pure ((reads_count countFits).bind (each.reads (by omega))) rfl
          · intro deep
            simp only [nesting] at deep
            apply Refuses.bind_next (reads_columnName columnFits)
            exact Refuses.bind_first
              (Refuses.bind_next (reads_count countFits) (each.refuses (by omega))) _
  | function comparison =>
      intro allowance fits
      apply ReadsWithin.of_reads
      exact Reads.map _ (reads_measureComparison fits)
  | scalar comparison =>
      intro allowance fits
      apply ReadsWithin.of_reads
      exact Reads.map _ (reads_comparison fits)
  | unary application =>
      intro allowance fits
      apply ReadsWithin.of_reads
      exact reads_application fits (unary?_name application)

theorem readsWithin_read (version : Version) {constraint : Constraint}
    (fits : ∀ field ∈ constraint.fields, field.Fits) :
    ReadsWithin maxNesting (read version) (constraint.fields.flatMap Field.bytes) constraint
      constraint.nesting := by
  apply readsWithin_envelope
  apply readsWithin_payload
  intro field member
  exact fits field (by simp [fields, member])

theorem readsWithin_readList (version : Version) {constraints : List Constraint}
    (fits : ∀ field ∈ listFields constraints, field.Fits) :
    ReadsWithin maxNesting (readList version) ((listFields constraints).flatMap Field.bytes)
      constraints (nestingEach constraints) := by
  simp only [listFields, List.mem_cons, forall_eq_or_imp, mem_eachFields] at fits
  obtain ⟨countFits, eachFits⟩ := fits
  have each := readsWithin_times fun constraint member =>
    readsWithin_read version fun field inside => eachFits field ⟨constraint, member, inside⟩
  constructor
  · intro shallow
    exact Reads.bind (reads_count countFits) (each.reads shallow)
  · intro deep
    exact Refuses.bind_next (reads_count countFits) (each.refuses deep)

/-- What writing a constraint or a list appends reads back in any version, whatever follows it, up
to the greatest nesting that is read; deeper nesting is refused by its level. -/
theorem read_of_write (writtenIn readIn : Version) :
    (∀ (constraint : Constraint) (before after : Output),
      constraint.write writtenIn before = .ok () after →
        ∃ bytes, after = before.append bytes ∧ ∀ rest,
          (constraint.nesting ≤ 32 →
            read readIn (bytes ++ rest) = .ok constraint rest) ∧
          (32 < constraint.nesting →
            ∃ left, read readIn (bytes ++ rest) = .error (.nestingTooDeep 33) left)) ∧
    (∀ (constraints : List Constraint) (before after : Output),
      writeList writtenIn constraints before = .ok () after →
        ∃ bytes, after = before.append bytes ∧ ∀ rest,
          (nestingEach constraints ≤ 32 →
            readList readIn (bytes ++ rest) = .ok constraints rest) ∧
          (32 < nestingEach constraints →
            ∃ left, readList readIn (bytes ++ rest) = .error (.nestingTooDeep 33) left)) := by
  constructor
  · intro constraint before after written
    rw [write_eq, Field.writeAll_eq_ok_iff] at written
    have back := readsWithin_read readIn written.1
    exact ⟨_, written.2, fun rest =>
      ⟨fun shallow => back.reads shallow rest, fun deep => back.refuses deep rest⟩⟩
  · intro constraints before after written
    rw [writeList_eq, Field.writeAll_eq_ok_iff] at written
    have back := readsWithin_readList readIn written.1
    exact ⟨_, written.2, fun rest =>
      ⟨fun shallow => back.reads shallow rest, fun deep => back.refuses deep rest⟩⟩

def tower (column : ColumnName) : (height : Nat) → Constraint
  | 0 => .composed column []
  | height + 1 => .composed column [tower column height]

theorem nesting_tower (column : ColumnName) (height : Nat) :
    (tower column height).nesting = height + 1 := by
  induction height with
  | zero => rfl
  | succ height ih => simp [tower, nesting, nestingEach, ih]

theorem fits_tower {column : ColumnName} (height : Nat) (fits : (Field.text column.toCql).Fits) :
    ∀ field ∈ (tower column height).fields, field.Fits := by
  induction height with
  | zero =>
      simp only [tower, fields, payloadFields, eachFields, List.mem_cons, List.not_mem_nil,
        or_false, forall_eq_or_imp, forall_eq]
      exact ⟨rfl, fits, rfl⟩
  | succ height ih =>
      have outer : ∀ field ∈ (tower column (height + 1)).fields,
          field = .word 0 ∨ field = .text column.toCql ∨ field = .count 1 ∨
            field ∈ (tower column height).fields := by
        simp [tower, fields, payloadFields, mem_eachFields, kind, ConstraintKind.tag]
      intro field member
      rcases outer field member with rfl | rfl | rfl | inner
      · rfl
      · exact fits
      · rfl
      · exact ih field inner

def quotedSample : Constraint :=
  .composed ⟨"Größe \"x\""⟩
    [.function ⟨.octetLength, ⟨"Größe \"x\""⟩, .atMost, " 10"⟩,
      .composed ⟨""⟩ [.unary ⟨.notNull, ⟨"v"⟩⟩, .scalar ⟨⟨"v"⟩, .unequal, "∞"⟩]]

theorem read_of_write_sample :
    (∃ bytes, quotedSample.write .v0 .empty = .ok () (Output.empty.append bytes) ∧
      read .v2 (bytes ++ [7]) = .ok quotedSample [7]) ∧
    (∃ bytes left, (tower ⟨"v"⟩ 32).write .v1 .empty = .ok () (Output.empty.append bytes) ∧
      read .v0 (bytes ++ []) = .error (.nestingTooDeep 33) left) ∧
    (∃ bytes, writeList .v0 [quotedSample] .empty = .ok () (Output.empty.append bytes) ∧
      readList .v2 (bytes ++ [7]) = .ok [quotedSample] [7]) ∧
    (∃ bytes left, writeList .v1 [tower ⟨"v"⟩ 32] .empty =
        .ok () (Output.empty.append bytes) ∧
      readList .v0 (bytes ++ []) = .error (.nestingTooDeep 33) left) := by
  have towerFits := @fits_tower ⟨"v"⟩ 32 (by decide)
  have towerListFits : ∀ field ∈ listFields [tower ⟨"v"⟩ 32], field.Fits := by
    intro field member
    simp only [listFields, List.mem_cons, mem_eachFields, List.not_mem_nil, or_false,
      exists_eq_left] at member
    rcases member with rfl | inner
    · rfl
    · exact towerFits field inner
  have deep : 32 < (tower ⟨"v"⟩ 32).nesting := by simp [nesting_tower]
  have deepList : 32 < nestingEach [tower ⟨"v"⟩ 32] := by simp [nestingEach, nesting_tower]
  refine ⟨?_, ?_, ?_, ?_⟩
  · have written := @write_eq_ok .v0 quotedSample .empty (by decide)
    obtain ⟨bytes, same, back⟩ := (read_of_write .v0 .v2).1 _ _ _ written
    exact ⟨bytes, same ▸ written, (back [7]).1 (by decide)⟩
  · have written := @write_eq_ok .v1 _ .empty towerFits
    obtain ⟨bytes, same, back⟩ := (read_of_write .v1 .v0).1 _ _ _ written
    obtain ⟨left, refused⟩ := (back []).2 deep
    exact ⟨bytes, left, same ▸ written, refused⟩
  · have written := @writeList_eq_ok .v0 [quotedSample] .empty (by decide)
    obtain ⟨bytes, same, back⟩ := (read_of_write .v0 .v2).2 _ _ _ written
    exact ⟨bytes, same ▸ written, (back [7]).1 (by decide)⟩
  · have written := @writeList_eq_ok .v1 _ .empty towerListFits
    obtain ⟨bytes, same, back⟩ := (read_of_write .v1 .v0).2 _ _ _ written
    obtain ⟨left, refused⟩ := (back []).2 deepList
    exact ⟨bytes, left, same ▸ written, refused⟩

end Constraint

end ColumnChecks
