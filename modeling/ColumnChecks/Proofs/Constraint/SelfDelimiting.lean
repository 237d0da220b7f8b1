import ColumnChecks.Proofs.Constraint.RoundTrip
import ColumnChecks.Proofs.Wire.Delimited

/-! Stored constraints show where they end, whether or not they were written by this library: what
follows them is never looked at, and every byte of them is needed. -/

namespace ColumnChecks

open Reader

def DecodeError.IsShort (cause : DecodeError) : Prop :=
  ∃ needed remaining, cause = .wire (.unexpectedEnd needed remaining)

theorem DecodeError.isShort_wire_iff (cause : WireError) :
    (DecodeError.wire cause).IsShort ↔ cause.IsShort := by
  simp [DecodeError.IsShort, WireError.IsShort]

namespace ConstraintReader

theorem delimited_int32 : Delimited DecodeError.IsShort int32 :=
  Reader.delimited_int32.adaptExcept DecodeError.isShort_wire_iff

theorem delimited_text : Delimited DecodeError.IsShort text :=
  Reader.delimited_text.adaptExcept DecodeError.isShort_wire_iff

theorem delimited_columnName : Delimited DecodeError.IsShort columnName :=
  delimited_text.bind fun _ => Delimited.pure _

theorem delimited_operator : Delimited DecodeError.IsShort operator := by
  refine delimited_int32.bind fun id => ?_
  cases Operator.ofId? id with
  | none => exact Delimited.throw _
  | some operator => exact Delimited.pure operator

theorem delimited_kind : Delimited DecodeError.IsShort kind := by
  refine delimited_int32.bind fun tag => ?_
  cases ConstraintKind.ofTag? tag with
  | none => exact Delimited.throw _
  | some kind => exact Delimited.pure kind

theorem delimited_count : Delimited DecodeError.IsShort count := by
  refine delimited_int32.bind fun count => ?_
  split
  · exact Delimited.throw _
  · exact Delimited.pure _

theorem delimited_comparison : Delimited DecodeError.IsShort comparison :=
  delimited_columnName.bind fun _ => delimited_operator.bind fun _ =>
    delimited_text.bind fun _ => Delimited.pure _

theorem delimited_measureComparison : Delimited DecodeError.IsShort measureComparison := by
  refine delimited_columnName.bind fun _ => delimited_text.bind fun name =>
    delimited_operator.bind fun _ => delimited_text.bind fun _ => ?_
  cases Measure.ofName? name with
  | none => exact Delimited.throw _
  | some measure => exact Delimited.pure _

theorem delimited_application {α : Type} (make? : String → ColumnName → Option α) :
    Delimited DecodeError.IsShort (application make?) := by
  refine delimited_columnName.bind fun column => delimited_text.bind fun name => ?_
  cases make? name column with
  | none => exact Delimited.throw _
  | some made => exact Delimited.pure made

end ConstraintReader

namespace ConstraintForm

open ConstraintReader

variable {α : Type} {form : ConstraintForm α} {composed : ConstraintReader α}

theorem delimited_payload (inner : Delimited DecodeError.IsShort composed) (kind : ConstraintKind) :
    Delimited DecodeError.IsShort (form.payload composed kind) := by
  cases kind with
  | composed => exact inner
  | function => exact delimited_measureComparison.map _
  | scalar => exact delimited_comparison.map _
  | unaryFunction => exact delimited_application _

theorem delimited_envelope (inner : Delimited DecodeError.IsShort composed) :
    Delimited DecodeError.IsShort (form.envelope composed) :=
  delimited_kind.bind (delimited_payload inner)

theorem delimited_envelopes (inner : Delimited DecodeError.IsShort composed) :
    Delimited DecodeError.IsShort (form.envelopes times composed) :=
  delimited_count.bind fun length => (delimited_envelope inner).times length

theorem delimited_enclosing (inner : Delimited DecodeError.IsShort composed) :
    Delimited DecodeError.IsShort (form.enclosing composed) :=
  delimited_columnName.bind fun _ => (delimited_envelopes inner).bind fun _ => Delimited.pure _

end ConstraintForm

namespace Constraint

open ConstraintForm

theorem delimited_readComposed (allowance : Nat) :
    Delimited DecodeError.IsShort (readComposed allowance) := by
  induction allowance with
  | zero => exact Delimited.throw _
  | succ allowance ih => exact delimited_enclosing ih

theorem delimited_read (version : Version) : Delimited DecodeError.IsShort (read version) :=
  delimited_envelope (delimited_readComposed maxNesting)

theorem delimited_readList (version : Version) :
    Delimited DecodeError.IsShort (readList version) :=
  delimited_envelopes (delimited_readComposed maxNesting)

/-- What is read has an end of its own. More input after it is left alone; less input is refused as
too short, and for no other reason; and all other refusals stand whatever follows. -/
structure SelfDelimiting {α : Type} (read : ConstraintReader α) : Prop where
  accepted : ∀ {input : Bytes} {value : α} {rest : Bytes}, read input = .ok value rest →
    ∃ used, input = used ++ rest ∧
      (∀ more, read (input ++ more) = .ok value (rest ++ more)) ∧
      ∀ part, part <+: input → part.length < used.length →
        ∃ needed remaining left,
          read part = .error (.wire (.unexpectedEnd needed remaining)) left
  refused : ∀ {input : Bytes} {cause : DecodeError} {left : Bytes},
    read input = .error cause left →
    (∀ needed remaining, cause ≠ .wire (.unexpectedEnd needed remaining)) →
    ∀ more, ∃ left, read (input ++ more) = .error cause left

theorem SelfDelimiting.of_delimited {α : Type} {read : ConstraintReader α}
    (delimited : Delimited DecodeError.IsShort read) : SelfDelimiting read := by
  constructor
  · intro input value rest found
    obtain ⟨used, rfl, reads, stops⟩ := delimited.accepts found
    refine ⟨used, rfl, ?_, ?_⟩
    · intro more
      rw [List.append_assoc]
      exact reads (rest ++ more)
    · intro part leads shorter
      obtain ⟨missing, rfl⟩ :=
        List.prefix_of_prefix_length_le leads (List.prefix_append used rest) (by omega)
      have nonempty : missing ≠ [] := by
        rintro rfl
        simp at shorter
      obtain ⟨cause, left, failed, needed, remaining, rfl⟩ := stops part missing rfl nonempty
      exact ⟨needed, remaining, left, failed⟩
  · intro input cause left failed other
    exact delimited.refuses failed fun ⟨needed, remaining, same⟩ => other needed remaining same

/-- The stored form of a constraint and that of a list are self-delimiting in every version. -/
theorem selfDelimiting_read (version : Version) :
    SelfDelimiting (read version) ∧ SelfDelimiting (readList version) :=
  ⟨.of_delimited (delimited_read version), .of_delimited (delimited_readList version)⟩

theorem selfDelimiting_read_sample :
    (∃ bytes, readList .v1 (bytes ++ [0]) = .ok [quotedSample] [0] ∧
      readList .v1 (bytes ++ [0] ++ [7]) = .ok [quotedSample] ([0] ++ [7]) ∧
      ∃ needed remaining left, readList .v1 ((bytes ++ [0]).take 12) =
        .error (.wire (.unexpectedEnd needed remaining)) left) ∧
    read .v2 [0, 0, 0, 9] = .error (.unknownKind 9) [] ∧
    ∃ left, read .v2 ([0, 0, 0, 9] ++ [0, 1]) = .error (.unknownKind 9) left := by
  have found := (@readsWithin_readList .v1 [quotedSample] (by decide)).reads (by decide) [0]
  obtain ⟨used, whole, more, fewer⟩ := (selfDelimiting_read .v1).2.accepted found
  have size : used = (listFields [quotedSample]).flatMap Field.bytes :=
    (List.append_cancel_right whole).symm
  have unknown : read .v2 [0, 0, 0, 9] = .error (.unknownKind 9) [] := rfl
  refine ⟨⟨_, found, more [7], fewer _ (List.take_prefix _ _) ?_⟩, unknown,
    (selfDelimiting_read .v2).1.refused unknown nofun [0, 1]⟩
  rw [size]
  decide +kernel

end Constraint

end ColumnChecks
