import ColumnChecks.Constraint.BoundDecoding
import ColumnChecks.Proofs.Constraint.RoundTrip
import ColumnChecks.Proofs.Wire.Outcomes

/-! The depth of stored constraints. Readers that count the composed constraints around them and
readers that count down what is left read alike. What they return nests within the limit and has
its functions bound to its columns, and what they refuse as too deep is one level over the limit. -/

namespace ColumnChecks

open Reader

/-- A nesting that is refused is one level too deep, not more. -/
def DecodeError.AtLimit (cause : DecodeError) : Prop :=
  ∀ levels, cause = .nestingTooDeep levels → levels = maxNesting + 1

namespace ConstraintReader

theorem fails_int32 : Fails DecodeError.AtLimit int32 :=
  Fails.adaptExcept fun _ _ other => nomatch other

theorem fails_text : Fails DecodeError.AtLimit text :=
  Fails.adaptExcept fun _ _ other => nomatch other

theorem fails_columnName : Fails DecodeError.AtLimit columnName :=
  fails_text.bind fun _ => Fails.pure _

theorem fails_operator : Fails DecodeError.AtLimit operator := by
  refine fails_int32.bind fun id => ?_
  cases Operator.ofId? id with
  | none => exact Fails.throw nofun
  | some operator => exact Fails.pure operator

theorem fails_kind : Fails DecodeError.AtLimit kind := by
  refine fails_int32.bind fun tag => ?_
  cases ConstraintKind.ofTag? tag with
  | none => exact Fails.throw nofun
  | some kind => exact Fails.pure kind

theorem fails_count : Fails DecodeError.AtLimit count := by
  refine fails_int32.bind fun count => ?_
  split
  · exact Fails.throw nofun
  · exact Fails.pure _

theorem fails_comparison : Fails DecodeError.AtLimit comparison :=
  fails_columnName.bind fun _ => fails_operator.bind fun _ =>
    fails_text.bind fun _ => Fails.pure _

theorem fails_measureComparison : Fails DecodeError.AtLimit measureComparison := by
  refine fails_columnName.bind fun _ => fails_text.bind fun name =>
    fails_operator.bind fun _ => fails_text.bind fun _ => ?_
  cases Measure.ofName? name with
  | none => exact Fails.throw nofun
  | some measure => exact Fails.pure _

theorem fails_application {α : Type} (make? : String → ColumnName → Option α) :
    Fails DecodeError.AtLimit (application make?) := by
  refine fails_columnName.bind fun column => fails_text.bind fun name => ?_
  cases make? name column with
  | none => exact Fails.throw nofun
  | some made => exact Fails.pure made

theorem yields_application {α : Type} {make? : String → ColumnName → Option α}
    {property : α → Prop}
    (holds : ∀ name column made, make? name column = some made → property made) :
    Yields property (application make?) := by
  refine Yields.bind_next fun column => Yields.bind_next fun name => ?_
  cases found : make? name column with
  | none => exact Yields.throw _
  | some made => exact Yields.pure (holds name column made found)

theorem map_application {α β : Type} (f : α → β) (make? : String → ColumnName → Option α) :
    f <$> application make? = application fun name column => (make? name column).map f := by
  simp only [application, map_bind]
  congr 1
  funext column
  congr 1
  funext name
  cases make? name column <;> rfl

end ConstraintReader

def Application.bound (application : Application) : BoundApplication :=
  ⟨⟨application.function, application.column⟩, application.column⟩

namespace Constraint

mutual

def bound : Constraint → BoundConstraint
  | composed column children => .composed column (boundEach children)
  | function comparison => .function comparison
  | scalar comparison => .scalar comparison
  | unary application => .unary application.bound

def boundEach : List Constraint → List BoundConstraint
  | [] => []
  | first :: rest => first.bound :: boundEach rest

end

theorem boundEach_eq_map (constraints : List Constraint) :
    boundEach constraints = constraints.map bound := by
  induction constraints with
  | nil => rfl
  | cons first rest ih => rw [boundEach, ih, List.map_cons]

end Constraint

namespace BoundConstraint

open ConstraintReader

/-- At most so many composed constraints enclose one another in the constraint, which itself counts
if it is composed. -/
inductive Nests : Nat → BoundConstraint → Prop
  | composed {levels column children} : (∀ child ∈ children, Nests levels child) →
      Nests (levels + 1) (.composed column children)
  | function {levels comparison} : Nests levels (.function comparison)
  | scalar {levels comparison} : Nests levels (.scalar comparison)
  | unary {levels application} : Nests levels (.unary application)

inductive Binds : BoundConstraint → Prop
  | composed {column children} : (∀ child ∈ children, Binds child) →
      Binds (.composed column children)
  | function {comparison} : Binds (.function comparison)
  | scalar {comparison} : Binds (.scalar comparison)
  | unary {application} : application.function.column = application.column →
      Binds (.unary application)

theorem nests_bound_iff (constraint : Constraint) :
    ∀ levels, Nests levels constraint.bound ↔ constraint.nesting ≤ levels := by
  induction constraint with
  | composed column children ih =>
      intro levels
      rw [Constraint.bound, Constraint.boundEach_eq_map, Constraint.nesting]
      constructor
      · intro nests
        cases nests with
        | composed each =>
            have shallow := Constraint.nestingEach_le_iff.mpr fun child member =>
              (ih child member _).mp (each _ (List.mem_map_of_mem member))
            omega
      · intro shallow
        obtain ⟨below, rfl⟩ : ∃ below, levels = below + 1 := ⟨levels - 1, by omega⟩
        have each := Constraint.nestingEach_le_iff.mp (Nat.le_of_succ_le_succ shallow)
        refine .composed fun found member => ?_
        obtain ⟨child, inside, rfl⟩ := List.mem_map.mp member
        exact (ih child inside below).mpr (each child inside)
  | function comparison => exact fun levels => ⟨fun _ => Nat.zero_le _, fun _ => .function⟩
  | scalar comparison => exact fun levels => ⟨fun _ => Nat.zero_le _, fun _ => .scalar⟩
  | unary application => exact fun levels => ⟨fun _ => Nat.zero_le _, fun _ => .unary⟩

/-- What the reader returns nests no deeper than allowed and is bound, and it refuses no more than
one level over the limit. -/
structure Bounded (allowance : Nat) (read : ConstraintReader BoundConstraint) : Prop where
  returns : Yields (fun constraint => constraint.Nests allowance ∧ constraint.Binds) read
  fails : Fails DecodeError.AtLimit read

theorem bounded_payload {allowance : Nat} {composed : ConstraintReader BoundConstraint}
    (inner : Bounded allowance composed) (kind : ConstraintKind) :
    Bounded allowance (form.payload composed kind) := by
  cases kind with
  | composed => exact inner
  | function => exact ⟨Yields.map fun _ => ⟨.function, .function⟩, fails_measureComparison.map _⟩
  | scalar => exact ⟨Yields.map fun _ => ⟨.scalar, .scalar⟩, fails_comparison.map _⟩
  | unaryFunction =>
      refine ⟨yields_application fun name column made found => ?_, fails_application _⟩
      obtain ⟨function, created, rfl⟩ := Option.map_eq_some_iff.mp found
      obtain ⟨_, _, rfl⟩ := Option.map_eq_some_iff.mp created
      exact ⟨.unary, .unary rfl⟩

theorem bounded_envelope {allowance : Nat} {composed : ConstraintReader BoundConstraint}
    (inner : Bounded allowance composed) : Bounded allowance (form.envelope composed) :=
  ⟨Yields.bind_next fun kind => (bounded_payload inner kind).returns,
    fails_kind.bind fun kind => (bounded_payload inner kind).fails⟩

theorem yields_envelopes {allowance : Nat} {composed : ConstraintReader BoundConstraint}
    (inner : Bounded allowance composed) :
    Yields (fun constraints => ∀ constraint ∈ constraints,
      Nests allowance constraint ∧ Binds constraint) (form.envelopes times composed) :=
  Yields.bind_next fun length => (bounded_envelope inner).returns.times length

theorem fails_envelopes {allowance : Nat} {composed : ConstraintReader BoundConstraint}
    (inner : Bounded allowance composed) :
    Fails DecodeError.AtLimit (form.envelopes times composed) :=
  fails_count.bind fun length => (bounded_envelope inner).fails.times length

theorem bounded_enclosing {allowance : Nat} {composed : ConstraintReader BoundConstraint}
    (inner : Bounded allowance composed) : Bounded (allowance + 1) (form.enclosing composed) := by
  constructor
  · refine Yields.bind_next fun column =>
      (yields_envelopes inner).bind fun children each => Yields.pure ?_
    exact ⟨.composed fun child member => (each child member).1,
      .composed fun child member => (each child member).2⟩
  · exact fails_columnName.bind fun _ => (fails_envelopes inner).bind fun _ => Fails.pure _

theorem readComposed_of_deep {depth : Nat} (deep : maxNesting < depth) :
    readComposed depth = throw (.nestingTooDeep depth) := by
  rw [readComposed, if_pos deep]

theorem readComposed_of_shallow {depth : Nat} (shallow : depth ≤ maxNesting) :
    readComposed depth = form.enclosing (readComposed (depth + 1)) := by
  rw [readComposed, if_neg (Nat.not_lt.mpr shallow)]

/-- What encloses a composed constraint and what may still be nested from it on make up one more
than the limit. -/
theorem bounded_readComposed {depth allowance : Nat}
    (level : depth + allowance = maxNesting + 1) : Bounded allowance (readComposed depth) := by
  induction allowance generalizing depth with
  | zero =>
      rw [readComposed_of_deep (by omega)]
      refine ⟨Yields.throw _, Fails.throw ?_⟩
      intro levels same
      cases same
      omega
  | succ allowance ih =>
      rw [readComposed_of_shallow (by omega)]
      exact bounded_enclosing (ih (by omega))

/-! Binding what is read comes to the same as reading what is bound. -/

theorem payload_bound (composed : ConstraintReader Constraint) (kind : ConstraintKind) :
    form.payload (Constraint.bound <$> composed) kind =
      Constraint.bound <$> Constraint.form.payload composed kind := by
  cases kind with
  | composed => rfl
  | function =>
      simp only [ConstraintForm.payload, Functor.map_map]
      rfl
  | scalar =>
      simp only [ConstraintForm.payload, Functor.map_map]
      rfl
  | unaryFunction =>
      simp only [ConstraintForm.payload, map_application]
      congr 1
      funext name column
      change (BoundFunction.create? name column).map _ = ((UnaryFunction.ofName? name).map _).map _
      rw [BoundFunction.create?]
      cases UnaryFunction.ofName? name <;> rfl

theorem envelope_bound (composed : ConstraintReader Constraint) :
    form.envelope (Constraint.bound <$> composed) =
      Constraint.bound <$> Constraint.form.envelope composed := by
  rw [ConstraintForm.envelope, ConstraintForm.envelope, map_bind]
  exact congrArg _ (funext (payload_bound composed))

theorem envelopes_bound (composed : ConstraintReader Constraint) :
    form.envelopes times (Constraint.bound <$> composed) =
      List.map Constraint.bound <$> Constraint.form.envelopes times composed := by
  simp only [ConstraintForm.envelopes, map_bind, envelope_bound, times_map]

theorem enclosing_bound (composed : ConstraintReader Constraint) :
    form.enclosing (Constraint.bound <$> composed) =
      Constraint.bound <$> Constraint.form.enclosing composed := by
  have made (column : ColumnName) (children : List Constraint) :
      form.composed column (children.map Constraint.bound) =
        Constraint.bound (Constraint.form.composed column children) := by
    rw [← Constraint.boundEach_eq_map]
    rfl
  simp only [ConstraintForm.enclosing, map_bind, envelopes_bound, bind_map_left, map_pure, made]

theorem readComposed_eq {depth allowance : Nat} (level : depth + allowance = maxNesting + 1) :
    readComposed depth = Constraint.bound <$> Constraint.readComposed allowance := by
  -- Counting up from the outermost constraint and counting down to the limit come to the same.
  induction allowance generalizing depth with
  | zero =>
      rw [readComposed_of_deep (by omega), show depth = maxNesting + 1 by omega]
      rfl
  | succ allowance ih =>
      have below : depth + 1 + allowance = maxNesting + 1 := by omega
      rw [readComposed_of_shallow (by omega), ih below, enclosing_bound]
      rfl

theorem readComposed_one :
    readComposed 1 = Constraint.bound <$> Constraint.readComposed maxNesting :=
  readComposed_eq rfl

theorem bounded_readComposed_one : Bounded maxNesting (readComposed 1) :=
  bounded_readComposed rfl

theorem read_eq (version : Version) :
    read version = Constraint.bound <$> Constraint.read version := by
  rw [read, readComposed_one, envelope_bound]
  rfl

theorem readList_eq (version : Version) :
    readList version = List.map Constraint.bound <$> Constraint.readList version := by
  rw [readList, readComposed_one, envelopes_bound]
  rfl

theorem readPayload_eq (kind : ConstraintKind) :
    readPayload kind = Constraint.bound <$> Constraint.readPayload maxNesting kind := by
  rw [readPayload, readComposed_one, payload_bound]
  rfl

theorem bounded_read (version : Version) : Bounded maxNesting (read version) :=
  bounded_envelope bounded_readComposed_one

theorem bounded_readPayload (kind : ConstraintKind) : Bounded maxNesting (readPayload kind) :=
  bounded_payload bounded_readComposed_one kind

theorem read_tagged (version : Version) (kind : ConstraintKind) (payload : Bytes) :
    read version ((Field.word kind.tag).bytes ++ payload) = readPayload kind payload := by
  have tagged := reads_kind kind payload
  simp only [read, ConstraintForm.envelope, bind, EStateM.bind, tagged]
  rfl

/-- Constraints that are read nest to the limit at most, with every function bound to the column
that it is applied to, and constraints that are refused for their depth are refused at the level
right behind the limit, wherever reading starts. An envelope is read as its payload is by itself,
down to the bytes that are left. -/
theorem reading_is_bounded (version : Version) :
    (read version = Constraint.bound <$> Constraint.read version ∧
      readList version = List.map Constraint.bound <$> Constraint.readList version ∧
      ∀ kind, readPayload kind = Constraint.bound <$> Constraint.readPayload maxNesting kind) ∧
    (∀ input constraint rest, read version input = .ok constraint rest →
      constraint.Nests 32 ∧ constraint.Binds) ∧
    (∀ input constraints rest, readList version input = .ok constraints rest →
      ∀ constraint ∈ constraints, constraint.Nests 32 ∧ constraint.Binds) ∧
    (∀ kind input constraint rest, readPayload kind input = .ok constraint rest →
      constraint.Nests 32 ∧ constraint.Binds) ∧
    (∀ input levels rest, read version input = .error (.nestingTooDeep levels) rest ∨
      readList version input = .error (.nestingTooDeep levels) rest ∨
      (∃ kind, readPayload kind input = .error (.nestingTooDeep levels) rest) → levels = 33) ∧
    ∀ kind payload,
      read version ((Field.word kind.tag).bytes ++ payload) = readPayload kind payload := by
  refine ⟨⟨read_eq version, readList_eq version, readPayload_eq⟩, (bounded_read version).returns,
    yields_envelopes bounded_readComposed_one, fun kind => (bounded_readPayload kind).returns, ?_,
    read_tagged version⟩
  rintro input levels rest (failed | failed | ⟨kind, failed⟩)
  · exact (bounded_read version).fails _ _ _ failed levels rfl
  · exact fails_envelopes bounded_readComposed_one _ _ _ failed levels rfl
  · exact (bounded_readPayload kind).fails _ _ _ failed levels rfl

theorem reads_written (version : Version) {constraint : Constraint}
    (fits : ∀ field ∈ constraint.fields, field.Fits) (shallow : constraint.nesting ≤ maxNesting) :
    Reads (read version) (constraint.fields.flatMap Field.bytes) constraint.bound := by
  rw [read_eq]
  exact ((Constraint.readsWithin_read version fits).reads shallow).map Constraint.bound

theorem reads_writtenList (version : Version) {constraints : List Constraint}
    (fits : ∀ field ∈ Constraint.listFields constraints, field.Fits)
    (shallow : Constraint.nestingEach constraints ≤ maxNesting) :
    Reads (readList version) ((Constraint.listFields constraints).flatMap Field.bytes)
      (constraints.map Constraint.bound) := by
  rw [readList_eq]
  exact ((Constraint.readsWithin_readList version fits).reads shallow).map _

theorem refuses_written (version : Version) {constraint : Constraint}
    (fits : ∀ field ∈ constraint.fields, field.Fits) (deep : maxNesting < constraint.nesting) :
    Refuses (read version) (constraint.fields.flatMap Field.bytes)
      (.nestingTooDeep (maxNesting + 1)) := by
  rw [read_eq]
  exact ((Constraint.readsWithin_read version fits).refuses deep).bind_first _

theorem reading_is_bounded_at_limit :
    (∃ bytes constraint, read .v0 bytes = .ok constraint [] ∧
      constraint.Nests 32 ∧ ¬ constraint.Nests 31 ∧ constraint.Binds) ∧
    (∃ bytes constraints, readList .v0 bytes = .ok constraints [] ∧ constraints ≠ [] ∧
      ∀ constraint ∈ constraints, constraint.Nests 32 ∧ constraint.Binds) ∧
    (∃ bytes constraint, readPayload .composed bytes = .ok constraint [] ∧
      constraint.Nests 32 ∧ constraint.Binds) ∧
    (∃ bytes levels left, read .v0 bytes = .error (.nestingTooDeep levels) left ∧ levels = 33) ∧
    ∃ bytes levels left,
      readPayload .composed bytes = .error (.nestingTooDeep levels) left ∧ levels = 33 := by
  obtain ⟨_, returns, returnsEach, payloadReturns, refuses, tagged⟩ := reading_is_bounded .v0
  have fits := fun height => @Constraint.fits_tower ⟨"v"⟩ height (by decide)
  have height : (Constraint.tower ⟨"v"⟩ 31).nesting = 32 := Constraint.nesting_tower _ 31
  have listFits : ∀ field ∈ Constraint.listFields [Constraint.tower ⟨"v"⟩ 31], field.Fits := by
    intro field member
    simp only [Constraint.listFields, List.mem_cons, Constraint.mem_eachFields,
      List.not_mem_nil, or_false, exists_eq_left] at member
    rcases member with rfl | inner
    · rfl
    · exact fits 31 field inner
  have accepted := reads_written .v0 (fits 31) (by rw [height]; decide) []
  have acceptedList := reads_writtenList .v0 listFits
    (by simp [Constraint.nestingEach, height, maxNesting]) []
  obtain ⟨left, refused⟩ := refuses_written .v0 (fits 32)
    (by rw [Constraint.nesting_tower]; decide) []
  have alone := (tagged .composed _).symm.trans accepted
  have refusedAlone := (tagged .composed _).symm.trans refused
  have tight : ¬ Nests 31 (Constraint.tower ⟨"v"⟩ 31).bound := by
    rw [nests_bound_iff, height]
    decide
  exact ⟨⟨_, _, accepted, (returns _ _ _ accepted).1, tight, (returns _ _ _ accepted).2⟩,
    ⟨_, _, acceptedList, by simp, returnsEach _ _ _ acceptedList⟩,
    ⟨_, _, alone, payloadReturns _ _ _ _ alone⟩,
    ⟨_, _, left, refused, refuses _ _ _ (Or.inl refused)⟩,
    ⟨_, _, left, refusedAlone, refuses _ _ _ (Or.inr (Or.inr ⟨_, refusedAlone⟩))⟩⟩

end BoundConstraint

theorem Constraint.nestingEach_of_readList {version : Version} {input rest : Bytes}
    {constraints : List Constraint} (found : readList version input = .ok constraints rest) :
    nestingEach constraints ≤ maxNesting := by
  have boundFound : BoundConstraint.readList version input = .ok (constraints.map bound) rest := by
    rw [BoundConstraint.readList_eq]
    simp only [Functor.map, EStateM.map, found]
  have each := BoundConstraint.yields_envelopes BoundConstraint.bounded_readComposed_one
    _ _ _ boundFound
  refine nestingEach_le_iff.mpr fun constraint member => ?_
  exact (BoundConstraint.nests_bound_iff constraint maxNesting).mp
    (each _ (List.mem_map_of_mem member)).1

end ColumnChecks
