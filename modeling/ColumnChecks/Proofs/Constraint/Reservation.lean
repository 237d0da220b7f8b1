import ColumnChecks.Constraint.Room
import ColumnChecks.Proofs.Constraint.RoundTrip
import ColumnChecks.Proofs.Wire.Consumption

/-! Lists whose count is not to be trusted. An envelope takes ten bytes at least, so the room that
is reserved for a list is never exceeded, and a list that declares more envelopes than there can be
is refused, as is all that it is read in. -/

namespace ColumnChecks

open Reader

theorem UnaryFunction.length_of_ofName? {name : String} {function : UnaryFunction}
    (found : ofName? name = some function) : function.name.length = name.length := by
  -- The letter case of a function's name varies, its length does not.
  have upper : function.name = String.ofList (name.toList.map Char.toUpper) := by
    simpa using List.find?_some found
  rw [upper, String.length_ofList, List.length_map, String.length_toList]

namespace ConstraintReader

theorem takes_int32 : Takes 4 int32 :=
  Reader.takes_int32.adaptExcept

theorem takes_text : Takes 2 text :=
  Reader.takes_text.adaptExcept

theorem takes_columnName : Takes 2 columnName :=
  takes_text.bind fun _ => Takes.pure _

theorem takes_operator : Takes 4 operator := by
  change Takes (4 + 0) operator
  refine takes_int32.bind fun id => ?_
  cases Operator.ofId? id with
  | none => exact Takes.throw _ _
  | some operator => exact Takes.pure operator

theorem takes_kind : Takes 4 kind := by
  change Takes (4 + 0) kind
  refine takes_int32.bind fun tag => ?_
  cases ConstraintKind.ofTag? tag with
  | none => exact Takes.throw _ _
  | some kind => exact Takes.pure kind

theorem takes_count : Takes 4 count := by
  change Takes (4 + 0) count
  refine takes_int32.bind fun count => ?_
  split
  · exact Takes.throw _ _
  · exact Takes.pure _

theorem takes_comparison : Takes 8 comparison :=
  takes_columnName.bind fun _ => takes_operator.bind fun _ => takes_text.bind fun _ => Takes.pure _

theorem takes_measureComparison : Takes 10 measureComparison := by
  change Takes (2 + (2 + (4 + (2 + 0)))) measureComparison
  refine takes_columnName.bind fun _ => takes_text.bind fun name =>
    takes_operator.bind fun _ => takes_text.bind fun _ => ?_
  cases Measure.ofName? name with
  | none => exact Takes.throw _ _
  | some measure => exact Takes.pure _

theorem takes_application : Takes 12 (application Constraint.unary?) := by
  -- Neither the column nor the name has a fixed size, but the name is that of a function.
  change Takes (2 + 10) (application Constraint.unary?)
  refine takes_columnName.bind fun column => ?_
  intro input result rest read
  obtain ⟨name, middle, readName, made⟩ := Reader.bind_eq_ok_iff.mp read
  obtain ⟨used, rfl, length⟩ := used_of_text (adaptExcept_eq_ok_iff.mp readName)
  cases found : UnaryFunction.ofName? name with
  | none =>
      simp only [Constraint.unary?, found, Option.map_none] at made
      cases made
  | some function =>
      simp only [Constraint.unary?, found, Option.map_some] at made
      cases made
      have bytes := Text.length_le_length_utf8 name
      rw [← UnaryFunction.length_of_ofName? found] at bytes
      refine ⟨used, rfl, ?_⟩
      cases function
      rw [length, textSize]
      exact Nat.add_le_add_left bytes 2

end ConstraintReader

namespace Constraint

open ConstraintReader

theorem takes_envelope {composed : ConstraintReader Constraint} (inner : Takes 6 composed) :
    Takes 10 (form.envelope composed) := by
  change Takes (4 + 6) (form.envelope composed)
  refine takes_kind.bind fun kind => ?_
  cases kind with
  | composed => exact inner
  | function => exact (takes_measureComparison.map _).mono (by decide)
  | scalar => exact (takes_comparison.map _).mono (by decide)
  | unaryFunction => exact takes_application.mono (by decide)

theorem takes_readComposed (allowance : Nat) : Takes 6 (readComposed allowance) := by
  -- A column, the count of the children and perhaps no child at all.
  induction allowance with
  | zero => exact Takes.throw 6 _
  | succ allowance ih =>
      have children : Takes 4 (readEnvelopes allowance) := takes_count.bind fun length =>
        ((takes_envelope ih).times length).mono (Nat.zero_le _)
      exact takes_columnName.bind fun column => children.bind fun found => Takes.pure _

theorem takes_readEnvelope (allowance : Nat) : Takes 10 (readEnvelope allowance) :=
  takes_envelope (takes_readComposed allowance)

end Constraint

namespace Intake

variable {ε α : Type}

theorem fill_eq (read : Reader ε α) (turns : Nat) (intake : Intake α) :
    (∃ elements rest, times read turns intake.input = .ok elements rest ∧
      fill read turns intake = .ok () ⟨rest, intake.room, intake.elements ++ elements⟩) ∨
    ∃ taken elements middle cause left, taken < turns ∧
      times read taken intake.input = .ok elements middle ∧
      times read turns intake.input = .error cause left ∧
      fill read turns intake = .error cause ⟨left, intake.room, intake.elements ++ elements⟩ := by
  induction turns generalizing intake with
  | zero => exact Or.inl ⟨[], intake.input, rfl, by simp [fill, pure, EStateM.pure]⟩
  | succ turns ih =>
      cases found : read intake.input with
      | error cause left =>
          refine Or.inr ⟨0, [], intake.input, cause, left, Nat.succ_pos turns, rfl,
            times_eq_error_of_turn (Nat.succ_pos turns) rfl found, ?_⟩
          simp [fill, push, Bind.bind, EStateM.bind, found]
      | ok element rest =>
          have pushed : fill read (turns + 1) intake =
              fill read turns ⟨rest, intake.room, intake.elements ++ [element]⟩ := by
            simp only [fill, push, Bind.bind, EStateM.bind, found]
          rw [pushed]
          rcases ih ⟨rest, intake.room, intake.elements ++ [element]⟩ with
            ⟨elements, last, readRest, filled⟩ |
              ⟨taken, elements, middle, cause, left, before, readTaken, failed, stopped⟩
          · refine Or.inl ⟨element :: elements, last,
              times_succ_eq_ok_iff.mpr ⟨_, _, _, found, readRest, rfl⟩, ?_⟩
            simpa using filled
          · refine Or.inr ⟨taken + 1, element :: elements, middle, cause, left, by omega,
              times_succ_eq_ok_iff.mpr ⟨_, _, _, found, readTaken, rfl⟩,
              times_succ_eq_error_iff.mpr (Or.inr ⟨_, _, found, failed⟩), ?_⟩
            simpa using stopped

theorem gather_eq : gather (ε := ε) (α := α) = times := by
  funext read declared input
  rcases fill_eq read declared (reserve declared input) with
    ⟨elements, rest, found, filled⟩ | ⟨_, elements, _, cause, left, _, _, failed, stopped⟩
  · rw [gather, filled, show times read declared input = _ from found]
    rfl
  · rw [gather, stopped, show times read declared input = _ from failed]

end Intake

namespace Constraint

open ConstraintReader

theorem readEnvelopes_of_count {allowance declared : Nat} {input rest : Bytes}
    (counted : count input = .ok declared rest) :
    readEnvelopes allowance input = times (readEnvelope allowance) declared rest := by
  simp only [readEnvelopes, ConstraintForm.envelopes, Bind.bind, EStateM.bind, counted]
  rfl

theorem readReserved_eq (allowance : Nat) : readReserved allowance = readEnvelopes allowance := by
  rw [readReserved, Intake.gather_eq]
  rfl

theorem length_elements_le (allowance : Nat) {turns declared : Nat} (within : turns ≤ declared)
    (rest : Bytes) :
    let intake := Intake.last
      (Intake.fill (readEnvelope allowance) turns (Intake.reserve declared rest))
    intake.room = min declared (rest.length / 4) ∧ intake.elements.length ≤ intake.room := by
  have fits {taken : Nat} {elements : List Constraint} {left : Bytes} (fewer : taken ≤ turns)
      (found : times (readEnvelope allowance) taken rest = .ok elements left) :
      elements.length ≤ min declared (rest.length / 4) := by
    have length := length_of_times found
    have bytes := mul_le_length_of_times (takes_readEnvelope allowance) found
    omega
  rcases Intake.fill_eq (readEnvelope allowance) turns (Intake.reserve declared rest) with
    ⟨elements, last, found, filled⟩ | ⟨taken, elements, _, _, left, fewer, found, _, stopped⟩
  · rw [filled]
    exact ⟨rfl, fits (Nat.le_refl turns) found⟩
  · rw [stopped]
    exact ⟨rfl, fits (Nat.le_of_lt fewer) found⟩

theorem length_of_readEnvelopes {allowance declared : Nat} {input rest left : Bytes}
    {constraints : List Constraint} (counted : count input = .ok declared rest)
    (found : readEnvelopes allowance input = .ok constraints left) :
    constraints.length = declared ∧ declared ≤ rest.length / 4 := by
  rw [readEnvelopes_of_count counted] at found
  have bytes := mul_le_length_of_times (takes_readEnvelope allowance) found
  exact ⟨length_of_times found, by omega⟩

/-- What is being read from an input: a list, an envelope or the payload of a composed constraint,
with so many levels of nesting left for it. By themselves, all three are read with `maxNesting`
levels. -/
inductive Reading where
  | list (allowance : Nat) (input : Bytes)
  | envelope (allowance : Nat) (input : Bytes)
  | payload (allowance : Nat) (input : Bytes)

/-- The reading comes to a list that starts at `inner`, with `below` levels left for it. -/
inductive Reading.Opens : Reading → (below : Nat) → (inner : Bytes) → Prop
  | list {allowance input} : Opens (.list allowance input) allowance input
  | element {allowance below declared turns input rest child inner earlier} :
      count input = .ok declared rest → turns < declared →
      times (readEnvelope allowance) turns rest = .ok earlier child →
      Opens (.envelope allowance child) below inner → Opens (.list allowance input) below inner
  | composed {allowance below input payload inner} :
      ConstraintReader.kind input = .ok .composed payload →
      Opens (.payload allowance payload) below inner → Opens (.envelope allowance input) below inner
  | children {allowance below input column list inner} : columnName input = .ok column list →
      Opens (.list allowance list) below inner → Opens (.payload (allowance + 1) input) below inner

def Reading.Fails (cause : DecodeError) (left : Bytes) : Reading → Prop
  | .list allowance input => readEnvelopes allowance input = .error cause left
  | .envelope allowance input => readEnvelope allowance input = .error cause left
  | .payload allowance input => readPayload allowance .composed input = .error cause left

theorem Reading.Opens.fails {reading : Reading} {below : Nat} {inner left : Bytes}
    {cause : DecodeError} (opens : reading.Opens below inner)
    (failed : readEnvelopes below inner = .error cause left) : reading.Fails cause left := by
  induction opens with
  | list => exact failed
  | element counted before readEarlier _ ih =>
      rw [Fails, readEnvelopes_of_count counted]
      exact times_eq_error_of_turn before readEarlier (ih failed)
  | composed tagged _ ih =>
      exact Reader.bind_eq_error_iff.mpr (Or.inr ⟨_, _, tagged, ih failed⟩)
  | children named _ ih =>
      refine Reader.bind_eq_error_iff.mpr (Or.inr ⟨_, _, named, ?_⟩)
      exact Reader.bind_eq_error_iff.mpr (Or.inl (ih failed))

/-- An envelope takes ten bytes at least. Of a list that is come to in any reading, no more elements
are ever read than room was reserved for. If it can be read, it has as many elements as its count
says, and if the count is more than the room can be, the whole reading fails. -/
theorem reserved_room_suffices :
    (∀ allowance input constraint rest, readEnvelope allowance input = .ok constraint rest →
      ∃ used, input = used ++ rest ∧ 10 ≤ used.length) ∧
    ∀ (reading : Reading) (below : Nat) (inner : Bytes), reading.Opens below inner →
      readReserved below inner = readEnvelopes below inner ∧
      ∀ declared rest, count inner = .ok declared rest →
        (∀ turns ≤ declared,
          let intake := Intake.last
            (Intake.fill (readEnvelope below) turns (Intake.reserve declared rest))
          intake.room = min declared (rest.length / 4) ∧
            intake.elements.length ≤ intake.room) ∧
        (∀ constraints left, readEnvelopes below inner = .ok constraints left →
          constraints.length = declared ∧ declared ≤ rest.length / 4) ∧
        (rest.length / 4 < declared →
          ∃ cause left, readEnvelopes below inner = .error cause left ∧
            reading.Fails cause left) := by
  refine ⟨takes_readEnvelope, fun reading below inner opens =>
    ⟨congrFun (readReserved_eq below) inner, fun declared rest counted => ⟨?_, ?_, ?_⟩⟩⟩
  · intro turns within
    exact length_elements_le below within rest
  · intro constraints left found
    exact length_of_readEnvelopes counted found
  · intro many
    cases outcome : readEnvelopes below inner with
    | ok constraints left =>
        have few := (length_of_readEnvelopes counted outcome).2
        omega
    | error cause left => exact ⟨cause, left, rfl, opens.fails outcome⟩

def announcedSample : Bytes :=
  (Field.count 1).bytes ++ ((Field.word ConstraintKind.composed.tag).bytes ++
    ((Field.text (ColumnName.toCql ⟨"v"⟩)).bytes ++
      ((Field.count 2147483647).bytes ++ (composed ⟨"v"⟩ []).fields.flatMap Field.bytes)))

theorem reserved_room_suffices_announced :
    ∃ inner rest constraint,
      (Reading.list maxNesting announcedSample).Opens 31 inner ∧
      count inner = .ok 2147483647 rest ∧ rest.length / 4 = 2 ∧
      readEnvelope 31 rest = .ok constraint [] ∧ (∃ used, rest = used ++ [] ∧ 10 ≤ used.length) ∧
      (Intake.last (Intake.fill (readEnvelope 31) 3
        (Intake.reserve 2147483647 rest))).elements.length ≤ 2 ∧
      (∃ cause left, readList .v0 announcedSample = .error cause left) ∧
      ∃ constraints, readReserved 32 ((listFields [constraint]).flatMap Field.bytes) =
        .ok constraints [] ∧ constraints.length = 1 := by
  let element : Constraint := .composed ⟨"v"⟩ []
  have fits : ∀ field ∈ element.fields, field.Fits := by decide
  have listFits : ∀ field ∈ listFields [element], field.Fits := by decide
  have size : (element.fields.flatMap Field.bytes).length / 4 = 2 := by decide +kernel
  have read : readEnvelope 31 (element.fields.flatMap Field.bytes) = .ok element [] := by
    have payload := readsWithin_payload element 31 fun field member =>
      fits field (List.mem_cons_of_mem _ member)
    simpa using (readsWithin_envelope payload).reads (by decide) []
  have announced : count ((Field.count 2147483647).bytes ++ element.fields.flatMap Field.bytes) =
      .ok 2147483647 (element.fields.flatMap Field.bytes) :=
    reads_count (by decide) _
  have opens : (Reading.list maxNesting announcedSample).Opens 31
      ((Field.count 2147483647).bytes ++ element.fields.flatMap Field.bytes) :=
    .element (reads_count (by decide) _) Nat.zero_lt_one rfl
      (.composed (reads_kind .composed _) (.children (reads_columnName (by decide) _) .list))
  obtain ⟨envelopes, lists⟩ := reserved_room_suffices
  obtain ⟨turnsFit, _, refused⟩ := (lists _ _ _ opens).2 _ _ announced
  obtain ⟨room, held⟩ := turnsFit 3 (by decide)
  obtain ⟨cause, left, _, failed⟩ := refused (by rw [size]; decide)
  -- the same element in a list that announces just it
  have readOne := (readsWithin_readList .v0 listFits).reads (by decide) []
  have counted : count ((listFields [element]).flatMap Field.bytes ++ []) = .ok 1 _ :=
    reads_count (by decide) _
  obtain ⟨same, whole⟩ := lists (.list maxNesting _) _ _ .list
  have one := ((whole _ _ counted).2.1 _ _ readOne).1
  rw [List.append_nil] at same readOne
  refine ⟨_, _, element, opens, announced, size, read, envelopes _ _ _ _ read, ?_,
    ⟨cause, left, failed⟩, [element], same.trans readOne, one⟩
  rw [room, size] at held
  exact held

end Constraint

end ColumnChecks
