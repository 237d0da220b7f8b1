import Mathlib.Data.List.Forall2
import ColumnChecks.Constraint.Validation
import ColumnChecks.Proofs.Constraint.Tree

/-! Checks in a row: all have to succeed, and the first that fails decides. -/

namespace ColumnChecks

theorem bind_eq_ok_iff {ε : Type} {first second : Except ε Unit} :
    (do first; second) = .ok () ↔ first = .ok () ∧ second = .ok () := by
  cases first with
  | error cause => simp [bind, Except.bind]
  | ok => simp [bind, Except.bind]

theorem forM_singleton {ε α : Type} (check : α → Except ε Unit) (value : α) :
    [value].forM check = check value := by
  change (do check value; .ok ()) = check value
  cases check value with
  | error cause => rfl
  | ok => rfl

theorem eq_forM {ε α : Type} {each : List α → Except ε Unit} {check : α → Except ε Unit}
    (nil : each [] = .ok ()) (cons : ∀ first rest, each (first :: rest) = do check first; each rest)
    (values : List α) : each values = values.forM check := by
  induction values with
  | nil => exact nil
  | cons first rest ih =>
      rw [cons, ih]
      rfl

theorem forM_eq_ok_iff {ε α : Type} {check : α → Except ε Unit} {values : List α} :
    values.forM check = .ok () ↔ ∀ value ∈ values, check value = .ok () := by
  induction values with
  | nil => simp [pure, Except.pure]
  | cons first rest ih =>
      change (do check first; rest.forM check) = .ok () ↔ _
      rw [bind_eq_ok_iff, ih]
      simp

def IsFirst {α : Type} (Holds : α → Prop) (values : List α) (value : α) : Prop :=
  ∃ earlier later, values = earlier ++ value :: later ∧ Holds value ∧
    ∀ other ∈ earlier, ¬ Holds other

theorem isFirst_cons {α : Type} {Holds : α → Prop} {first value : α} {rest : List α} :
    IsFirst Holds (first :: rest) value ↔
      Holds first ∧ value = first ∨ ¬ Holds first ∧ IsFirst Holds rest value := by
  constructor
  · rintro ⟨earlier, later, split, holds, none⟩
    cases earlier with
    | nil =>
        cases split
        exact Or.inl ⟨holds, rfl⟩
    | cons head earlier =>
        cases split
        simp only [List.forall_mem_cons] at none
        exact Or.inr ⟨none.1, earlier, later, rfl, holds, none.2⟩
  · rintro (⟨holds, rfl⟩ | ⟨fails, earlier, later, rfl, holds, none⟩)
    · exact ⟨[], rest, rfl, holds, by simp⟩
    · exact ⟨first :: earlier, later, rfl, holds, List.forall_mem_cons.mpr ⟨fails, none⟩⟩

theorem find?_eq_some_iff {α : Type} {Holds : α → Prop} {test : α → Bool}
    (decides : ∀ value, test value = true ↔ Holds value) {values : List α} {value : α} :
    values.find? test = some value ↔ IsFirst Holds values value := by
  simp only [List.find?_eq_some_iff_append, IsFirst, ← decides, Bool.not_eq_true',
    Bool.not_eq_true]
  constructor
  · rintro ⟨holds, earlier, later, split, none⟩
    exact ⟨earlier, later, split, holds, none⟩
  · rintro ⟨earlier, later, split, holds, none⟩
    exact ⟨holds, earlier, later, split, none⟩

/-- Checks in a row fail for the reason for which the first of them that fails does. -/
theorem forM_eq_error_iff {ε α : Type} {check : α → Except ε Unit} {values : List α} {cause : ε} :
    values.forM check = .error cause ↔
      ∃ value, IsFirst (fun value => check value ≠ .ok ()) values value ∧
        check value = .error cause := by
  induction values with
  | nil => simp [IsFirst, pure, Except.pure]
  | cons first rest ih =>
      change (do check first; rest.forM check) = .error cause ↔ _
      cases outcome : check first with
      | error found => simp [isFirst_cons, outcome, bind, Except.bind]
      | ok => simpa [isFirst_cons, outcome, bind, Except.bind] using ih

theorem exists_of_forM_eq_error {ε α : Type} {check : α → Except ε Unit} {values : List α}
    {cause : ε} (failed : values.forM check = .error cause) :
    ∃ value ∈ values, check value = .error cause := by
  obtain ⟨value, ⟨_, _, rfl, _⟩, refused⟩ := forM_eq_error_iff.mp failed
  exact ⟨value, by simp, refused⟩

theorem forM_eq_error_of_prefix {ε α : Type} {check : α → Except ε Unit} {front values : List α}
    {cause : ε} (leads : front <+: values) (failed : front.forM check = .error cause) :
    values.forM check = .error cause := by
  obtain ⟨more, rfl⟩ := leads
  rw [List.forM_eq_forM, List.forM_append, ← List.forM_eq_forM, failed]
  rfl

theorem eq_ok_of_refused {ε : Type} {strict lenient : Except ε Unit}
    (refused : ∀ cause, lenient = .error cause → strict = .error cause)
    (accepted : strict = .ok ()) : lenient = .ok () := by
  cases outcome : lenient with
  | error cause => simp [refused cause outcome] at accepted
  | ok => rfl

theorem forall_of_forall₂ {α β : Type} {Related : α → β → Prop} {First : α → Prop}
    {Second : β → Prop} {firsts : List α} {seconds : List β}
    (related : List.Forall₂ Related firsts seconds)
    (carried : ∀ first second, Related first second → First first → Second second)
    (all : ∀ first ∈ firsts, First first) : ∀ second ∈ seconds, Second second := by
  induction related with
  | nil => simp
  | cons head _ ih =>
      simp only [List.forall_mem_cons] at all ⊢
      exact ⟨carried _ _ head all.1, ih all.2⟩

theorem Comparison.isNumber_of_validate {comparison : Comparison} {column : Column}
    (valid : comparison.validate column = .ok ()) : column.type.isNumber = true := by
  simpa [validate] using valid

theorem MeasureComparison.validate_eq_ok_iff {comparison : MeasureComparison} {column : Column} :
    comparison.validate column = .ok () ↔
      comparison.column = column.name ∧ comparison.measure.supports column.type = true ∧
        ∃ limit, comparison.limit? = some limit := by
  unfold validate
  by_cases named : comparison.column = column.name
  · by_cases supported : comparison.measure.supports column.type = true
    · cases comparison.limit? <;> simp [named, supported]
    · simp [named, supported]
  · simp [named]

theorem Application.validate_eq_ok_iff {application : Application} {column : Column} :
    application.validate column = .ok () ↔
      application.column = column.name ∧ column.isKey = false := by
  obtain ⟨⟨⟩, argument⟩ := application
  unfold validate
  by_cases named : argument = column.name
  · cases role : column.role <;>
      simp [named, UnaryFunction.validate, role, Column.isKey, ColumnRole.isKey]
  · simp [named]

namespace Constraint

theorem validateEach_eq_forM (column : Column) (constraints : List Constraint) :
    validateEach column constraints = constraints.forM (validate column) :=
  eq_forM rfl (fun _ _ => rfl) constraints

theorem evaluateEach_eq_forM (type : ColumnType) (stored : Bytes) (constraints : List Constraint) :
    evaluateEach type stored constraints = constraints.forM (evaluateStored type stored) :=
  eq_forM rfl (fun _ _ => rfl) constraints

/-- A check that goes through the children of a composed constraint in order goes through all
leaves in order. -/
theorem eq_forM_leaves {ε : Type} {check : Constraint → Except ε Unit}
    (composed : ∀ column children, check (.composed column children) = children.forM check)
    (constraint : Constraint) : check constraint = constraint.leaves.forM check := by
  induction constraint with
  | composed column children ih =>
      rw [composed, leaves]
      -- The leaves of each child are an interval of all leaves, checked after those before it.
      induction children with
      | nil => rfl
      | cons first rest inner =>
          have head := ih first List.mem_cons_self
          have tail := inner fun child member => ih child (List.mem_cons_of_mem first member)
          rw [eachLeaves, List.forM_eq_forM, List.forM_append]
          change (do check first; rest.forM check) = _
          rw [head, tail]
          rfl
  | function comparison => exact (forM_singleton check _).symm
  | scalar comparison => exact (forM_singleton check _).symm
  | unary application => exact (forM_singleton check _).symm

theorem validate_eq_forM_leaves (column : Column) (constraint : Constraint) :
    constraint.validate column = constraint.leaves.forM (validate column) :=
  eq_forM_leaves (fun _ children => validateEach_eq_forM column children) constraint

theorem evaluateStored_eq_forM_leaves (type : ColumnType) (stored : Bytes)
    (constraint : Constraint) :
    constraint.evaluateStored type stored = constraint.leaves.forM (evaluateStored type stored) :=
  eq_forM_leaves (fun _ children => evaluateEach_eq_forM type stored children) constraint

theorem evaluate_eq_evaluateStored {type : ColumnType} {stored : Bytes} {constraint : Constraint}
    (nonempty : stored ≠ []) :
    constraint.evaluate type stored = constraint.evaluateStored type stored := by
  simp [evaluate, nonempty]

/-- Only null is refused without regard to the kind of the constraint. -/
theorem ne_nil_of_evaluate {type : ColumnType} {value : Bytes} {constraint : Constraint}
    (accepted : constraint.evaluate type value = .ok ()) : value ≠ [] := by
  rintro rfl
  simp [evaluate] at accepted

theorem isKey_of_validate {column : Column} (constraint : Constraint)
    (valid : constraint.validate column = .ok ()) (required : constraint.requiresValue = true) :
    column.isKey = false := by
  obtain ⟨argument, member⟩ := constraint.requiresValue_iff.mp required
  rw [validate_eq_forM_leaves] at valid
  have leafValid := forM_eq_ok_iff.mp valid _ member
  exact (Application.validate_eq_ok_iff.mp leafValid).2

end Constraint

theorem Column.validate_of_validate {maxTermLength : Nat} {column : Column}
    (valid : column.validate maxTermLength = .ok ()) :
    ∀ constraint ∈ column.constraints.constraints, constraint.validate column = .ok () := by
  intro constraint member
  exact (bind_eq_ok_iff.mp (forM_eq_ok_iff.mp valid constraint member)).1

end ColumnChecks
