import Mathlib.Data.List.Forall2
import ColumnChecks.Table.Basic
import ColumnChecks.Proofs.Constraint.Checks
import ColumnChecks.Proofs.Number.Integer

/-! Which definitions of tables are valid. Each leaf of the constraints of a column is admissible or
not by itself, so how they are grouped does not matter. -/

namespace ColumnChecks

namespace Constraint

/-- The leaf may stand in a constraint of the column, with terms of up to so many characters. -/
inductive Admissible (maxTermLength : Nat) (column : Column) : Constraint → Prop
  | scalar {comparison : Comparison} : column.type.isNumber = true →
      comparison.term.length ≤ maxTermLength →
      Admissible maxTermLength column (.scalar comparison)
  | function {comparison : MeasureComparison} {limit : Int} :
      comparison.column = column.name → comparison.measure.supports column.type = true →
      Number.IsLiteral 8 comparison.term limit → comparison.term.length ≤ maxTermLength →
      Admissible maxTermLength column (.function comparison)
  | unary {application : Application} : application.column = column.name →
      column.isKey = false → Admissible maxTermLength column (.unary application)

inductive Objection (maxTermLength : Nat) (column : Column) : Constraint → DefinitionError → Prop
  | notNumeric {comparison : Comparison} : column.type.isNumber = false →
      Objection maxTermLength column (.scalar comparison) (.notNumeric comparison.column)
  | measuresOther {comparison : MeasureComparison} : comparison.column ≠ column.name →
      Objection maxTermLength column (.function comparison)
        (.parameterMismatch (.measure comparison.measure) column.name)
  | unsupported {comparison : MeasureComparison} :
      comparison.measure.supports column.type = false →
      Objection maxTermLength column (.function comparison)
        (.unsupportedType comparison.measure column.name column.type)
  | noLimit {comparison : MeasureComparison} :
      (∀ limit, ¬ Number.IsLiteral 8 comparison.term limit) →
      Objection maxTermLength column (.function comparison)
        (.invalidTerm comparison.measure comparison.term)
  | appliesToOther {application : Application} : application.column ≠ column.name →
      Objection maxTermLength column (.unary application)
        (.parameterMismatch (.unary application.function) column.name)
  | key {application : Application} {part : KeyPart} : column.role = .key part →
      Objection maxTermLength column (.unary application)
        (.keyColumn application.function part column.name)
  | longScalarTerm {comparison : Comparison} : maxTermLength < comparison.term.length →
      Objection maxTermLength column (.scalar comparison)
        (.termTooLong comparison.column maxTermLength)
  | longFunctionTerm {comparison : MeasureComparison} : maxTermLength < comparison.term.length →
      Objection maxTermLength column (.function comparison)
        (.termTooLong comparison.column maxTermLength)

section

variable {maxTermLength : Nat} {column : Column} {constraint leaf : Constraint}
variable {error : DefinitionError}

theorem Objection.not_admissible (objection : Objection maxTermLength column leaf error) :
    ¬ Admissible maxTermLength column leaf := by
  intro admissible
  cases objection with
  | notNumeric other =>
      cases admissible with
      | scalar number _ => simp [other] at number
  | measuresOther other =>
      cases admissible with
      | function named => exact other named
  | unsupported other =>
      cases admissible with
      | function _ supported => simp [other] at supported
  | noLimit none =>
      cases admissible with
      | function _ _ literal => exact none _ literal
  | appliesToOther other =>
      cases admissible with
      | unary named => exact other named
  | key role =>
      cases admissible with
      | unary _ notKey => simp [Column.isKey, role, ColumnRole.isKey] at notKey
  | longScalarTerm long =>
      cases admissible with
      | scalar _ short => omega
  | longFunctionTerm long =>
      cases admissible with
      | function _ _ _ short => omega

theorem checkTermLength_eq_ok_iff {name : ColumnName} {term : String} :
    checkTermLength maxTermLength name term = .ok () ↔ term.length ≤ maxTermLength := by
  unfold checkTermLength
  by_cases long : maxTermLength < term.length
  · simp [long]
  · simp [long, Nat.not_lt.mp long]

theorem termTooLong_of_checkTermLength {name : ColumnName} {term : String}
    (failed : checkTermLength maxTermLength name term = .error error) :
    maxTermLength < term.length ∧ .termTooLong name maxTermLength = error := by
  unfold checkTermLength at failed
  split at failed
  · exact ⟨‹_›, Except.error.inj failed⟩
  · cases failed

theorem objection_of_validate (simple : leaf.kind ≠ .composed)
    (failed : leaf.validate column = .error error) :
    Objection maxTermLength column leaf error := by
  cases leaf with
  | composed => exact absurd rfl simple
  | function comparison =>
      simp only [validate, MeasureComparison.validate] at failed
      split at failed
      · rename_i other
        cases failed
        exact .measuresOther other
      · split at failed
        · rename_i unsupported
          cases failed
          exact .unsupported (by simpa using unsupported)
        · split at failed
          · rename_i noLimit
            cases failed
            refine .noLimit fun limit literal => ?_
            have found : comparison.limit? = some limit :=
              Number.signed?_trim_eq_some_iff.mpr literal
            simp [found] at noLimit
          · cases failed
  | scalar comparison =>
      simp only [validate, Comparison.validate] at failed
      split at failed
      · cases failed
      · rename_i other
        cases failed
        exact .notNumeric (by simpa using other)
  | unary application =>
      simp only [validate, Application.validate] at failed
      split at failed
      · rename_i other
        cases failed
        exact .appliesToOther other
      · unfold UnaryFunction.validate at failed
        split at failed
        · rename_i role
          cases failed
          exact .key role
        · cases failed

theorem objection_of_checkTermLengths (simple : leaf.kind ≠ .composed)
    (failed : leaf.checkTermLengths maxTermLength = .error error) :
    Objection maxTermLength column leaf error := by
  cases leaf with
  | composed => exact absurd rfl simple
  | function comparison =>
      obtain ⟨long, rfl⟩ := termTooLong_of_checkTermLength failed
      exact .longFunctionTerm long
  | scalar comparison =>
      obtain ⟨long, rfl⟩ := termTooLong_of_checkTermLength failed
      exact .longScalarTerm long
  | unary application => cases failed

theorem admissible_of_checks (simple : leaf.kind ≠ .composed)
    (valid : leaf.validate column = .ok ())
    (short : leaf.checkTermLengths maxTermLength = .ok ()) :
    Admissible maxTermLength column leaf := by
  cases leaf with
  | composed => exact absurd rfl simple
  | function comparison =>
      obtain ⟨named, supported, limit, limited⟩ := MeasureComparison.validate_eq_ok_iff.mp valid
      exact .function named supported (Number.signed?_trim_eq_some_iff.mp limited)
        (checkTermLength_eq_ok_iff.mp short)
  | scalar comparison =>
      exact .scalar (Comparison.isNumber_of_validate valid) (checkTermLength_eq_ok_iff.mp short)
  | unary application =>
      obtain ⟨named, notKey⟩ := Application.validate_eq_ok_iff.mp valid
      exact .unary named notKey

theorem admissible_iff (simple : leaf.kind ≠ .composed) :
    Admissible maxTermLength column leaf ↔
      leaf.validate column = .ok () ∧ leaf.checkTermLengths maxTermLength = .ok () := by
  constructor
  · intro admissible
    -- What fails a check is objected to, and nothing admissible is.
    constructor
    · cases outcome : leaf.validate column with
      | ok => rfl
      | error => exact absurd admissible (objection_of_validate simple outcome).not_admissible
    · cases outcome : leaf.checkTermLengths maxTermLength with
      | ok => rfl
      | error =>
          exact absurd admissible (objection_of_checkTermLengths simple outcome).not_admissible
  · rintro ⟨valid, short⟩
    exact admissible_of_checks simple valid short

theorem checkEachTermLength_eq_forM (constraints : List Constraint) :
    checkEachTermLength maxTermLength constraints =
      constraints.forM (checkTermLengths maxTermLength) :=
  eq_forM rfl (fun _ _ => rfl) constraints

theorem checkTermLengths_eq_forM_leaves (constraint : Constraint) :
    constraint.checkTermLengths maxTermLength =
      constraint.leaves.forM (checkTermLengths maxTermLength) :=
  eq_forM_leaves (fun _ children => checkEachTermLength_eq_forM children) constraint

theorem checks_eq_ok_iff :
    (do constraint.validate column; constraint.checkTermLengths maxTermLength) = .ok () ↔
      ∀ leaf ∈ constraint.leaves, Admissible maxTermLength column leaf := by
  rw [bind_eq_ok_iff, validate_eq_forM_leaves, checkTermLengths_eq_forM_leaves, forM_eq_ok_iff,
    forM_eq_ok_iff]
  constructor
  · rintro ⟨valid, short⟩ leaf member
    exact admissible_of_checks (kind_of_mem_leaves member) (valid leaf member) (short leaf member)
  · intro admissible
    have checked (leaf : Constraint) (member : leaf ∈ constraint.leaves) :=
      (admissible_iff (kind_of_mem_leaves member)).mp (admissible leaf member)
    exact ⟨fun leaf member => (checked leaf member).1, fun leaf member => (checked leaf member).2⟩

theorem exists_objection_of_checks
    (failed : (do constraint.validate column; constraint.checkTermLengths maxTermLength) =
      .error error) :
    ∃ leaf ∈ constraint.leaves, Objection maxTermLength column leaf error := by
  cases valid : constraint.validate column with
  | error found =>
      rw [valid] at failed
      cases failed
      rw [validate_eq_forM_leaves] at valid
      obtain ⟨leaf, member, refused⟩ := exists_of_forM_eq_error valid
      exact ⟨leaf, member, objection_of_validate (kind_of_mem_leaves member) refused⟩
  | ok =>
      rw [valid] at failed
      change constraint.checkTermLengths maxTermLength = .error error at failed
      rw [checkTermLengths_eq_forM_leaves] at failed
      obtain ⟨leaf, member, refused⟩ := exists_of_forM_eq_error failed
      exact ⟨leaf, member, objection_of_checkTermLengths (kind_of_mem_leaves member) refused⟩

theorem Admissible.of_le {larger : Nat} (grown : maxTermLength ≤ larger)
    (admissible : Admissible maxTermLength column leaf) : Admissible larger column leaf := by
  cases admissible with
  | scalar number short => exact .scalar number (Nat.le_trans short grown)
  | function named supported literal short =>
      exact .function named supported literal (Nat.le_trans short grown)
  | unary named notKey => exact .unary named notKey

end

end Constraint

namespace Column

def leaves (column : Column) : List Constraint :=
  Constraint.eachLeaves column.constraints.constraints

def Admits (maxTermLength : Nat) (column : Column) : Prop :=
  ∀ leaf ∈ column.leaves, Constraint.Admissible maxTermLength column leaf

/-- The columns differ at most in their positions and in how their constraints are grouped, ordered
and repeated. -/
structure Regroups (column other : Column) : Prop where
  name : other.name = column.name
  type : other.type = column.type
  role : other.role = column.role
  leaves : ∀ leaf, leaf ∈ other.leaves ↔ leaf ∈ column.leaves

variable {maxTermLength : Nat} {column other : Column}

theorem validate_eq_ok_iff :
    column.validate maxTermLength = .ok () ↔ column.Admits maxTermLength := by
  simp only [validate, forM_eq_ok_iff, Constraint.checks_eq_ok_iff, Admits, leaves,
    Constraint.mem_eachLeaves]
  constructor
  · rintro valid leaf ⟨constraint, member, below⟩
    exact valid constraint member leaf below
  · intro admissible constraint member leaf below
    exact admissible leaf ⟨constraint, member, below⟩

theorem exists_objection_of_validate {error : DefinitionError}
    (failed : column.validate maxTermLength = .error error) :
    ∃ leaf ∈ column.leaves, Constraint.Objection maxTermLength column leaf error := by
  obtain ⟨constraint, member, refused⟩ := exists_of_forM_eq_error failed
  obtain ⟨leaf, below, objection⟩ := Constraint.exists_objection_of_checks refused
  exact ⟨leaf, Constraint.mem_eachLeaves.mpr ⟨constraint, member, below⟩, objection⟩

theorem Regroups.symm (regroups : column.Regroups other) : other.Regroups column :=
  ⟨regroups.name.symm, regroups.type.symm, regroups.role.symm,
    fun leaf => (regroups.leaves leaf).symm⟩

theorem Regroups.admissible {leaf : Constraint} (regroups : column.Regroups other)
    (admissible : Constraint.Admissible maxTermLength column leaf) :
    Constraint.Admissible maxTermLength other leaf := by
  obtain ⟨name, type, role, _⟩ := regroups
  cases admissible with
  | scalar number short => exact .scalar (type ▸ number) short
  | function named supported literal short =>
      exact .function (name ▸ named) (type ▸ supported) literal short
  | unary named notKey =>
      refine .unary (name ▸ named) ?_
      rwa [isKey, role]

theorem Regroups.admits (regroups : column.Regroups other)
    (admits : column.Admits maxTermLength) : other.Admits maxTermLength :=
  fun leaf member => regroups.admissible (admits leaf ((regroups.leaves leaf).mp member))

end Column

namespace Table

theorem validate_eq_ok_iff {config : Config} {table : Table} :
    table.validate config = .ok () ↔
      ∀ column ∈ table.columns, column.Admits config.maxTermLength := by
  simp only [validate, forM_eq_ok_iff, Column.validate_eq_ok_iff]

theorem validate_of_regroups {config : Config} {table other : Table}
    (regroups : List.Forall₂ Column.Regroups table.columns other.columns)
    (valid : table.validate config = .ok ()) : other.validate config = .ok () := by
  rw [validate_eq_ok_iff] at valid ⊢
  exact forall_of_forall₂ regroups (fun _ _ related => related.admits) valid

/-- A table is valid exactly if every leaf of the constraints of every column is admissible on it.
Otherwise the error is an objection to a leaf of the first column that has one which is not. So it
does not matter how constraints are grouped, ordered and repeated, and a larger limit on the length
of terms keeps a table valid. -/
theorem validate_admits (config : Config) (table : Table) :
    (table.validate config = .ok () ↔ ∀ column ∈ table.columns, ∀ leaf ∈ column.leaves,
      Constraint.Admissible config.maxTermLength column leaf) ∧
    (∀ error, table.validate config = .error error →
      ∃ column, IsFirst (fun other => ∃ leaf ∈ other.leaves,
          ¬ Constraint.Admissible config.maxTermLength other leaf) table.columns column ∧
        ∃ leaf ∈ column.leaves, ¬ Constraint.Admissible config.maxTermLength column leaf ∧
          Constraint.Objection config.maxTermLength column leaf error) ∧
    (∀ other : Table, List.Forall₂ Column.Regroups table.columns other.columns →
      (table.validate config = .ok () ↔ other.validate config = .ok ())) ∧
    ∀ larger : Config, config.maxTermLength ≤ larger.maxTermLength →
      table.validate config = .ok () → table.validate larger = .ok () := by
  refine ⟨validate_eq_ok_iff, ?_, ?_, ?_⟩
  · intro error failed
    obtain ⟨column, first, refused⟩ := forM_eq_error_iff.mp failed
    obtain ⟨leaf, member, objection⟩ := Column.exists_objection_of_validate refused
    refine ⟨column, ?_, leaf, member, objection.not_admissible, objection⟩
    simpa only [ne_eq, Column.validate_eq_ok_iff, Column.Admits, not_forall, exists_prop]
      using first
  · intro other regroups
    exact ⟨validate_of_regroups regroups,
      validate_of_regroups (regroups.flip.imp fun _ _ related => related.symm)⟩
  · intro larger grown valid
    rw [validate_eq_ok_iff] at valid ⊢
    exact fun column member leaf below => (valid column member leaf below).of_le grown

def badge (constraints : List Constraint) : Table :=
  ⟨"club", "badge", [⟨⟨"id"⟩, .uuid, .key .partition, 0, .none ⟨"id"⟩⟩,
    ⟨⟨"label"⟩, .text, .regular, 0, ⟨⟨"label"⟩, constraints⟩⟩]⟩

def shortLabel : Constraint :=
  .function ⟨.length, ⟨"label"⟩, .atMost, " +0012 "⟩

def someLabel : Constraint :=
  .unary ⟨.notNull, ⟨"label"⟩⟩

def plainLabel : Constraint :=
  .scalar ⟨⟨"label"⟩, .equal, "plain"⟩

theorem validate_admits_badge :
    (badge [.composed ⟨"label"⟩ [shortLabel, .composed ⟨"id"⟩ [someLabel]]]).validate {} = .ok () ∧
      (badge [someLabel, shortLabel, someLabel]).validate {} = .ok () ∧
      (badge [someLabel, shortLabel, someLabel]).validate ⟨false, .v1, 2000⟩ = .ok () ∧
      (badge [someLabel, .composed ⟨"label"⟩ [plainLabel]]).validate {} =
        .error (.notNumeric ⟨"label"⟩) ∧
      ∃ column ∈ (badge [someLabel, .composed ⟨"label"⟩ [plainLabel]]).columns,
        ∃ leaf ∈ column.leaves, ¬ Constraint.Admissible 1024 column leaf ∧
          Constraint.Objection 1024 column leaf (.notNumeric ⟨"label"⟩) := by
  have nested : (badge [.composed ⟨"label"⟩ [shortLabel,
      .composed ⟨"id"⟩ [someLabel]]]).validate {} = .ok () := by decide
  have flat : (badge [someLabel, shortLabel, someLabel]).validate {} = .ok () := by
    refine ((validate_admits {} _).2.2.1 _ ?_).mp nested
    refine .cons ⟨rfl, rfl, rfl, fun _ => Iff.rfl⟩ (.cons ⟨rfl, rfl, rfl, fun leaf => ?_⟩ .nil)
    change leaf ∈ [someLabel, shortLabel, someLabel] ↔ leaf ∈ [shortLabel, someLabel]
    simp only [List.mem_cons, List.not_mem_nil, or_false]
    tauto
  have refused : (badge [someLabel, .composed ⟨"label"⟩ [plainLabel]]).validate {} =
      .error (.notNumeric ⟨"label"⟩) := by decide
  refine ⟨nested, flat, (validate_admits {} _).2.2.2 _ (by decide) flat, refused, ?_⟩
  obtain ⟨column, ⟨_, _, split, _⟩, leaf, member, objection⟩ := (validate_admits {} _).2.1 _ refused
  exact ⟨column, by simp [split], leaf, member, objection⟩

end Table

end ColumnChecks
