import ColumnChecks.Table.Enforcement
import ColumnChecks.Proofs.Constraint.Checks

/-! Rows under accepted statements: once a row is inserted, its required columns hold values and
its values satisfy their constraints, however it is changed afterwards. -/

namespace ColumnChecks

abbrev Row := ColumnName → Option Bytes

inductive Statement where
  | insert (assignments : List Assignment)
  | update (assignments : List Assignment)
  | delete (column : ColumnName)

def Assignment.stored (assignment : Assignment) : Option Bytes :=
  if assignment.value = [] then none else some assignment.value

/-- Columns that are assigned hold what one of their assignments gives, and all others keep what
they hold. -/
def Assigned (assignments : List Assignment) (before after : Row) : Prop :=
  ∀ column,
    (∀ assignment ∈ assignments, assignment.column ≠ column) ∧ after column = before column ∨
    ∃ assignment ∈ assignments, assignment.column = column ∧ after column = assignment.stored

def Row.assign (row : Row) (assignment : Assignment) : Row :=
  fun column => if assignment.column = column then assignment.stored else row column

theorem assigned_foldl (assignments : List Assignment) (row : Row) :
    Assigned assignments row (assignments.foldl Row.assign row) := by
  -- Assigning in order is one of the ways to assign, where the last assignment to a column wins.
  induction assignments generalizing row with
  | nil =>
      intro column
      exact Or.inl ⟨by simp, rfl⟩
  | cons first rest ih =>
      intro column
      rcases ih (Row.assign row first) column with
        ⟨absent, kept⟩ | ⟨assignment, inside, named, given⟩
      · by_cases named : first.column = column
        · refine Or.inr ⟨first, List.mem_cons_self, named, ?_⟩
          simp only [List.foldl_cons, kept, Row.assign, named, if_true]
        · refine Or.inl ⟨?_, ?_⟩
          · intro assignment member
            rcases List.mem_cons.mp member with rfl | later
            · exact named
            · exact absent assignment later
          · simp only [List.foldl_cons, kept, Row.assign, named, if_false]
      · exact Or.inr ⟨assignment, List.mem_cons_of_mem first inside, named, given⟩

namespace Statement

def Changes : Statement → Row → Row → Prop
  | insert assignments, before, after => Assigned assignments before after
  | update assignments, before, after => Assigned assignments before after
  | delete column, before, after =>
      after = fun other => if other = column then none else before other

end Statement

namespace Table

def Accepts (table : Table) (config : Config) : Statement → Prop
  | .insert assignments => table.checkInsert config assignments = .ok ()
  | .update assignments => table.checkUpdate config assignments = .ok ()
  | .delete column => table.checkDeletion column = .ok ()

/-- The rows that an accepted insert creates and accepted statements then lead to. -/
inductive Reaches (table : Table) (config : Config) : Row → Prop
  | created {assignments row} : table.Accepts config (.insert assignments) →
      Assigned assignments (fun _ => none) row → Reaches table config row
  | changed {row statement next} : Reaches table config row →
      table.Accepts config statement → statement.Changes row next → Reaches table config next

def HoldsRequired (table : Table) (row : Row) : Prop :=
  ∀ column ∈ table.columns, column.constraints.requiresValue = true →
    ∃ value, row column.name = some value ∧ value ≠ []

def HoldsSatisfying (table : Table) (row : Row) : Prop :=
  ∀ column ∈ table.columns, column.isKey = false → column.constraints.constraints ≠ [] →
    ∀ value, row column.name = some value → value ≠ [] ∧
      ∀ constraint ∈ column.constraints.constraints,
        constraint.evaluate column.type value = .ok ()

section

variable {table : Table} {declared config : Config} {assignments : List Assignment}
variable {before after : Row} {column : Column}

theorem column?_eq_some (distinct : (table.columns.map Column.name).Nodup)
    (member : column ∈ table.columns) : table.column? column.name = some column := by
  unfold column?
  generalize table.columns = columns at distinct member
  induction columns with
  | nil => simp at member
  | cons first rest ih =>
      simp only [List.map_cons, List.nodup_cons] at distinct
      rcases List.mem_cons.mp member with rfl | later
      · simp
      · have different : first.name ≠ column.name := by
          intro same
          apply distinct.1
          rw [same]
          exact List.mem_map_of_mem later
        rw [List.find?_cons_of_neg (by simpa using different)]
        exact ih distinct.2 later

theorem isKey_of_requiresValue (valid : table.validate config = .ok ())
    (member : column ∈ table.columns) (required : column.constraints.requiresValue = true) :
    column.isKey = false := by
  obtain ⟨constraint, inside, requires⟩ := Constraint.anyRequiresValue_iff.mp required
  have columnValid := forM_eq_ok_iff.mp valid column member
  exact constraint.isKey_of_validate
    (Column.validate_of_validate columnValid constraint inside) requires

theorem evaluate_of_checkUpdate (distinct : (table.columns.map Column.name).Nodup)
    (enforced : config.enforceOnWrite = true)
    (accepted : table.checkUpdate config assignments = .ok ()) (member : column ∈ table.columns)
    (notKey : column.isKey = false) {assignment : Assignment} (assigned : assignment ∈ assignments)
    (named : assignment.column = column.name) :
    ∀ constraint ∈ column.constraints.constraints,
      constraint.evaluate column.type assignment.value = .ok () := by
  simp only [checkUpdate, enforced, if_true] at accepted
  have evaluated := forM_eq_ok_iff.mp accepted assignment assigned
  simp only [evaluateAssignment, named, column?_eq_some distinct member, Column.evaluate, notKey,
    Bool.false_eq_true, if_false] at evaluated
  exact forM_eq_ok_iff.mp evaluated

theorem constraints_ne_nil_of_requiresValue {set : ConstraintSet}
    (required : set.requiresValue = true) : set.constraints ≠ [] := by
  intro empty
  simp [ConstraintSet.requiresValue, empty, Constraint.anyRequiresValue] at required

theorem ne_nil_of_evaluateAll {type : ColumnType} {value : Bytes} {constraints : List Constraint}
    (constrained : constraints ≠ [])
    (satisfied : ∀ constraint ∈ constraints, constraint.evaluate type value = .ok ()) :
    value ≠ [] := by
  obtain ⟨first, member⟩ := List.exists_mem_of_ne_nil constraints constrained
  exact Constraint.ne_nil_of_evaluate (satisfied first member)

theorem holdsSatisfying_of_checkUpdate (distinct : (table.columns.map Column.name).Nodup)
    (enforced : config.enforceOnWrite = true)
    (accepted : table.checkUpdate config assignments = .ok ())
    (assigned : Assigned assignments before after) (holds : table.HoldsSatisfying before) :
    table.HoldsSatisfying after := by
  intro column member notKey constrained value found
  rcases assigned column.name with ⟨_, kept⟩ | ⟨assignment, inside, named, given⟩
  · rw [kept] at found
    exact holds column member notKey constrained value found
  · have satisfied :=
      evaluate_of_checkUpdate distinct enforced accepted member notKey inside named
    have nonempty := ne_nil_of_evaluateAll constrained satisfied
    simp only [given, Assignment.stored, nonempty, if_false, Option.some.injEq] at found
    subst value
    exact ⟨nonempty, satisfied⟩

theorem stored_of_checkUpdate (distinct : (table.columns.map Column.name).Nodup)
    (valid : table.validate declared = .ok ()) (enforced : config.enforceOnWrite = true)
    (accepted : table.checkUpdate config assignments = .ok ()) (member : column ∈ table.columns)
    (required : column.constraints.requiresValue = true) {assignment : Assignment}
    (inside : assignment ∈ assignments) (named : assignment.column = column.name) :
    ∃ value, assignment.stored = some value ∧ value ≠ [] := by
  have notKey := isKey_of_requiresValue valid member required
  have satisfied := evaluate_of_checkUpdate distinct enforced accepted member notKey inside named
  have nonempty :=
    ne_nil_of_evaluateAll (constraints_ne_nil_of_requiresValue required) satisfied
  exact ⟨assignment.value, by simp [Assignment.stored, nonempty], nonempty⟩

theorem holdsRequired_of_checkUpdate (distinct : (table.columns.map Column.name).Nodup)
    (valid : table.validate declared = .ok ()) (enforced : config.enforceOnWrite = true)
    (accepted : table.checkUpdate config assignments = .ok ())
    (assigned : Assigned assignments before after) (holds : table.HoldsRequired before) :
    table.HoldsRequired after := by
  intro column member required
  rcases assigned column.name with ⟨_, kept⟩ | ⟨assignment, inside, named, given⟩
  · rw [kept]
    exact holds column member required
  · rw [given]
    exact stored_of_checkUpdate distinct valid enforced accepted member required inside named

theorem checkInsert_eq_ok_iff :
    table.checkInsert config assignments = .ok () ↔
      (∀ column ∈ table.columns, isMissing assignments column = false) ∧
        table.checkUpdate config assignments = .ok () := by
  unfold checkInsert
  cases found : table.columns.find? (isMissing assignments) with
  | none =>
      have present : ∀ column ∈ table.columns, isMissing assignments column = false := by
        simpa using List.find?_eq_none.mp found
      exact ⟨fun accepted => ⟨present, accepted⟩, And.right⟩
  | some missing =>
      simp only [reduceCtorEq, false_iff]
      rintro ⟨present, _⟩
      have absent := List.find?_some found
      rw [present missing (List.mem_of_find?_eq_some found)] at absent
      simp at absent

theorem holdsRequired_of_checkInsert (distinct : (table.columns.map Column.name).Nodup)
    (valid : table.validate declared = .ok ()) (enforced : config.enforceOnWrite = true)
    (accepted : table.checkInsert config assignments = .ok ())
    (assigned : Assigned assignments before after) : table.HoldsRequired after := by
  obtain ⟨present, updated⟩ := checkInsert_eq_ok_iff.mp accepted
  intro column member required
  have notKey := isKey_of_requiresValue valid member required
  have given : ∃ assignment ∈ assignments, assignment.column = column.name := by
    simpa [isMissing, notKey, required] using present column member
  rcases assigned column.name with ⟨absent, _⟩ | ⟨assignment, inside, named, stored⟩
  · obtain ⟨assignment, inside, named⟩ := given
    exact absurd named (absent assignment inside)
  · rw [stored]
    exact stored_of_checkUpdate distinct valid enforced updated member required inside named

theorem not_requiresValue_of_checkDeletion (distinct : (table.columns.map Column.name).Nodup)
    (member : column ∈ table.columns) (accepted : table.checkDeletion column.name = .ok ()) :
    column.constraints.requiresValue = false := by
  simpa [checkDeletion, column?_eq_some distinct member] using accepted

theorem holds_of_changes {statement : Statement} (distinct : (table.columns.map Column.name).Nodup)
    (valid : table.validate declared = .ok ()) (enforced : config.enforceOnWrite = true)
    (accepted : table.Accepts config statement) (changed : statement.Changes before after)
    (required : table.HoldsRequired before) (satisfying : table.HoldsSatisfying before) :
    table.HoldsRequired after ∧ table.HoldsSatisfying after := by
  cases statement with
  | insert assignments =>
      have updated := (checkInsert_eq_ok_iff.mp accepted).2
      exact ⟨holdsRequired_of_checkInsert distinct valid enforced accepted changed,
        holdsSatisfying_of_checkUpdate distinct enforced updated changed satisfying⟩
  | update assignments =>
      exact ⟨holdsRequired_of_checkUpdate distinct valid enforced accepted changed required,
        holdsSatisfying_of_checkUpdate distinct enforced accepted changed satisfying⟩
  | delete deleted =>
      simp only [Statement.Changes] at changed
      subst after
      constructor
      · intro column member needed
        have kept : column.name ≠ deleted := by
          rintro rfl
          have free := not_requiresValue_of_checkDeletion distinct member accepted
          simp [free] at needed
        simpa [kept] using required column member needed
      · intro column member notKey constrained value found
        simp only at found
        split at found
        · simp at found
        · exact satisfying column member notKey constrained value found

theorem holds_of_reaches {row : Row} (distinct : (table.columns.map Column.name).Nodup)
    (valid : table.validate declared = .ok ()) (enforced : config.enforceOnWrite = true)
    (reached : table.Reaches config row) :
    table.HoldsRequired row ∧ table.HoldsSatisfying row := by
  induction reached with
  | created accepted assigned =>
      have updated := (checkInsert_eq_ok_iff.mp accepted).2
      have nothing : table.HoldsSatisfying fun _ => none := by
        intro _ _ _ _ _ found
        simp at found
      exact ⟨holdsRequired_of_checkInsert distinct valid enforced accepted assigned,
        holdsSatisfying_of_checkUpdate distinct enforced updated assigned nothing⟩
  | changed _ accepted changes ih =>
      exact holds_of_changes distinct valid enforced accepted changes ih.1 ih.2

end

/-- At every point of every run of accepted statements that begins with an insert, a column to
which `NOT_NULL` is applied at any depth holds a value, and every value of a constrained column
outside the key satisfies all its constraints. -/
theorem row_integrity {table : Table} {declared config : Config} {row : Row}
    (distinct : (table.columns.map Column.name).Nodup) (valid : table.validate declared = .ok ())
    (enforced : config.enforceOnWrite = true) (reached : table.Reaches config row) :
    (∀ column ∈ table.columns,
      (∃ constraint ∈ column.constraints.constraints,
        ∃ argument, .unary ⟨.notNull, argument⟩ ∈ constraint.leaves) →
      ∃ value, row column.name = some value ∧ value ≠ []) ∧
    (∀ column ∈ table.columns, column.isKey = false → column.constraints.constraints ≠ [] →
      ∀ value, row column.name = some value → value ≠ [] ∧
        ∀ constraint ∈ column.constraints.constraints,
          constraint.evaluate column.type value = .ok ()) := by
  obtain ⟨required, satisfying⟩ := holds_of_reaches distinct valid enforced reached
  refine ⟨?_, satisfying⟩
  intro column member applied
  exact required column member (column.constraints.requiresValue_iff.mpr applied)

def balance : Column :=
  ⟨⟨"balance"⟩, .int, .regular, 0, ⟨⟨"balance"⟩, [.composed ⟨"balance"⟩
    [.scalar ⟨⟨"balance"⟩, .atLeast, "0"⟩, .unary ⟨.notNull, ⟨"balance"⟩⟩]]⟩⟩

def account : Table :=
  ⟨"bank", "account", [⟨⟨"id"⟩, .int, .key .partition, 0, .none ⟨"id"⟩⟩, balance,
    ⟨⟨"note"⟩, .text, .regular, 0, .none ⟨"note"⟩⟩]⟩

def opening : List Assignment :=
  [⟨⟨"id"⟩, [0, 0, 0, 1]⟩, ⟨⟨"note"⟩, [104, 105]⟩, ⟨⟨"balance"⟩, [0, 0, 0, 5]⟩]

def deposits : List Assignment :=
  [⟨⟨"balance"⟩, [0, 0, 0, 7]⟩, ⟨⟨"balance"⟩, [0, 0, 0, 9]⟩]

theorem row_integrity_account :
    (account.columns.map Column.name).Nodup ∧ account.validate {} = .ok () ∧
      account.Accepts {} (.insert opening) ∧ account.Accepts {} (.update deposits) ∧
      account.Accepts {} (.delete ⟨"note"⟩) ∧
      ∃ row, account.Reaches {} row ∧ row ⟨"note"⟩ = none ∧
        ∃ value, row ⟨"balance"⟩ = some value ∧ value ≠ [] := by
  have distinct : (account.columns.map Column.name).Nodup := by decide
  have valid : account.validate {} = .ok () := rfl
  have inserted : account.Accepts {} (.insert opening) := rfl
  have updated : account.Accepts {} (.update deposits) := rfl
  have deleted : account.Accepts {} (.delete ⟨"note"⟩) := rfl
  have created := Reaches.created inserted (assigned_foldl opening _)
  have deposited := created.changed updated (assigned_foldl deposits _)
  have reached := deposited.changed deleted rfl
  have applied : ∃ constraint ∈ balance.constraints.constraints,
      ∃ argument, .unary ⟨.notNull, argument⟩ ∈ constraint.leaves :=
    ⟨_, List.mem_cons_self, ⟨"balance"⟩, by simp [Constraint.leaves, Constraint.eachLeaves]⟩
  have member : balance ∈ account.columns := by simp [account]
  have held := (row_integrity distinct valid rfl reached).1 balance member applied
  exact ⟨distinct, valid, inserted, updated, deleted, _, reached, by simp, held⟩

end Table

end ColumnChecks
