import ColumnChecks.Proofs.Table.RowIntegrity

/-! What the checks of inserts and updates decide: which statements are accepted, and which failure
is reported for the others. -/

namespace ColumnChecks

namespace Table

def Defines (table : Table) (name : ColumnName) (column : Column) : Prop :=
  IsFirst (fun other => other.name = name) table.columns column

def Omits (assignments : List Assignment) (column : Column) : Prop :=
  column.isKey = false ∧
    (∃ constraint ∈ column.constraints.constraints,
      ∃ argument, .unary ⟨.notNull, argument⟩ ∈ constraint.leaves) ∧
    ∀ assignment ∈ assignments, assignment.column ≠ column.name

/-- The value fulfils all constraints of the column that it is given to. Key columns and columns
that are not defined ask for nothing. -/
def Satisfies (table : Table) (assignment : Assignment) : Prop :=
  ∀ column, table.Defines assignment.column column → column.isKey = false →
    ∀ constraint ∈ column.constraints.constraints,
      constraint.evaluate column.type assignment.value = .ok ()

def Refuses (table : Table) (assignment : Assignment) (violation : Violation) : Prop :=
  ∃ column constraint, table.Defines assignment.column column ∧ column.isKey = false ∧
    IsFirst (fun other => other.evaluate column.type assignment.value ≠ .ok ())
      column.constraints.constraints constraint ∧
    constraint.evaluate column.type assignment.value = .error violation

inductive UpdateOutcome (table : Table) (config : Config) (assignments : List Assignment) :
    Except Violation Unit → Prop
  | disabled : config.enforceOnWrite = false → UpdateOutcome table config assignments (.ok ())
  | accepted : config.enforceOnWrite = true →
      (∀ assignment ∈ assignments, table.Satisfies assignment) →
      UpdateOutcome table config assignments (.ok ())
  | refused {assignment violation} : config.enforceOnWrite = true →
      IsFirst (fun other => ¬ table.Satisfies other) assignments assignment →
      table.Refuses assignment violation →
      UpdateOutcome table config assignments (.error violation)

inductive InsertOutcome (table : Table) (config : Config) (assignments : List Assignment) :
    Except Violation Unit → Prop
  | missing {column} : IsFirst (Omits assignments) table.columns column →
      InsertOutcome table config assignments (.error (.missingColumn column.name))
  | complete {outcome} : (∀ column ∈ table.columns, ¬ Omits assignments column) →
      UpdateOutcome table config assignments outcome →
      InsertOutcome table config assignments outcome

section

variable {table : Table} {config : Config} {assignments reordered : List Assignment}
variable {violation : Violation}

theorem column?_eq_some_iff {name : ColumnName} {column : Column} :
    table.column? name = some column ↔ table.Defines name column :=
  find?_eq_some_iff fun other => by simp

theorem isMissing_iff (column : Column) :
    isMissing assignments column = true ↔ Omits assignments column := by
  simp [isMissing, Omits, ConstraintSet.requiresValue_iff, and_assoc]

theorem evaluateAssignment_eq_ok_iff {assignment : Assignment} :
    table.evaluateAssignment assignment = .ok () ↔ table.Satisfies assignment := by
  simp only [evaluateAssignment, Satisfies, ← column?_eq_some_iff]
  cases table.column? assignment.column with
  | none => simp
  | some column =>
      by_cases key : column.isKey = true
      · simp [Column.evaluate, key]
      · simpa [Column.evaluate, key, ConstraintSet.evaluate] using forM_eq_ok_iff

theorem evaluateAssignment_eq_error_iff {assignment : Assignment} :
    table.evaluateAssignment assignment = .error violation ↔
      table.Refuses assignment violation := by
  simp only [evaluateAssignment, Refuses, ← column?_eq_some_iff]
  cases table.column? assignment.column with
  | none => simp
  | some column =>
      by_cases key : column.isKey = true
      · simp [Column.evaluate, key]
      · simpa [Column.evaluate, key, ConstraintSet.evaluate] using forM_eq_error_iff

theorem checkUpdate_eq_ok_iff :
    table.checkUpdate config assignments = .ok () ↔
      config.enforceOnWrite = false ∨ ∀ assignment ∈ assignments, table.Satisfies assignment := by
  by_cases enforced : config.enforceOnWrite = true
  · simp only [checkUpdate, enforced, if_true, forM_eq_ok_iff, evaluateAssignment_eq_ok_iff,
      reduceCtorEq, false_or]
  · simp [checkUpdate, enforced]

theorem checkUpdate_eq_error_iff :
    table.checkUpdate config assignments = .error violation ↔
      config.enforceOnWrite = true ∧
        ∃ assignment, IsFirst (fun other => ¬ table.Satisfies other) assignments assignment ∧
          table.Refuses assignment violation := by
  by_cases enforced : config.enforceOnWrite = true
  · simp only [checkUpdate, enforced, if_true, forM_eq_error_iff, ne_eq,
      evaluateAssignment_eq_ok_iff, evaluateAssignment_eq_error_iff, true_and]
  · simp [checkUpdate, enforced]

theorem checkUpdate_eq_iff {outcome : Except Violation Unit} :
    table.checkUpdate config assignments = outcome ↔
      UpdateOutcome table config assignments outcome := by
  cases outcome with
  | ok =>
      rw [checkUpdate_eq_ok_iff]
      constructor
      · intro accepted
        by_cases enforced : config.enforceOnWrite = true
        · exact .accepted enforced (accepted.resolve_left (by simp [enforced]))
        · exact .disabled (by simpa using enforced)
      · rintro (disabled | ⟨_, accepted⟩)
        · exact Or.inl disabled
        · exact Or.inr accepted
  | error violation =>
      rw [checkUpdate_eq_error_iff]
      constructor
      · rintro ⟨enforced, _, first, refused⟩
        exact .refused enforced first refused
      · rintro ⟨⟩
        exact ⟨‹_›, _, ‹_›, ‹_›⟩

theorem checkInsert_eq_iff {outcome : Except Violation Unit} :
    table.checkInsert config assignments = outcome ↔
      InsertOutcome table config assignments outcome := by
  constructor
  · rintro rfl
    unfold checkInsert
    cases found : table.columns.find? (isMissing assignments) with
    | none =>
        refine .complete ?_ (checkUpdate_eq_iff.mp rfl)
        simpa [isMissing_iff] using List.find?_eq_none.mp found
    | some column => exact .missing ((find?_eq_some_iff isMissing_iff).mp found)
  · rintro (first | ⟨present, updated⟩)
    · simp only [checkInsert, (find?_eq_some_iff isMissing_iff).mpr first]
    · have absent : table.columns.find? (isMissing assignments) = none := by
        simpa [isMissing_iff] using present
      simpa only [checkInsert, absent] using checkUpdate_eq_iff.mpr updated

theorem checkUpdate_eq_ok_of_perm (permuted : reordered.Perm assignments) :
    table.checkUpdate config reordered = .ok () ↔
      table.checkUpdate config assignments = .ok () := by
  simp only [checkUpdate_eq_ok_iff, permuted.mem_iff]

theorem checkInsert_eq_ok_of_perm (permuted : reordered.Perm assignments) :
    table.checkInsert config reordered = .ok () ↔
      table.checkInsert config assignments = .ok () := by
  have omits (column : Column) : Omits reordered column ↔ Omits assignments column := by
    simp only [Omits, permuted.mem_iff]
  simp only [checkInsert_eq_ok_iff, checkUpdate_eq_ok_of_perm permuted, ← Bool.not_eq_true,
    isMissing_iff, omits]

theorem satisfies_of_checkUpdate (enforced : config.enforceOnWrite = true)
    (accepted : table.checkUpdate config assignments = .ok ()) :
    ∀ assignment ∈ assignments, table.Satisfies assignment := by
  simpa [enforced] using checkUpdate_eq_ok_iff.mp accepted

end

/-- An insert fails for the first declared column that it omits; otherwise it has the outcome of an
update, which is the first violation by assignments and then by constraints, or acceptance where
values are not enforced. So acceptance does not depend on the order of the assignments, and each of
them satisfies the constraints, also where several are to one column. -/
theorem check_decides (table : Table) (config : Config) (assignments : List Assignment) :
    (∀ outcome, table.checkInsert config assignments = outcome ↔
      InsertOutcome table config assignments outcome) ∧
    (∀ outcome, table.checkUpdate config assignments = outcome ↔
      UpdateOutcome table config assignments outcome) ∧
    (∀ reordered, reordered.Perm assignments →
      (table.checkInsert config reordered = .ok () ↔
        table.checkInsert config assignments = .ok ()) ∧
      (table.checkUpdate config reordered = .ok () ↔
        table.checkUpdate config assignments = .ok ())) ∧
    (config.enforceOnWrite = true →
      table.checkInsert config assignments = .ok () ∨
        table.checkUpdate config assignments = .ok () →
      ∀ assignment ∈ assignments, table.Satisfies assignment) := by
  refine ⟨fun _ => checkInsert_eq_iff, fun _ => checkUpdate_eq_iff, ?_, ?_⟩
  · intro reordered permuted
    exact ⟨checkInsert_eq_ok_of_perm permuted, checkUpdate_eq_ok_of_perm permuted⟩
  · rintro enforced (inserted | updated)
    · exact satisfies_of_checkUpdate enforced (checkInsert_eq_ok_iff.mp inserted).2
    · exact satisfies_of_checkUpdate enforced updated

def withdrawal : Assignment :=
  ⟨⟨"balance"⟩, [255, 255, 255, 251]⟩

theorem check_decides_account :
    account.checkInsert {} opening.reverse = .ok () ∧
      (∀ assignment ∈ deposits, account.Satisfies assignment) ∧
      InsertOutcome account ⟨false, .current, 1024⟩ [withdrawal] (.ok ()) ∧
      InsertOutcome account ⟨false, .current, 1024⟩ [] (.error (.missingColumn ⟨"balance"⟩)) ∧
      UpdateOutcome account {} (deposits ++ [withdrawal])
        (.error (.unsatisfied (.scalar ⟨⟨"balance"⟩, .atLeast, "0"⟩))) := by
  obtain ⟨_, _, reorders, _⟩ := check_decides account {} opening
  obtain ⟨_, _, _, satisfies⟩ := check_decides account {} deposits
  refine ⟨(reorders _ (List.reverse_perm _)).1.mpr rfl, satisfies rfl (Or.inr rfl), ?_, ?_, ?_⟩
  · exact ((check_decides account _ [withdrawal]).1 _).mp rfl
  · exact ((check_decides account _ []).1 _).mp rfl
  · exact ((check_decides account {} (deposits ++ [withdrawal])).2.1 _).mp rfl

end Table

end ColumnChecks
