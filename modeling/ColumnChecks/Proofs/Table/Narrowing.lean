import ColumnChecks.Proofs.Table.RowIntegrity

/-! Attaching a check to a column only narrows what its table accepts. The constraints that were
there come first, so they also go on failing for the same reason. -/

namespace ColumnChecks

namespace Column

variable {extended column : Column}

structure Extends (extended column : Column) : Prop where
  name : extended.name = column.name
  type : extended.type = column.type
  role : extended.role = column.role
  constraints : column.constraints.constraints <+: extended.constraints.constraints

theorem Extends.refl (column : Column) : column.Extends column :=
  ⟨rfl, rfl, rfl, List.prefix_refl _⟩

theorem Extends.isKey (larger : extended.Extends column) : extended.isKey = column.isKey := by
  simp only [Column.isKey, larger.role]

theorem Extends.requiresValue (larger : extended.Extends column)
    (required : column.constraints.requiresValue = true) :
    extended.constraints.requiresValue = true := by
  obtain ⟨constraint, member, requires⟩ := Constraint.anyRequiresValue_iff.mp required
  exact Constraint.anyRequiresValue_iff.mpr
    ⟨constraint, larger.constraints.subset member, requires⟩

theorem Extends.evaluate_eq_error (larger : extended.Extends column) {value : Bytes}
    {cause : Violation} (failed : column.evaluate value = .error cause) :
    extended.evaluate value = .error cause := by
  unfold Column.evaluate at failed ⊢
  rw [larger.isKey, larger.type]
  by_cases key : column.isKey = true
  · simp [key] at failed
  · simp only [key, Bool.false_eq_true, if_false] at failed ⊢
    exact forM_eq_error_of_prefix larger.constraints failed

end Column

namespace Table

theorem extends_attach (name : ColumnName) (added : List Constraint) (columns : List Column) :
    List.Forall₂ Column.Extends (attach name added columns) columns := by
  induction columns with
  | nil => exact .nil
  | cons column rest ih =>
      by_cases named : column.name = name
      · simp only [attach, named, if_true]
        exact .cons ⟨named.symm, rfl, rfl, List.prefix_append _ _⟩
          (List.forall₂_same.mpr fun other _ => Column.Extends.refl other)
      · simp only [attach, named, if_false]
        exact .cons (Column.Extends.refl column) ih

def Extends (extended table : Table) : Prop :=
  List.Forall₂ Column.Extends extended.columns table.columns

theorem withCheck_eq_ok_iff {table checked : Table} {column clause : String} :
    table.withCheck column clause = .ok checked ↔
      ∃ target set, table.column? (.ofCql column) = some target ∧
        Clause.parse (.ofCql column) clause = .ok set ∧
        checked =
          { table with columns := attach (.ofCql column) set.constraints table.columns } := by
  simp only [withCheck]
  cases found : table.column? (.ofCql column) with
  | none => simp
  | some target =>
      cases parsed : Clause.parse (.ofCql column) clause with
      | error cause => simp [bind, Except.bind]
      | ok set =>
          simp only [Option.isNone_some, Bool.false_eq_true, if_false, bind, Except.bind, pure,
            Except.pure, Except.ok.injEq, Option.some.injEq, exists_and_left, exists_eq_left']
          exact eq_comm

theorem extends_of_withCheck {table checked : Table} {column clause : String}
    (declared : table.withCheck column clause = .ok checked) : checked.Extends table := by
  obtain ⟨_, _, _, _, rfl⟩ := withCheck_eq_ok_iff.mp declared
  exact extends_attach _ _ _

theorem find?_attach {name : ColumnName} {added : List Constraint} {columns : List Column}
    {target : Column} (found : columns.find? (·.name = name) = some target) :
    (attach name added columns).find? (·.name = name) =
      some { target with constraints := ⟨name, target.constraints.constraints ++ added⟩ } := by
  induction columns with
  | nil => simp at found
  | cons column rest ih =>
      by_cases named : column.name = name
      · rw [List.find?_cons_of_pos (by simpa using named)] at found
        cases found
        simp [attach, named]
      · rw [List.find?_cons_of_neg (by simpa using named)] at found
        simp [attach, named, ih found]

section

variable {extended table : Table} {config : Config} {assignments : List Assignment}

theorem Extends.exists_column? (larger : extended.Extends table) {name : ColumnName}
    {column : Column} (found : table.column? name = some column) :
    ∃ more, extended.column? name = some more ∧ more.Extends column := by
  unfold column? at found ⊢
  unfold Extends at larger
  generalize extended.columns = firsts, table.columns = seconds at larger found
  induction larger with
  | nil => simp at found
  | @cons first second _ _ head _ ih =>
      by_cases named : second.name = name
      · rw [List.find?_cons_of_pos (by simpa using named)] at found
        cases found
        exact ⟨first, List.find?_cons_of_pos (by simpa [head.name] using named), head⟩
      · rw [List.find?_cons_of_neg (by simpa using named)] at found
        rw [List.find?_cons_of_neg (by simpa [head.name] using named)]
        exact ih found

theorem Extends.evaluateAssignment_eq_error (larger : extended.Extends table)
    {assignment : Assignment} {cause : Violation}
    (failed : table.evaluateAssignment assignment = .error cause) :
    extended.evaluateAssignment assignment = .error cause := by
  unfold evaluateAssignment at failed ⊢
  cases found : table.column? assignment.column with
  | none => simp [found] at failed
  | some column =>
      obtain ⟨more, foundMore, moreExtends⟩ := larger.exists_column? found
      simp only [found] at failed
      simp only [foundMore]
      exact moreExtends.evaluate_eq_error failed

theorem Extends.checkUpdate_eq_ok (larger : extended.Extends table)
    (accepted : extended.checkUpdate config assignments = .ok ()) :
    table.checkUpdate config assignments = .ok () := by
  unfold checkUpdate at accepted ⊢
  split
  · rename_i enforced
    simp only [enforced, if_true, forM_eq_ok_iff] at accepted ⊢
    intro assignment member
    exact eq_ok_of_refused (fun cause => larger.evaluateAssignment_eq_error)
      (accepted assignment member)
  · rfl

theorem Extends.checkInsert_eq_ok (larger : extended.Extends table)
    (accepted : extended.checkInsert config assignments = .ok ()) :
    table.checkInsert config assignments = .ok () := by
  obtain ⟨present, updated⟩ := checkInsert_eq_ok_iff.mp accepted
  refine checkInsert_eq_ok_iff.mpr ⟨?_, larger.checkUpdate_eq_ok updated⟩
  refine forall_of_forall₂ larger (fun more column moreExtends given => ?_) present
  cases required : column.constraints.requiresValue with
  | false => simp [isMissing, required]
  | true =>
      simpa [isMissing, moreExtends.isKey, moreExtends.name, moreExtends.requiresValue required,
        required] using given

theorem Extends.checkDeletion_eq_ok (larger : extended.Extends table) {name : ColumnName}
    (accepted : extended.checkDeletion name = .ok ()) : table.checkDeletion name = .ok () := by
  unfold checkDeletion at accepted ⊢
  cases found : table.column? name with
  | none => rfl
  | some column =>
      obtain ⟨more, foundMore, moreExtends⟩ := larger.exists_column? found
      cases required : column.constraints.requiresValue with
      | false => simp [required]
      | true => simp [foundMore, moreExtends.requiresValue required] at accepted

theorem checkUpdate_singleton (assignment : Assignment) :
    table.checkUpdate config [assignment] =
      if config.enforceOnWrite then table.evaluateAssignment assignment else .ok () := by
  simp [checkUpdate]

theorem Extends.checkUpdate_singleton_eq_error (larger : extended.Extends table)
    {assignment : Assignment} {cause : Violation}
    (failed : table.checkUpdate config [assignment] = .error cause) :
    extended.checkUpdate config [assignment] = .error cause := by
  rw [checkUpdate_singleton] at failed ⊢
  by_cases enforced : config.enforceOnWrite = true
  · rw [if_pos enforced] at failed ⊢
    exact larger.evaluateAssignment_eq_error failed
  · simp [enforced] at failed

end

/-- A check puts the constraints of its clause behind those of the column it names. What the table
accepts then, it accepts without the check, under any configuration; and an update of one column
that it refuses without the check is refused for the same reason with it. -/
theorem withCheck_narrows {table checked : Table} {column clause : String} (config : Config)
    (declared : table.withCheck column clause = .ok checked) :
    (∃ target set, table.column? (.ofCql column) = some target ∧
      Clause.parse (.ofCql column) clause = .ok set ∧
      checked.column? (.ofCql column) = some { target with
        constraints := ⟨.ofCql column, target.constraints.constraints ++ set.constraints⟩ }) ∧
    (∀ assignments, checked.checkInsert config assignments = .ok () →
      table.checkInsert config assignments = .ok ()) ∧
    (∀ assignments, checked.checkUpdate config assignments = .ok () →
      table.checkUpdate config assignments = .ok ()) ∧
    (∀ name, checked.checkDeletion name = .ok () → table.checkDeletion name = .ok ()) ∧
    ∀ assignment violation, table.checkUpdate config [assignment] = .error violation →
      checked.checkUpdate config [assignment] = .error violation := by
  have larger := extends_of_withCheck declared
  obtain ⟨target, set, found, parsed, rfl⟩ := withCheck_eq_ok_iff.mp declared
  exact ⟨⟨target, set, found, parsed, find?_attach found⟩,
    fun _ => larger.checkInsert_eq_ok, fun _ => larger.checkUpdate_eq_ok,
    fun _ => larger.checkDeletion_eq_ok, fun _ _ => larger.checkUpdate_singleton_eq_error⟩

def notedAccount : Table :=
  let added := [.unary ⟨.notNull, ⟨"note"⟩⟩, .function ⟨.length, ⟨"note"⟩, .less, "4"⟩]
  { account with columns := attach ⟨"note"⟩ added account.columns }

theorem withCheck_narrows_account :
    account.withCheck "Note" "NOT_NULL(note) AND LENGTH(note) < 4" = .ok notedAccount ∧
      notedAccount.checkInsert {} opening = .ok () ∧ account.checkInsert {} opening = .ok () ∧
      account.checkUpdate {} [⟨⟨"balance"⟩, []⟩] = .error (.nullValue ⟨"balance"⟩) ∧
      notedAccount.checkUpdate {} [⟨⟨"balance"⟩, []⟩] = .error (.nullValue ⟨"balance"⟩) := by
  have declared : account.withCheck "Note" "NOT_NULL(note) AND LENGTH(note) < 4" =
      .ok notedAccount := by decide +kernel
  have inserted : notedAccount.checkInsert {} opening = .ok () := by decide +kernel
  have refused : account.checkUpdate {} [⟨⟨"balance"⟩, []⟩] =
      .error (.nullValue ⟨"balance"⟩) := by decide
  obtain ⟨_, inserts, _, _, refusals⟩ := withCheck_narrows {} declared
  exact ⟨declared, inserted, inserts opening inserted, refused, refusals _ _ refused⟩

end Table

end ColumnChecks
