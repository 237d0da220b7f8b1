import ColumnChecks.Proofs.Clause.Rendering
import ColumnChecks.Proofs.Constraint.Violations
import ColumnChecks.Proofs.Table.Narrowing

/-! Tables that are built by declaring columns and attaching checks. Once such a table is valid, all
constraints of a column name that column, so a refused write is told of a column that it assigns or
of a required one that it leaves out. -/

namespace ColumnChecks

namespace Clause

theorem Phrase.Means.isLeafOf {declaring : ColumnName} {phrase : Phrase} {constraint : Constraint}
    (means : phrase.Means declaring constraint) : constraint.IsLeafOf declaring := by
  cases means with
  | comparison => rfl
  | application => trivial
  | measured => trivial

/-- Only comparisons are held to the declaring column by the parser. -/
theorem isLeafOf_of_parse {declaring : ColumnName} {clause : String} {set : ConstraintSet}
    (read : parse declaring clause = .ok set) :
    ∀ constraint ∈ set.constraints, constraint.IsLeafOf declaring := by
  obtain ⟨_, constraints⟩ := set
  obtain rfl := column_of_parse read
  obtain ⟨_, phrases, _, _, meaning⟩ := parse_eq_ok_iff_states.mp read
  exact forall_of_forall₂ meaning (fun _ _ means (_ : True) => means.isLeafOf) fun _ _ => trivial

end Clause

namespace Constraint

theorem column_eq_of_validate {column : Column} {constraint : Constraint}
    (leaf : constraint.IsLeafOf column.name) (valid : constraint.validate column = .ok ()) :
    constraint.kind ≠ .composed ∧ constraint.column = column.name := by
  cases constraint with
  | composed => exact leaf.elim
  | function comparison =>
      exact ⟨by simp [kind], (MeasureComparison.validate_eq_ok_iff.mp valid).1⟩
  | scalar comparison => exact ⟨by simp [kind], leaf⟩
  | unary application =>
      exact ⟨by simp [kind], (Application.validate_eq_ok_iff.mp valid).1⟩

end Constraint

namespace Column

structure Stated (column : Column) : Prop where
  bound : column.constraints.column = column.name
  leaves : ∀ constraint ∈ column.constraints.constraints, constraint.IsLeafOf column.name

structure Owns (column : Column) : Prop where
  bound : column.constraints.column = column.name
  names : ∀ constraint ∈ column.constraints.constraints,
    constraint.kind ≠ .composed ∧ constraint.column = column.name

theorem Stated.owns {maxTermLength : Nat} {column : Column} (stated : column.Stated)
    (valid : column.validate maxTermLength = .ok ()) : column.Owns := by
  refine ⟨stated.bound, fun constraint member => ?_⟩
  exact Constraint.column_eq_of_validate (stated.leaves constraint member)
    (validate_of_validate valid constraint member)

theorem Owns.valueColumn? {column : Column} (owns : column.Owns) {value : Bytes}
    {violation : Violation} (failed : column.evaluate value = .error violation) :
    violation.valueColumn? = some column.name := by
  unfold Column.evaluate at failed
  split at failed
  · simp at failed
  · obtain ⟨constraint, member, refused⟩ := exists_of_forM_eq_error failed
    obtain ⟨simple, named⟩ := owns.names constraint member
    rw [← named]
    exact Constraint.valueColumn?_of_evaluate simple refused

end Column

namespace Table

/-- The tables that declarations build: columns are added without constraints, and checks are
attached to columns. -/
inductive Declared : Table → Prop
  | new (keyspace name : String) : Declared (.new keyspace name)
  | withColumn {table : Table} (name : String) (type : ColumnType) (role : ColumnRole)
      (position : UInt32) : Declared table →
      Declared (table.withColumn { Column.new name type role with position })
  | withCheck {table checked : Table} {column clause : String} : Declared table →
      table.withCheck column clause = .ok checked → Declared checked

theorem stated_attach {name : ColumnName} {added : List Constraint} {columns : List Column}
    (leaves : ∀ constraint ∈ added, constraint.IsLeafOf name)
    (stated : ∀ column ∈ columns, column.Stated) :
    ∀ column ∈ attach name added columns, column.Stated := by
  induction columns with
  | nil => simp [attach]
  | cons column rest ih =>
      simp only [List.forall_mem_cons] at stated
      by_cases named : column.name = name
      · simp only [attach, named, if_true, List.forall_mem_cons]
        refine ⟨⟨rfl, ?_⟩, stated.2⟩
        intro constraint member
        rcases List.mem_append.mp member with own | new
        · exact named ▸ stated.1.leaves constraint own
        · exact leaves constraint new
      · simp only [attach, named, if_false, List.forall_mem_cons]
        exact ⟨stated.1, ih stated.2⟩

theorem Declared.stated {table : Table} (declared : table.Declared) :
    ∀ column ∈ table.columns, column.Stated := by
  induction declared with
  | new => simp [Table.new]
  | withColumn name type role position _ ih =>
      simp only [Table.withColumn, List.forall_mem_append, List.forall_mem_singleton]
      exact ⟨ih, ⟨rfl, by simp [Column.new, ConstraintSet.none]⟩⟩
  | withCheck _ checked ih =>
      obtain ⟨_, set, _, parsed, rfl⟩ := withCheck_eq_ok_iff.mp checked
      exact stated_attach (Clause.isLeafOf_of_parse parsed) ih

theorem Declared.owns {table : Table} {config : Config} (declared : table.Declared)
    (valid : table.validate config = .ok ()) : ∀ column ∈ table.columns, column.Owns := by
  intro column member
  exact (declared.stated column member).owns (forM_eq_ok_iff.mp valid column member)

section

variable {table : Table} {config : Config} {assignments : List Assignment} {violation : Violation}

theorem assigns_of_checkUpdate (owns : ∀ column ∈ table.columns, column.Owns)
    (failed : table.checkUpdate config assignments = .error violation) :
    ∃ assignment ∈ assignments, violation.valueColumn? = some assignment.column := by
  unfold checkUpdate at failed
  split at failed
  · obtain ⟨assignment, member, refused⟩ := exists_of_forM_eq_error failed
    refine ⟨assignment, member, ?_⟩
    unfold evaluateAssignment at refused
    cases found : table.column? assignment.column with
    | none => simp [found] at refused
    | some column =>
        have named : column.name = assignment.column := by simpa using List.find?_some found
        simp only [found] at refused
        rw [← named]
        exact (owns column (List.mem_of_find?_eq_some found)).valueColumn? refused
  · simp at failed

theorem assigns_or_misses_of_checkInsert (owns : ∀ column ∈ table.columns, column.Owns)
    (failed : table.checkInsert config assignments = .error violation) :
    (∃ assignment ∈ assignments, violation.valueColumn? = some assignment.column) ∨
      ∃ column ∈ table.columns, violation = .missingColumn column.name ∧
        ∀ assignment ∈ assignments, assignment.column ≠ column.name := by
  unfold checkInsert at failed
  split at failed
  · rename_i column found
    cases failed
    have missing := List.find?_some found
    simp only [isMissing, Bool.and_eq_true, Bool.not_eq_true', List.any_eq_false,
      decide_eq_true_eq] at missing
    exact Or.inr ⟨column, List.mem_of_find?_eq_some found, rfl, missing.2⟩
  · exact Or.inl (assigns_of_checkUpdate owns failed)

end

/-- In a valid table that declarations build, every constraint names the column that carries it. So
a violation by a write names a column that the statement assigns, unless it is that a column of the
table is missing, and then the statement does not assign that one. -/
theorem declared_names_own_column {table : Table} {config : Config} (declared : table.Declared)
    (valid : table.validate config = .ok ()) :
    (∀ column ∈ table.columns, column.constraints.column = column.name ∧
      ∀ constraint ∈ column.constraints.constraints,
        constraint.kind ≠ .composed ∧ constraint.column = column.name) ∧
    ∀ (enforced : Config) (assignments : List Assignment) (violation : Violation),
      table.checkInsert enforced assignments = .error violation ∨
          table.checkUpdate enforced assignments = .error violation →
        (∃ assignment ∈ assignments, violation.valueColumn? = some assignment.column) ∨
          ∃ column ∈ table.columns, violation = .missingColumn column.name ∧
            ∀ assignment ∈ assignments, assignment.column ≠ column.name := by
  have owns := declared.owns valid
  refine ⟨fun column member => ⟨(owns column member).bound, (owns column member).names⟩, ?_⟩
  rintro enforced assignments violation (inserted | updated)
  · exact assigns_or_misses_of_checkInsert owns inserted
  · exact Or.inl (assigns_of_checkUpdate owns updated)

def unchecked : Table :=
  ((Table.new "shop" "stock").withColumn (Column.new "Item" .uuid (.key .partition))).withColumn
    (Column.new "Amount" .int .regular)

def stock : Table :=
  let added := [.scalar ⟨⟨"amount"⟩, .atLeast, "0"⟩, .unary ⟨.notNull, ⟨"amount"⟩⟩]
  { unchecked with columns := attach ⟨"amount"⟩ added unchecked.columns }

theorem declared_names_own_column_stock :
    stock.Declared ∧ stock.validate {} = .ok () ∧
      (∀ violation, stock.checkUpdate {} [⟨⟨"amount"⟩, [255, 255, 255, 255]⟩] = .error violation →
        violation.valueColumn? = some ⟨"amount"⟩) ∧
      stock.checkInsert {} [⟨⟨"item"⟩, []⟩] = .error (.missingColumn ⟨"amount"⟩) ∧
      stock.checkUpdate {} [⟨⟨"amount"⟩, [255, 255, 255, 255]⟩] =
        .error (.unsatisfied (.scalar ⟨⟨"amount"⟩, .atLeast, "0"⟩)) := by
  have checked : unchecked.withCheck "AMOUNT" "amount >= 0 AND Not_Null(amount)" = .ok stock := by
    decide +kernel
  have declared : stock.Declared :=
    (((Declared.new "shop" "stock").withColumn "Item" .uuid (.key .partition) 0).withColumn
      "Amount" .int .regular 0).withCheck checked
  have valid : stock.validate {} = .ok () := by decide +kernel
  have negative : stock.checkUpdate {} [⟨⟨"amount"⟩, [255, 255, 255, 255]⟩] =
      .error (.unsatisfied (.scalar ⟨⟨"amount"⟩, .atLeast, "0"⟩)) := by decide +kernel
  refine ⟨declared, valid, ?_, by decide +kernel, negative⟩
  intro violation failed
  rcases (declared_names_own_column declared valid).2 {} _ violation (Or.inr failed) with
    ⟨assignment, member, named⟩ | ⟨column, _, rfl, _⟩
  · rw [named, List.mem_singleton.mp member]
  · simp [negative] at failed

end Table

end ColumnChecks
