import Mathlib.Data.List.Forall2
import ColumnChecks.Table.Enforcement
import ColumnChecks.Table.Printer
import ColumnChecks.Table.Snapshot
import ColumnChecks.Proofs.Constraint.RoundTrip

/-! A table that is stored and loaded again differs from the original only in the column to which
each set of constraints is bound, and nothing that a table decides depends on that column. -/

namespace ColumnChecks

theorem mapM_eq_ok_iff_forall₂ {ε α β : Type} {read : α → Except ε β} {values : List α}
    {results : List β} :
    values.mapM read = .ok results ↔
      List.Forall₂ (fun value result => read value = .ok result) values results := by
  induction values generalizing results with
  | nil => simp [pure, Except.pure, eq_comm]
  | cons first rest ih =>
      rw [List.mapM_cons, List.forall₂_cons_left_iff]
      cases readFirst : read first with
      | error cause => simp [bind, Except.bind]
      | ok result =>
          cases readRest : rest.mapM read with
          | error cause => simp [← ih, readRest, bind, Except.bind]
          | ok others =>
              simp [← ih, readRest, bind, Except.bind, pure, Except.pure, eq_comm]

/-- What was written reads back whole if all of it is good, and is refused otherwise. -/
theorem mapM_of_recovered_or_refused {ε δ α β γ : Type} {write : α → Except ε β}
    {read : β → Except δ γ} {loaded : α → γ} {Good : α → Prop} [DecidablePred Good] {cause : δ}
    {values : List α} {stored : List β} (written : values.mapM write = .ok stored)
    (outcome : ∀ value ∈ values, ∀ image, write value = .ok image →
      read image = if Good value then .ok (loaded value) else .error cause) :
    stored.mapM read =
      if ∀ value ∈ values, Good value then .ok (values.map loaded) else .error cause := by
  induction mapM_eq_ok_iff_forall₂.mp written with
  | nil => simp [pure, Except.pure]
  | @cons value image values images writtenFirst writtenRest ih =>
      have head := outcome value (by simp) image writtenFirst
      have tail := ih (mapM_eq_ok_iff_forall₂.mpr writtenRest) fun other member =>
        outcome other (by simp [member])
      rw [List.mapM_cons, head, tail]
      -- The first value that is not good refuses the list, and all of them have one cause.
      by_cases good : Good value
      · by_cases others : ∀ other ∈ values, Good other
        · have all : ∀ other ∈ value :: values, Good other := by simpa [good] using others
          simp only [if_pos good, if_pos others, if_pos all]
          rfl
        · have notAll : ¬∀ other ∈ value :: values, Good other := by simpa [good] using others
          simp only [if_pos good, if_neg others, if_neg notAll]
          rfl
      · have notAll : ¬∀ other ∈ value :: values, Good other := by simp [good]
        simp only [if_neg good, if_neg notAll]
        rfl

namespace Constraint

theorem readsWithin_of_encodeList {writtenIn : Version} {constraints : List Constraint}
    {stored : Bytes} (written : encodeList writtenIn constraints = .ok stored)
    (readIn : Version) :
    ReadsWithin maxNesting (readList readIn) stored constraints (nestingEach constraints) := by
  simp only [encodeList, EStateM.run] at written
  split at written
  · rename_i output ran
    rw [writeList_eq, Field.writeAll_eq_ok_iff] at ran
    simp only [Except.ok.injEq] at written
    rw [← written, ran.2, Output.bytes_append, Output.bytes_empty, List.nil_append]
    exact readsWithin_readList readIn ran.1
  · simp at written

theorem decodeList_of_encodeList {writtenIn : Version} {constraints : List Constraint}
    {stored : Bytes} (written : encodeList writtenIn constraints = .ok stored)
    (readIn : Version) :
    decodeList readIn stored =
      if nestingEach constraints ≤ maxNesting then .ok constraints
      else .error (.nestingTooDeep (maxNesting + 1)) := by
  have back := readsWithin_of_encodeList written readIn
  split
  · rename_i shallow
    have whole := back.reads shallow []
    rw [List.append_nil] at whole
    simp [decodeList, EStateM.run, whole]
  · rename_i deep
    obtain ⟨left, refused⟩ := back.refuses (Nat.not_le.mp deep) []
    rw [List.append_nil] at refused
    simp [decodeList, EStateM.run, refused]

end Constraint

namespace Column

def rebound (column : Column) : Column :=
  { column with constraints := ⟨column.name, column.constraints.constraints⟩ }

def Shallow (column : Column) : Prop :=
  Constraint.nestingEach column.constraints.constraints ≤ maxNesting

instance : DecidablePred Shallow := fun _ => inferInstanceAs (Decidable (_ ≤ _))

theorem toSnapshot_eq_ok_iff {version : Version} {column : Column} {snapshot : ColumnSnapshot} :
    column.toSnapshot version = .ok snapshot ↔
      ∃ stored, Constraint.encodeList version column.constraints.constraints = .ok stored ∧
        snapshot = ⟨column.name.toCql, column.type, column.role, column.position, stored⟩ := by
  simp only [toSnapshot, bind, Except.bind, pure, Except.pure]
  cases Constraint.encodeList version column.constraints.constraints with
  | error cause => simp
  | ok stored => simp [eq_comm]

theorem ofSnapshot_of_written {writtenIn : Version} {column : Column} {snapshot : ColumnSnapshot}
    (written : column.toSnapshot writtenIn = .ok snapshot) (readIn : Version) :
    ofSnapshot readIn snapshot =
      if column.Shallow then .ok column.rebound else .error (.nestingTooDeep (maxNesting + 1)) := by
  obtain ⟨stored, encoded, rfl⟩ := toSnapshot_eq_ok_iff.mp written
  have decoded := Constraint.decodeList_of_encodeList encoded readIn
  by_cases shallow : column.Shallow
  · rw [if_pos shallow]
    simp only [ofSnapshot, decoded.trans (if_pos shallow), ColumnName.ofCql_toCql]
    rfl
  · rw [if_neg shallow]
    simp only [ofSnapshot, decoded.trans (if_neg shallow)]
    rfl

end Column

namespace Constraint

theorem validateEach_congr {first second : Column} {constraints : List Constraint}
    (same : ∀ constraint ∈ constraints, constraint.validate first = constraint.validate second) :
    validateEach first constraints = validateEach second constraints := by
  induction constraints with
  | nil => rfl
  | cons head rest ih =>
      have tail := ih fun constraint member => same constraint (by simp [member])
      simp only [validateEach, same head (by simp), tail]

theorem validate_rebound (constraint : Constraint) (column : Column) :
    constraint.validate column.rebound = constraint.validate column := by
  induction constraint with
  | composed name children ih =>
      simp only [validate]
      exact validateEach_congr ih
  | function comparison => rfl
  | scalar comparison => rfl
  | unary application => rfl

end Constraint

@[simp] theorem Column.rebound_validate (column : Column) (maxTermLength : Nat) :
    column.rebound.validate maxTermLength = column.validate maxTermLength := by
  simp only [Column.validate, Constraint.validate_rebound]
  rfl

namespace Table

def rebound (table : Table) : Table :=
  { table with columns := table.columns.map Column.rebound }

@[simp] theorem rebound_keyspace (table : Table) : table.rebound.keyspace = table.keyspace := rfl

@[simp] theorem rebound_name (table : Table) : table.rebound.name = table.name := rfl

theorem rebound_column? (table : Table) (name : ColumnName) :
    table.rebound.column? name = (table.column? name).map Column.rebound := by
  simp only [rebound, column?, List.find?_map]
  rfl

theorem rebound_validate (table : Table) (config : Config) :
    table.rebound.validate config = table.validate config := by
  simp [rebound, validate]

theorem rebound_checkUpdate (table : Table) (config : Config) (assignments : List Assignment) :
    table.rebound.checkUpdate config assignments = table.checkUpdate config assignments := by
  have each : table.rebound.evaluateAssignment = table.evaluateAssignment := by
    funext assignment
    simp only [evaluateAssignment, rebound_column?]
    cases table.column? assignment.column <;> rfl
  simp only [checkUpdate, each]

theorem rebound_checkInsert (table : Table) (config : Config) (assignments : List Assignment) :
    table.rebound.checkInsert config assignments = table.checkInsert config assignments := by
  have missing : table.rebound.columns.find? (isMissing assignments) =
      (table.columns.find? (isMissing assignments)).map Column.rebound := by
    simp only [rebound, List.find?_map]
    rfl
  simp only [checkInsert, missing, rebound_checkUpdate]
  cases table.columns.find? (isMissing assignments) <;> rfl

theorem rebound_checkDeletion (table : Table) (name : ColumnName) :
    table.rebound.checkDeletion name = table.checkDeletion name := by
  simp only [checkDeletion, rebound_column?]
  cases table.column? name <;> rfl

theorem rebound_keyColumns (table : Table) (part : KeyPart) :
    table.rebound.keyColumns part = (table.keyColumns part).map Column.rebound := by
  have sorted := List.map_mergeSort (f := Column.rebound)
    (l := table.columns.filter (·.role = .key part))
    (r := fun first second => first.position ≤ second.position)
    (s := fun first second => first.position ≤ second.position) fun _ _ _ _ => rfl
  simp only [keyColumns, rebound, List.filter_map]
  exact sorted.symm

theorem rebound_toCql (table : Table) : table.rebound.toCql = table.toCql := by
  have names : (fun column : Column => column.name.toCql) ∘ Column.rebound =
      fun column => column.name.toCql := rfl
  have lines : (fun column : Column => column.toCql) ∘ Column.rebound =
      fun column => column.toCql := rfl
  have key : table.rebound.primaryKey = table.primaryKey := by
    simp only [primaryKey, rebound_keyColumns, List.map_map, names]
  have columns : table.rebound.columns = table.columns.map Column.rebound := rfl
  unfold toCql
  rw [key, columns, List.map_map, lines, rebound_keyspace, rebound_name]

theorem toSnapshot_eq_ok_iff {version : Version} {table : Table} {snapshot : Snapshot} :
    table.toSnapshot version = .ok snapshot ↔
      ∃ columns, table.columns.mapM (Column.toSnapshot version) = .ok columns ∧
        snapshot = ⟨version.token, table.keyspace, table.name, columns⟩ := by
  simp only [toSnapshot, bind, Except.bind, pure, Except.pure]
  cases table.columns.mapM (Column.toSnapshot version) with
  | error cause => simp
  | ok columns => simp [eq_comm]

theorem ofSnapshot_of_written {table : Table} {version : Version} {snapshot : Snapshot}
    (written : table.toSnapshot version = .ok snapshot) :
    ofSnapshot snapshot =
      if ∀ column ∈ table.columns, column.Shallow then .ok table.rebound
      else .error (.decode (.nestingTooDeep (maxNesting + 1))) := by
  obtain ⟨columns, stored, rfl⟩ := toSnapshot_eq_ok_iff.mp written
  have outcome := mapM_of_recovered_or_refused stored fun column _ image encoded =>
    Column.ofSnapshot_of_written encoded version
  simp only [ofSnapshot, Version.ofToken_token, outcome]
  by_cases shallow : ∀ column ∈ table.columns, column.Shallow
  · simp only [if_pos shallow]
    rfl
  · simp only [if_neg shallow]

/-- A stored table loads again if its constraints do not nest too deeply. It is the same table with
each set of constraints bound to its own column, and it validates, checks and prints the same. -/
theorem reload_of_toSnapshot {table : Table} {version : Version} {snapshot : Snapshot}
    (shallow : ∀ column ∈ table.columns,
      Constraint.nestingEach column.constraints.constraints ≤ 32)
    (written : table.toSnapshot version = .ok snapshot) :
    ∃ reloaded, ofSnapshot snapshot = .ok reloaded ∧
      reloaded = { table with columns := table.columns.map fun column =>
        { column with constraints := ⟨column.name, column.constraints.constraints⟩ } } ∧
      (∀ config, reloaded.validate config = table.validate config) ∧
      (∀ config assignments,
        reloaded.checkInsert config assignments = table.checkInsert config assignments) ∧
      (∀ config assignments,
        reloaded.checkUpdate config assignments = table.checkUpdate config assignments) ∧
      (∀ name, reloaded.checkDeletion name = table.checkDeletion name) ∧
      reloaded.toCql = table.toCql ∧
      ∀ part, reloaded.keyColumns part = (table.keyColumns part).map fun column =>
        { column with constraints := ⟨column.name, column.constraints.constraints⟩ } :=
  ⟨table.rebound, (ofSnapshot_of_written written).trans (if_pos shallow), rfl,
    table.rebound_validate, table.rebound_checkInsert, table.rebound_checkUpdate,
    table.rebound_checkDeletion, table.rebound_toCql, table.rebound_keyColumns⟩

def quotedSample : Table :=
  ⟨"ks", "t", [⟨⟨"Id"⟩, .int, .key .partition, 0, .none ⟨"Id"⟩⟩,
    ⟨⟨"Größe \"x\""⟩, .text, .regular, 7, ⟨⟨"other"⟩, [Constraint.quotedSample]⟩⟩]⟩

theorem reload_of_toSnapshot_sample :
    ∃ snapshot reloaded, quotedSample.toSnapshot .v1 = .ok snapshot ∧
      (∀ column ∈ quotedSample.columns,
        Constraint.nestingEach column.constraints.constraints ≤ 32) ∧
      ofSnapshot snapshot = .ok reloaded ∧ reloaded ≠ quotedSample ∧
      reloaded.toCql = quotedSample.toCql := by
  obtain ⟨snapshot, written⟩ : ∃ snapshot, quotedSample.toSnapshot .v1 = .ok snapshot := ⟨_, rfl⟩
  have shallow : ∀ column ∈ quotedSample.columns,
      Constraint.nestingEach column.constraints.constraints ≤ 32 := by decide
  obtain ⟨reloaded, loaded, same, _, _, _, _, printed, _⟩ := reload_of_toSnapshot shallow written
  refine ⟨snapshot, reloaded, written, shallow, loaded, ?_, printed⟩
  rw [same]
  decide

end Table

end ColumnChecks
