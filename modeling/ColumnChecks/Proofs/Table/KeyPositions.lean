import ColumnChecks.Proofs.Table.Loading
import ColumnChecks.Proofs.Table.Narrowing

/-! Positions of key columns. Whatever builds a table, it adds to the columns of a part of the key
only at the end and with the next position, so they are numbered from zero in the order in which
they are declared. -/

namespace ColumnChecks

def Column.place (column : Column) : ColumnRole × UInt32 :=
  (column.role, column.position)

namespace Table

/-- One step in the making of a table. A stored table is loaded from what the archive reads back,
which is the snapshot that was written. -/
inductive Becomes : Table → Table → Prop
  | withColumn (table : Table) (column : Column) : Becomes table (table.withColumn column)
  | withCheck {table checked : Table} {column clause : String} :
      table.withCheck column clause = .ok checked → Becomes table checked
  | reload {table loaded : Table} {config : Config} {bytes : Bytes} :
      table.persist config = .ok bytes →
      (∀ snapshot, table.toSnapshot config.metadataVersion = .ok snapshot →
        Archive.read? (Archive.write snapshot) = some snapshot) →
      ofBytes bytes = .ok loaded → Becomes table loaded

inductive Built : Table → Prop
  | new (keyspace name : String) : Built (.new keyspace name)
  | step {table next : Table} : Built table → Becomes table next → Built next

variable {table next loaded checked : Table} {part : KeyPart}

def declared (table : Table) (part : KeyPart) : List Column :=
  table.columns.filter (·.role = .key part)

def positions (table : Table) (part : KeyPart) : List UInt32 :=
  (table.declared part).map Column.position

theorem length_positions (table : Table) (part : KeyPart) :
    (table.positions part).length = (table.declared part).length := List.length_map _

theorem positions_of_places (same : next.columns.map Column.place = table.columns.map Column.place)
    (part : KeyPart) : next.positions part = table.positions part := by
  have told (other : Table) : other.positions part =
      ((other.columns.map Column.place).filter (·.1 = .key part)).map Prod.snd := by
    rw [List.filter_map, List.map_map]
    rfl
  rw [told, told, same]

theorem map_place_attach (name : ColumnName) (added : List Constraint) (columns : List Column) :
    (attach name added columns).map Column.place = columns.map Column.place := by
  induction columns with
  | nil => rfl
  | cons column rest ih =>
      by_cases named : column.name = name
      · simp only [attach, named, if_true, List.map_cons]
        rfl
      · simp only [attach, named, if_false, List.map_cons, ih]

theorem positions_of_withCheck {column clause : String}
    (attached : table.withCheck column clause = .ok checked) (part : KeyPart) :
    checked.positions part = table.positions part := by
  obtain ⟨_, set, _, _, rfl⟩ := withCheck_eq_ok_iff.mp attached
  exact positions_of_places (map_place_attach _ _ _) part

theorem positions_rebound (table : Table) (part : KeyPart) :
    table.rebound.positions part = table.positions part := by
  apply positions_of_places
  rw [rebound, List.map_map]
  rfl

theorem eq_rebound_of_ofBytes {config : Config} {bytes : Bytes}
    (persisted : table.persist config = .ok bytes)
    (archived : ∀ snapshot, table.toSnapshot config.metadataVersion = .ok snapshot →
      Archive.read? (Archive.write snapshot) = some snapshot)
    (loads : ofBytes bytes = .ok loaded) : loaded = table.rebound := by
  obtain ⟨_, snapshot, written, rfl⟩ := persist_eq_ok_iff.mp persisted
  rw [ofBytes_write (archived snapshot written), ofSnapshot_of_written written] at loads
  split at loads
  · cases loads
    rfl
  · cases loads

/-- A column joins the part of the key to which it belongs at the end, with the number of columns
before it as its position. -/
theorem positions_withColumn (table : Table) (column : Column) (part : KeyPart) :
    (table.withColumn column).positions part =
      if column.role = .key part then
        table.positions part ++ [UInt32.ofNat (table.positions part).length]
      else table.positions part := by
  by_cases belongs : column.role = .key part
  · have key : column.isKey = true := by rw [Column.isKey, belongs, ColumnRole.isKey]
    simp [positions, declared, withColumn, key, belongs, List.countP_eq_length_filter]
  · simp [positions, declared, withColumn, belongs]

theorem Becomes.positions (step : Becomes table next) (part : KeyPart) :
    next.positions part = table.positions part ∨
      next.positions part =
        table.positions part ++ [UInt32.ofNat (table.positions part).length] := by
  cases step with
  | withColumn column =>
      rw [positions_withColumn]
      by_cases belongs : column.role = .key part
      · exact Or.inr (if_pos belongs)
      · exact Or.inl (if_neg belongs)
  | withCheck attached => exact Or.inl (positions_of_withCheck attached part)
  | reload persisted archived loads =>
      rw [eq_rebound_of_ofBytes persisted archived loads]
      exact Or.inl (positions_rebound table part)

theorem Built.positions_eq (built : table.Built) (part : KeyPart) :
    table.positions part = (List.range (table.declared part).length).map UInt32.ofNat := by
  rw [← length_positions]
  induction built with
  | new => rfl
  | step _ step ih =>
      rcases step.positions part with kept | added
      · rw [kept]
        exact ih
      · rw [added, List.length_append, List.length_singleton, List.range_succ, List.map_append,
          ← ih]
        rfl

theorem length_declared_le (table : Table) (part : KeyPart) :
    (table.declared part).length ≤ table.columns.length :=
  List.length_filter_le _ _

theorem Built.map_position (built : table.Built) (few : table.columns.length < 2 ^ 32)
    (part : KeyPart) :
    (table.declared part).map (·.position.toNat) = List.range (table.declared part).length := by
  -- Fewer columns than a word counts have positions that do not wrap.
  have bound := table.length_declared_le part
  have places := congrArg (List.map UInt32.toNat) (built.positions_eq part)
  rw [Table.positions, List.map_map, List.map_map] at places
  refine places.trans ((List.map_congr_left fun place member => ?_).trans (List.map_id _))
  have small := List.mem_range.mp member
  exact UInt32.toNat_ofNat_of_lt' (by change place < 2 ^ 32; omega)

theorem Built.keyColumns_eq (built : table.Built) (few : table.columns.length < 2 ^ 32)
    (part : KeyPart) : table.keyColumns part = table.declared part := by
  refine List.mergeSort_of_pairwise ?_
  have increasing : ((table.declared part).map (·.position.toNat)).Pairwise (· < ·) := by
    rw [built.map_position few]
    exact List.pairwise_lt_range
  refine (List.pairwise_map.mp increasing).imp fun less => ?_
  exact decide_eq_true (UInt32.le_iff_toNat_le.mpr (Nat.le_of_lt less))

def declaredNames (table : Table) (part : KeyPart) : List String :=
  (table.declared part).map (·.name.toCql)

theorem partitionKey_eq (names : List String) : partitionKey names =
    if names.length = 1 then String.join names else "(" ++ ", ".intercalate names ++ ")" := by
  match names with
  | [] => rfl
  | [name] => exact (String.empty_append).symm
  | _ :: _ :: _ => rfl

theorem Built.primaryKey_eq (built : table.Built) (few : table.columns.length < 2 ^ 32) :
    table.primaryKey =
      (if (table.declared .partition).length = 1 then String.join (table.declaredNames .partition)
        else "(" ++ ", ".intercalate (table.declaredNames .partition) ++ ")") ::
      table.declaredNames .clustering := by
  simp only [primaryKey, built.keyColumns_eq few, partitionKey_eq, declaredNames, List.length_map]

/-- In a table that was built with fewer columns than a word counts, the columns of each part of the
key are numbered from zero in the order of declaration. So they are listed and printed in that
order, each of them once; a partition key that is not a single column stands in parentheses. -/
theorem key_positions_gapless (built : table.Built) (few : table.columns.length < 2 ^ 32) :
    (∀ (part : KeyPart) (place : Nat) (column : Column),
      (table.declared part)[place]? = some column → column.position.toNat = place) ∧
    (∀ part : KeyPart, table.keyColumns part = table.declared part ∧
      (table.keyColumns part).map (·.position.toNat) =
        List.range (table.keyColumns part).length) ∧
    table.toCql = "CREATE TABLE " ++ table.keyspace ++ "." ++ table.name ++ " (\n" ++
      String.join (table.columns.map (·.toCql)) ++ "    PRIMARY KEY (" ++ ", ".intercalate
        ((if (table.declared .partition).length = 1 then
            String.join (table.declaredNames .partition)
          else "(" ++ ", ".intercalate (table.declaredNames .partition) ++ ")") ::
          table.declaredNames .clustering) ++ ")\n)" := by
  refine ⟨?_, ?_, ?_⟩
  · intro part place column found
    have inside : place < (table.declared part).length := (List.getElem?_eq_some_iff.mp found).1
    have numbered : ((table.declared part).map (·.position.toNat))[place]? = some place := by
      rw [built.map_position few, List.getElem?_range inside]
    rw [List.getElem?_map, found] at numbered
    exact Option.some.inj numbered
  · intro part
    rw [built.keyColumns_eq few]
    exact ⟨rfl, built.map_position few part⟩
  · unfold toCql
    rw [built.primaryKey_eq few]

def readings : Table :=
  (((Table.new "lab" "readings").withColumn { Column.new "site" .int (.key .partition) with
    position := 7 }).withColumn { Column.new "Value" .int .regular with
    position := 3 }).withColumn { Column.new "day" .timestamp (.key .clustering) with
    position := 7 }

def checkedReadings : Table :=
  let added := [.scalar ⟨⟨"value"⟩, .atLeast, "0"⟩]
  { readings with columns := attach ⟨"value"⟩ added readings.columns }

def keyedReadings : Table :=
  (checkedReadings.withColumn (Column.new "\"Probe\"" .int (.key .partition))).withColumn
    (Column.new "year" .int (.key .partition))

def storedReadings : Snapshot :=
  ⟨2, "lab", "readings", [⟨"site", .int, .key .partition, 0, [0, 0, 0, 0]⟩,
    ⟨"value", .int, .regular, 3, [0, 0, 0, 1, 0, 0, 0, 2, 0, 5] ++ Text.utf8 "value" ++
      [0, 0, 0, 1, 0, 1, 48]⟩,
    ⟨"day", .timestamp, .key .clustering, 0, [0, 0, 0, 0]⟩]⟩

theorem becomes_checkedReadings : checkedReadings.Becomes checkedReadings := by
  have written : checkedReadings.toSnapshot .v2 = .ok storedReadings := by decide +kernel
  have archived : Archive.read? (Archive.write storedReadings) = some storedReadings := by
    decide +kernel
  have valid : checkedReadings.validate {} = .ok () := by decide +kernel
  refine .reload (persist_eq_ok_iff.mpr ⟨valid, _, written, rfl⟩) (fun snapshot same => ?_) ?_
  · cases written.symm.trans same
    exact archived
  · rw [ofBytes_write archived, ofSnapshot_of_written written]
    decide +kernel

theorem built_readings : readings.Built :=
  (((Built.new "lab" "readings").step (.withColumn _ _)).step (.withColumn _ _)).step
    (.withColumn _ _)

theorem built_keyedReadings : keyedReadings.Built := by
  have checked : readings.withCheck "value" "value >= 0" = .ok checkedReadings := by
    decide +kernel
  exact (((built_readings.step (.withCheck checked)).step becomes_checkedReadings).step
    (.withColumn _ _)).step (.withColumn _ _)

theorem key_positions_gapless_readings :
    readings.Built ∧ readings.columns.length = 3 ∧
      readings.toCql = "CREATE TABLE lab.readings (\n    site int,\n    value int,\n" ++
        "    day timestamp,\n    PRIMARY KEY (site, day)\n)" ∧
      keyedReadings.Built ∧ keyedReadings.columns.length = 5 ∧
      (keyedReadings.keyColumns .partition).map (·.position.toNat) = [0, 1, 2] ∧
      (keyedReadings.keyColumns .clustering).map (·.name) = [⟨"day"⟩] ∧
      keyedReadings.toCql = "CREATE TABLE lab.readings (\n    site int,\n" ++
        "    value int CHECK value >= 0,\n    day timestamp,\n    \"Probe\" int,\n" ++
        "    year int,\n    PRIMARY KEY ((site, \"Probe\", year), day)\n)" := by
  obtain ⟨_, _, single⟩ := key_positions_gapless built_readings (by decide)
  obtain ⟨_, listed, printed⟩ := key_positions_gapless built_keyedReadings (by decide)
  refine ⟨built_readings, rfl, ?_, built_keyedReadings, rfl, ?_, ?_, ?_⟩
  · rw [single]
    decide +kernel
  · rw [(listed .partition).2, (listed .partition).1]
    rfl
  · rw [(listed .clustering).1]
    rfl
  · rw [printed]
    decide +kernel

end Table

end ColumnChecks
