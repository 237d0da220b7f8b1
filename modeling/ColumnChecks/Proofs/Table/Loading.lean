import ColumnChecks.Proofs.Constraint.SelfDelimiting
import ColumnChecks.Proofs.Table.Reload
import ColumnChecks.Table.Storage

/-! Which stored tables load. A table that was stored loads again unless some column nests its
constraints more deeply than is read. Loading looks at the counted constraints of each column and
at nothing that follows them. -/

namespace ColumnChecks

theorem exists_mapM_eq_ok {ε α β : Type} {write : α → Except ε β} {values : List α}
    (each : ∀ value ∈ values, ∃ result, write value = .ok result) :
    ∃ results, values.mapM write = .ok results := by
  induction values with
  | nil => exact ⟨[], rfl⟩
  | cons first rest ih =>
      simp only [List.forall_mem_cons] at each
      obtain ⟨⟨result, wrote⟩, others⟩ := each
      obtain ⟨results, wroteRest⟩ := ih others
      refine ⟨result :: results, mapM_eq_ok_iff_forall₂.mpr (.cons wrote ?_)⟩
      exact mapM_eq_ok_iff_forall₂.mp wroteRest

namespace Constraint

theorem decodeList_eq_ok_iff {version : Version} {stored : Bytes}
    {constraints : List Constraint} :
    decodeList version stored = .ok constraints ↔
      ∃ unread, readList version stored = .ok constraints unread := by
  simp only [decodeList, EStateM.run]
  cases readList version stored with
  | ok found unread => simp
  | error cause left => simp

end Constraint

namespace Column

theorem ofSnapshot_eq_ok_iff {version : Version} {snapshot : ColumnSnapshot} {column : Column} :
    ofSnapshot version snapshot = .ok column ↔
      ∃ constraints, Constraint.decodeList version snapshot.constraints = .ok constraints ∧
        column = ⟨.ofCql snapshot.name, snapshot.type, snapshot.role, snapshot.position,
          ⟨.ofCql snapshot.name, constraints⟩⟩ := by
  simp only [ofSnapshot, bind, Except.bind, pure, Except.pure]
  cases Constraint.decodeList version snapshot.constraints with
  | error cause => simp
  | ok constraints => simp [eq_comm]

theorem reads_of_ofSnapshot {version : Version} {snapshot : ColumnSnapshot} {column : Column}
    (loaded : ofSnapshot version snapshot = .ok column) :
    ∃ used unread, snapshot.constraints = used ++ unread ∧
      Reader.Reads (Constraint.readList version) used column.constraints.constraints := by
  obtain ⟨constraints, decoded, rfl⟩ := ofSnapshot_eq_ok_iff.mp loaded
  obtain ⟨unread, read⟩ := Constraint.decodeList_eq_ok_iff.mp decoded
  obtain ⟨used, whole, reads, _⟩ := (Constraint.delimited_readList version).accepts read
  exact ⟨used, unread, whole, reads⟩

theorem ofSnapshot_append {version : Version} {snapshot : ColumnSnapshot} {column : Column}
    (loaded : ofSnapshot version snapshot = .ok column) (trailing : Bytes) :
    ofSnapshot version { snapshot with constraints := snapshot.constraints ++ trailing } =
      .ok column := by
  obtain ⟨used, unread, whole, reads⟩ := reads_of_ofSnapshot loaded
  obtain ⟨constraints, _, rfl⟩ := ofSnapshot_eq_ok_iff.mp loaded
  refine ofSnapshot_eq_ok_iff.mpr ⟨constraints, ?_, rfl⟩
  refine Constraint.decodeList_eq_ok_iff.mpr ⟨unread ++ trailing, ?_⟩
  rw [whole, List.append_assoc]
  exact reads (unread ++ trailing)

end Column

namespace Table

theorem ofSnapshot_eq_ok_iff {snapshot : Snapshot} {table : Table} :
    ofSnapshot snapshot = .ok table ↔
      ∃ version columns, Version.ofToken snapshot.version = .ok version ∧
        snapshot.columns.mapM (Column.ofSnapshot version) = .ok columns ∧
        table = ⟨snapshot.keyspace, snapshot.name, columns⟩ := by
  unfold ofSnapshot
  cases Version.ofToken snapshot.version with
  | error cause => simp
  | ok version =>
      cases loaded : snapshot.columns.mapM (Column.ofSnapshot version) with
      | error cause => simp [loaded]
      | ok columns => simp [loaded, eq_comm]

theorem persist_eq_ok_iff {config : Config} {table : Table} {bytes : Bytes} :
    table.persist config = .ok bytes ↔
      table.validate config = .ok () ∧ ∃ snapshot,
        table.toSnapshot config.metadataVersion = .ok snapshot ∧
        bytes = Archive.write snapshot := by
  unfold persist toBytes
  cases table.validate config with
  | error cause => simp
  | ok =>
      cases table.toSnapshot config.metadataVersion with
      | error cause => simp
      | ok snapshot => simp [eq_comm]

theorem ofBytes_write {snapshot : Snapshot}
    (archived : Archive.read? (Archive.write snapshot) = some snapshot) :
    ofBytes (Archive.write snapshot) = (ofSnapshot snapshot).mapError SchemaError.ofSnapshot := by
  simp only [ofBytes, archived]

/-- A table that could be persisted loads again, as far as archives read back, if and only if no
column has more than 32 composed constraints that enclose one another. -/
theorem ofBytes_of_persist {config : Config} {table : Table} {bytes : Bytes}
    (persisted : table.persist config = .ok bytes)
    (archived : ∀ snapshot, table.toSnapshot config.metadataVersion = .ok snapshot →
      Archive.read? (Archive.write snapshot) = some snapshot) :
    ofBytes bytes =
      if ∀ column ∈ table.columns,
        Constraint.nestingEach column.constraints.constraints ≤ 32 then .ok table.rebound
      else .error (.decode (.nestingTooDeep 33)) := by
  obtain ⟨_, snapshot, written, rfl⟩ := persist_eq_ok_iff.mp persisted
  rw [ofBytes_write (archived snapshot written), ofSnapshot_of_written written,
    apply_ite (Except.mapError SchemaError.ofSnapshot)]
  rfl

def nestedSample : Table :=
  (Table.new "ks" "t").withColumn { Column.new "v" .int .regular with
    constraints := ⟨⟨"v"⟩, [.composed ⟨"v"⟩ [.unary ⟨.notNull, ⟨"v"⟩⟩]]⟩ }

theorem ofBytes_of_persist_sample :
    ∃ bytes, nestedSample.persist {} = .ok bytes ∧ ofBytes bytes = .ok nestedSample.rebound := by
  have written : nestedSample.toSnapshot .current = .ok ⟨2, "ks", "t", [⟨"v", .int, .regular, 0,
      [0, 0, 0, 1, 0, 0, 0, 0, 0, 1, 118, 0, 0, 0, 1, 0, 0, 0, 3, 0, 1, 118, 0, 8] ++
        Text.utf8 "NOT_NULL"⟩]⟩ := by decide +kernel
  have persisted := persist_eq_ok_iff.mpr ⟨(by decide : nestedSample.validate {} = .ok ()),
    _, written, rfl⟩
  refine ⟨_, persisted, ?_⟩
  rw [ofBytes_of_persist persisted fun snapshot same => ?_]
  · decide
  · cases written.symm.trans same
    decide +kernel

def deepSample : Table :=
  (Table.new "ks" "t").withColumn { Column.new "v" .int .regular with
    constraints := ⟨⟨"v"⟩, [Constraint.tower ⟨"v"⟩ 32]⟩ }

theorem ofBytes_persist_deepSample :
    ∃ snapshot, deepSample.persist {} = .ok (Archive.write snapshot) ∧
      ofSnapshot snapshot = .error (.decode (.nestingTooDeep 33)) ∧
      (Archive.read? (Archive.write snapshot) = some snapshot →
        ofBytes (Archive.write snapshot) = .error (.decode (.nestingTooDeep 33))) := by
  obtain ⟨snapshot, written⟩ : ∃ snapshot, deepSample.toSnapshot .current = .ok snapshot :=
    ⟨_, rfl⟩
  have deep : ¬∀ column ∈ deepSample.columns, column.Shallow := by decide +kernel
  have refused := ofSnapshot_of_written written
  rw [if_neg deep] at refused
  have persisted := persist_eq_ok_iff.mpr ⟨(by decide +kernel : deepSample.validate {} = .ok ()),
    snapshot, written, rfl⟩
  refine ⟨snapshot, persisted, refused, fun archived => ?_⟩
  rw [ofBytes_write archived, refused]
  rfl

/-- A table loads from the counted constraints at the front of what each column stores. What
follows them is never read, so any other bytes there load the same table. -/
theorem ofSnapshot_ignores_trailing {snapshot : Snapshot} {table : Table}
    (loaded : ofSnapshot snapshot = .ok table) :
    (∃ version, Version.ofToken snapshot.version = .ok version ∧
      List.Forall₂ (fun stored column => ∃ used unread, stored.constraints = used ++ unread ∧
        ∀ trailing, Constraint.readList version (used ++ trailing) =
          .ok column.constraints.constraints trailing) snapshot.columns table.columns) ∧
    ∀ trailing : ColumnSnapshot → Bytes,
      ofSnapshot { snapshot with columns := snapshot.columns.map fun stored =>
        { stored with constraints := stored.constraints ++ trailing stored } } = .ok table := by
  obtain ⟨version, columns, known, read, rfl⟩ := ofSnapshot_eq_ok_iff.mp loaded
  have each := mapM_eq_ok_iff_forall₂.mp read
  constructor
  · exact ⟨version, known, each.imp fun _ _ => Column.reads_of_ofSnapshot⟩
  · intro trailing
    refine ofSnapshot_eq_ok_iff.mpr ⟨version, columns, known, ?_, rfl⟩
    refine mapM_eq_ok_iff_forall₂.mpr (List.forall₂_map_left_iff.mpr ?_)
    exact each.imp fun stored _ found => Column.ofSnapshot_append found (trailing stored)

def countedSample (count : UInt8) : Snapshot :=
  ⟨2, "ks", "t", [⟨"v", .int, .regular, 0,
    [0, 0, 0, count] ++ [0, 0, 0, 2, 0, 1, 118, 0, 0, 0, 2, 0, 1, 53]⟩]⟩

theorem ofSnapshot_ignores_trailing_sample :
    ofSnapshot (countedSample 1) = .ok ((Table.new "ks" "t").withColumn
        { Column.new "v" .int .regular with
          constraints := ⟨⟨"v"⟩, [.scalar ⟨⟨"v"⟩, .greater, "5"⟩]⟩ }) ∧
      ofSnapshot { countedSample 1 with columns := (countedSample 1).columns.map fun stored =>
          { stored with constraints := stored.constraints ++ [9, 9] } } =
        ofSnapshot (countedSample 1) := by
  have loaded : ofSnapshot (countedSample 1) = .ok ((Table.new "ks" "t").withColumn
      { Column.new "v" .int .regular with
        constraints := ⟨⟨"v"⟩, [.scalar ⟨⟨"v"⟩, .greater, "5"⟩]⟩ }) := by decide +kernel
  exact ⟨loaded, ((ofSnapshot_ignores_trailing loaded).2 fun _ => [9, 9]).trans loaded.symm⟩

theorem ofSnapshot_countedSample_zero :
    ofSnapshot (countedSample 0) =
        .ok ((Table.new "ks" "t").withColumn (Column.new "v" .int .regular)) ∧
      ∀ stored ∈ (countedSample 0).columns, Constraint.readList .v2 stored.constraints =
        .ok [] [0, 0, 0, 2, 0, 1, 118, 0, 0, 0, 2, 0, 1, 53] := by
  refine ⟨by decide +kernel, ?_⟩
  intro stored member
  rw [List.mem_singleton.mp member]
  rfl

end Table

end ColumnChecks
