import ColumnChecks.Proofs.Constraint.Checks
import ColumnChecks.Proofs.Constraint.Nesting
import ColumnChecks.Proofs.Table.Loading

/-! What loading returns, from whatever bytes, can be stored and loaded again without a change:
constraints nest no more deeply than is read, and each set of them is bound to its own column. -/

namespace ColumnChecks

namespace Column

structure Settled (column : Column) : Prop where
  shallow : column.Shallow
  bound : column.rebound = column

theorem settled_of_ofSnapshot {version : Version} {snapshot : ColumnSnapshot} {column : Column}
    (loaded : ofSnapshot version snapshot = .ok column) : column.Settled := by
  obtain ⟨constraints, decoded, rfl⟩ := ofSnapshot_eq_ok_iff.mp loaded
  obtain ⟨unread, read⟩ := Constraint.decodeList_eq_ok_iff.mp decoded
  exact ⟨Constraint.nestingEach_of_readList read, rfl⟩

end Column

namespace Table

theorem settled_of_ofSnapshot {stored : Snapshot} {table : Table}
    (loaded : ofSnapshot stored = .ok table) : ∀ column ∈ table.columns, column.Settled := by
  obtain ⟨version, columns, _, read, rfl⟩ := ofSnapshot_eq_ok_iff.mp loaded
  exact forall_of_forall₂ (mapM_eq_ok_iff_forall₂.mp read)
    (fun _ _ found (_ : True) => Column.settled_of_ofSnapshot found) fun _ _ => trivial

theorem rebound_of_settled {table : Table} (settled : ∀ column ∈ table.columns, column.Settled) :
    table.rebound = table := by
  have kept : table.columns.map Column.rebound = table.columns.map id :=
    List.map_congr_left fun column member => (settled column member).bound
  simp only [rebound, kept, List.map_id]

/-- A table that loads, whether or not this library wrote what it loads from, comes back as it is
once it is stored, in any version, and is then stored as the same snapshot again. -/
theorem reload_eq_of_ofSnapshot {stored written : Snapshot} {table : Table} {version : Version}
    (loaded : ofSnapshot stored = .ok table) (stores : table.toSnapshot version = .ok written) :
    ∃ reloaded, ofSnapshot written = .ok reloaded ∧ reloaded = table ∧
      reloaded.toSnapshot version = .ok written := by
  have settled := settled_of_ofSnapshot loaded
  have back := ofSnapshot_of_written stores
  rw [if_pos fun column member => (settled column member).shallow, rebound_of_settled settled]
    at back
  exact ⟨table, back, rfl, stores⟩

/-- A column stored in a form that is never written: names in capitals without quotes, the function
in small letters, and two bytes after the constraints. -/
def looseSample : Snapshot :=
  ⟨0, "ks", "t", [⟨"Amount", .int, .regular, 9,
    [0, 0, 0, 1, 0, 0, 0, 0, 0, 1, 86, 0, 0, 0, 2] ++
      [0, 0, 0, 3, 0, 6] ++ Text.utf8 "AMOUNT" ++ [0, 8] ++ Text.utf8 "not_null" ++
      [0, 0, 0, 2, 0, 3] ++ Text.utf8 "\"V\"" ++ [0, 0, 0, 4, 0, 1, 53] ++ [9, 9]⟩]⟩

def looseTable : Table :=
  ⟨"ks", "t", [⟨⟨"amount"⟩, .int, .regular, 9, ⟨⟨"amount"⟩, [.composed ⟨"v"⟩
    [.unary ⟨.notNull, ⟨"amount"⟩⟩, .scalar ⟨⟨"V"⟩, .less, "5"⟩]]⟩⟩]⟩

theorem reload_eq_of_ofSnapshot_loose :
    ofSnapshot looseSample = .ok looseTable ∧
      ∃ written, looseTable.toSnapshot .v0 = .ok written ∧ written ≠ looseSample ∧
        ofSnapshot written = .ok looseTable := by
  have loaded : ofSnapshot looseSample = .ok looseTable := by decide +kernel
  obtain ⟨written, stores⟩ : ∃ written, looseTable.toSnapshot .v0 = .ok written := ⟨_, rfl⟩
  obtain ⟨_, back, rfl, _⟩ := reload_eq_of_ofSnapshot loaded stores
  refine ⟨loaded, written, stores, ?_, back⟩
  rintro rfl
  exact absurd stores (by decide +kernel)

end Table

end ColumnChecks
