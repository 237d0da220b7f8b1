import ColumnChecks.Proofs.Clause.Continued
import ColumnChecks.Proofs.Clause.Rendering
import ColumnChecks.Proofs.Table.Narrowing

/-! Two clauses joined by `AND` state what both state, so attaching them together is the same as
attaching one after the other. Nothing else in the table changes. -/

namespace ColumnChecks

namespace Clause

theorem DerivesClause.append {first second : List Token} {word : String}
    {phrases more : List Phrase} (derived : DerivesClause first phrases)
    (joins : Spells word "AND") (derivedSecond : DerivesClause second more) :
    DerivesClause (first ++ .identifier word :: second) (phrases ++ more) := by
  induction derived with
  | single derived => exact .conjoined derived joins derivedSecond
  | conjoined derived joins' _ ih =>
      rw [List.append_assoc, List.cons_append]
      exact .conjoined derived joins' ih

theorem States.append {declaring : ColumnName} {first second : List Char}
    {constraints more : List Constraint} (stated : States declaring first constraints)
    (statedSecond : States declaring second more) :
    States declaring (first ++ ' ' :: 'A' :: 'N' :: 'D' :: ' ' :: second)
      (constraints ++ more) := by
  obtain ⟨tokens, phrases, lexes, derived, meaning⟩ := stated
  obtain ⟨others, morePhrases, lexesSecond, derivedSecond, moreMeaning⟩ := statedSecond
  have joined := lexes_and_iff.mpr ⟨others, rfl, lexesSecond⟩
  exact ⟨_, phrases ++ morePhrases, lexes.append (breaks_blank _) joined,
    derived.append (by decide) derivedSecond, List.rel_append meaning moreMeaning⟩

theorem parse_and {declaring : ColumnName} {first second : String} {set more : ConstraintSet}
    (read : parse declaring first = .ok set) (readSecond : parse declaring second = .ok more) :
    parse declaring (first ++ " AND " ++ second) =
      .ok ⟨declaring, set.constraints ++ more.constraints⟩ := by
  obtain ⟨_, constraints⟩ := set
  obtain ⟨_, others⟩ := more
  obtain rfl := column_of_parse read
  obtain rfl := column_of_parse readSecond
  have stated := (parse_eq_ok_iff_states.mp read).append (parse_eq_ok_iff_states.mp readSecond)
  rw [parse_eq_ok_iff_states]
  simpa using stated

end Clause

namespace Table

theorem attach_attach (name : ColumnName) (first second : List Constraint)
    (columns : List Column) :
    attach name second (attach name first columns) = attach name (first ++ second) columns := by
  induction columns with
  | nil => rfl
  | cons column rest ih =>
      by_cases named : column.name = name
      · simp [attach, named]
      · simp [attach, named, ih]

theorem attach_append {name : ColumnName} {earlier : List Column}
    (others : ∀ other ∈ earlier, other.name ≠ name) (added : List Constraint)
    (columns : List Column) :
    attach name added (earlier ++ columns) = earlier ++ attach name added columns := by
  induction earlier with
  | nil => rfl
  | cons first rest ih =>
      simp only [List.forall_mem_cons] at others
      simp [attach, others.1, ih others.2]

/-- Attaching two clauses to a column, one after the other or joined, gives one and the same table:
behind the constraints of the first column of that name stand those of the first clause and then
those of the second, and all else is as it was. -/
theorem withCheck_and {table : Table} {column first second : String} {target : Column}
    {set more : ConstraintSet} (found : table.column? (.ofCql column) = some target)
    (read : Clause.parse (.ofCql column) first = .ok set)
    (readSecond : Clause.parse (.ofCql column) second = .ok more) :
    ∃ once checked earlier later, table.withCheck column first = .ok once ∧
      once.withCheck column second = .ok checked ∧
      table.withCheck column (first ++ " AND " ++ second) = .ok checked ∧
      table.columns = earlier ++ target :: later ∧
      (∀ other ∈ earlier, other.name ≠ .ofCql column) ∧
      checked = { table with columns := earlier ++ { target with constraints :=
        ⟨.ofCql column, target.constraints.constraints ++ set.constraints ++ more.constraints⟩ } ::
          later } := by
  obtain ⟨named, earlier, later, whole, differ⟩ := List.find?_eq_some_iff_append.mp found
  have own : target.name = .ofCql column := by simpa using named
  have others : ∀ other ∈ earlier, other.name ≠ .ofCql column := by simpa using differ
  refine ⟨_, _, earlier, later, withCheck_eq_ok_iff.mpr ⟨target, set, found, read, rfl⟩,
    withCheck_eq_ok_iff.mpr ⟨_, more, find?_attach found, readSecond, rfl⟩,
    withCheck_eq_ok_iff.mpr ⟨target, _, found, Clause.parse_and read readSecond, ?_⟩,
    whole, others, ?_⟩
  · simp only [attach_attach]
  · simp [whole, attach_append others, attach, own]

def note : Column :=
  ⟨⟨"note"⟩, .text, .regular, 0, .none ⟨"note"⟩⟩

theorem withCheck_and_account :
    account.column? (.ofCql "Note") = some note ∧
      Clause.parse (.ofCql "Note") "LENGTH(note) < 'it''s'" =
        .ok ⟨⟨"note"⟩, [.function ⟨.length, ⟨"note"⟩, .less, "it's"⟩]⟩ ∧
      Clause.parse (.ofCql "Note") "not_null(note)" =
        .ok ⟨⟨"note"⟩, [.unary ⟨.notNull, ⟨"note"⟩⟩]⟩ ∧
      ∃ once checked, account.withCheck "Note" "LENGTH(note) < 'it''s'" = .ok once ∧
        once.withCheck "Note" "not_null(note)" = .ok checked ∧
        account.withCheck "Note" "LENGTH(note) < 'it''s' AND not_null(note)" = .ok checked := by
  have found : account.column? (.ofCql "Note") = some note := by decide +kernel
  have read : Clause.parse (.ofCql "Note") "LENGTH(note) < 'it''s'" =
      .ok ⟨⟨"note"⟩, [.function ⟨.length, ⟨"note"⟩, .less, "it's"⟩]⟩ := by decide +kernel
  have readSecond : Clause.parse (.ofCql "Note") "not_null(note)" =
      .ok ⟨⟨"note"⟩, [.unary ⟨.notNull, ⟨"note"⟩⟩]⟩ := by decide +kernel
  obtain ⟨once, checked, _, _, first, second, joined, _⟩ := withCheck_and found read readSecond
  exact ⟨found, read, readSecond, once, checked, first, second, joined⟩

end Table

end ColumnChecks
