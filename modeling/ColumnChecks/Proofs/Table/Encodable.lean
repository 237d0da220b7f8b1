import ColumnChecks.Proofs.Constraint.Limits
import ColumnChecks.Proofs.Constraint.Text
import ColumnChecks.Proofs.Table.Admission
import ColumnChecks.Proofs.Table.Loading

/-! Valid tables can be stored. Validation counts the characters of terms and storing counts their
bytes, of which a character has at most four, so a limit of 16383 characters leaves no term too long
to be stored. -/

namespace ColumnChecks

theorem Text.isOverlong_of_length_le {text : String} (short : text.length ≤ 16383) :
    Text.isOverlong text = false := by
  have bytes := Text.length_utf8_le text
  rw [Text.isOverlong_eq_false_iff]
  omega

theorem Writer.text_eq_ok {content : String} (fits : Text.isOverlong content = false)
    (before : Output) : ∃ after, Writer.text content before = .ok () after := by
  have short : (Text.utf8 content).length ≤ Writer.longestText :=
    Text.isOverlong_eq_false_iff.mp fits
  simp only [Writer.text, if_pos short]
  exact ⟨_, rfl⟩

namespace Constraint

mutual

def columns : Constraint → List ColumnName
  | composed column children => column :: eachColumns children
  | function comparison => [comparison.column]
  | scalar comparison => [comparison.column]
  | unary application => [application.column]

def eachColumns : List Constraint → List ColumnName
  | [] => []
  | first :: rest => first.columns ++ eachColumns rest

end

theorem mem_eachColumns {constraints : List Constraint} {name : ColumnName} :
    name ∈ eachColumns constraints ↔ ∃ constraint ∈ constraints, name ∈ constraint.columns := by
  induction constraints with
  | nil => simp [eachColumns]
  | cons first rest ih => simp [eachColumns, ih]

inductive IsText (constraint : Constraint) : String → Prop
  | column {name : ColumnName} : name ∈ constraint.columns → IsText constraint name.toCql
  | term {leaf : Constraint} {term : String} : leaf ∈ constraint.leaves → leaf.term? = some term →
      IsText constraint term

theorem isText_of_mem_texts {constraint : Constraint} {text : String}
    (member : text ∈ constraint.texts) : IsText constraint text := by
  induction constraint with
  | composed column children ih =>
      simp only [texts, List.mem_cons, mem_eachTexts] at member
      rcases member with rfl | ⟨child, inside, below⟩
      · exact .column (by simp [columns])
      · cases ih child inside below with
        | column named =>
            exact .column (List.mem_cons_of_mem _ (mem_eachColumns.mpr ⟨child, inside, named⟩))
        | term leaf found => exact .term (mem_eachLeaves.mpr ⟨child, inside, leaf⟩) found
  | function comparison =>
      simp only [texts, MeasureComparison.texts, List.mem_cons, List.not_mem_nil,
        or_false] at member
      rcases member with rfl | rfl
      · exact .column (by simp [columns])
      · exact .term List.mem_cons_self rfl
  | scalar comparison =>
      simp only [texts, Comparison.texts, List.mem_cons, List.not_mem_nil, or_false] at member
      rcases member with rfl | rfl
      · exact .column (by simp [columns])
      · exact .term List.mem_cons_self rfl
  | unary application =>
      simp only [texts, Application.texts, List.mem_cons, List.not_mem_nil, or_false] at member
      subst member
      exact .column (by simp [columns])

theorem Admissible.length_le {maxTermLength : Nat} {column : Column} {leaf : Constraint}
    {term : String} (admissible : Admissible maxTermLength column leaf)
    (found : leaf.term? = some term) : term.length ≤ maxTermLength := by
  cases admissible with
  | scalar _ short =>
      cases found
      exact short
  | function _ _ _ short =>
      cases found
      exact short
  | unary => cases found

theorem exists_encodeList_iff (version : Version) {constraints : List Constraint} :
    (∃ stored, encodeList version constraints = .ok stored) ↔
      ∀ field ∈ listFields constraints, field.Fits := by
  have written : (∃ after, writeList version constraints .empty = .ok () after) ↔
      ∀ field ∈ listFields constraints, field.Fits := by
    simp [writeList_eq, Field.writeAll_eq_ok_iff]
  rw [← written]
  simp only [encodeList, EStateM.run]
  cases writeList version constraints .empty <;> simp

end Constraint

/-- The lists of constraints of the column are short enough to be counted, and the columns that they
name are short enough to be stored. -/
structure Column.Compact (column : Column) : Prop where
  narrow : Constraint.listBreadth column.constraints.constraints ≤ 2147483647
  named : ∀ name ∈ Constraint.eachColumns column.constraints.constraints,
    (Text.utf8 name.toCql).length ≤ 65535

theorem Column.Compact.listBreadth_lt {column : Column} (compact : column.Compact) :
    Constraint.listBreadth column.constraints.constraints < 2 ^ 31 :=
  Nat.lt_succ_of_le compact.narrow

theorem Column.exists_toSnapshot {maxTermLength : Nat} {column : Column}
    (limited : maxTermLength ≤ 16383) (compact : column.Compact)
    (admits : column.Admits maxTermLength) (version : Version) :
    ∃ snapshot, column.toSnapshot version = .ok snapshot := by
  have short : ∀ text ∈ Constraint.eachTexts column.constraints.constraints,
      (Text.utf8 text).length ≤ 65535 := by
    intro text member
    obtain ⟨constraint, inside, below⟩ := Constraint.mem_eachTexts.mp member
    cases Constraint.isText_of_mem_texts below with
    | column named =>
        exact compact.named _ (Constraint.mem_eachColumns.mpr ⟨constraint, inside, named⟩)
    | term leaf found =>
        have member := Constraint.mem_eachLeaves.mpr ⟨constraint, inside, leaf⟩
        have length := (admits _ member).length_le found
        exact Text.isOverlong_eq_false_iff.mp (Text.isOverlong_of_length_le (by omega))
  have fits := (Constraint.fits_listFields_iff compact.listBreadth_lt).mpr short
  obtain ⟨stored, encoded⟩ := (Constraint.exists_encodeList_iff version).mpr fits
  exact ⟨_, toSnapshot_eq_ok_iff.mpr ⟨stored, encoded, rfl⟩⟩

namespace Table

/-- With a limit of at most 16383 characters for terms, a valid table can be stored in every
version, so persisting it fails only for what validation refuses. -/
theorem encodable_of_validate (config : Config) (table : Table)
    (limited : config.maxTermLength ≤ 16383)
    (compact : ∀ column ∈ table.columns, column.Compact) :
    (table.validate config = .ok () →
      ∀ version, ∃ snapshot, table.toSnapshot version = .ok snapshot) ∧
    (∀ error, table.persist config = .error error →
      ∃ cause, error = .definition cause ∧ table.validate config = .error cause) ∧
    ∀ name term, checkTermLength config.maxTermLength name term = .ok () →
      ∀ before, ∃ after, Writer.text term before = .ok () after := by
  have stores : table.validate config = .ok () →
      ∀ version, ∃ snapshot, table.toSnapshot version = .ok snapshot := by
    intro valid version
    have admits := validate_eq_ok_iff.mp valid
    obtain ⟨columns, stored⟩ := exists_mapM_eq_ok fun column member =>
      Column.exists_toSnapshot limited (compact column member) (admits column member) version
    exact ⟨_, toSnapshot_eq_ok_iff.mpr ⟨columns, stored, rfl⟩⟩
  refine ⟨stores, ?_, ?_⟩
  · intro error failed
    cases outcome : table.validate config with
    | ok =>
        obtain ⟨snapshot, stored⟩ := stores outcome config.metadataVersion
        simp [persist, toBytes, outcome, stored] at failed
    | error cause =>
        simp only [persist, outcome, Except.error.injEq] at failed
        exact ⟨cause, failed.symm, rfl⟩
  · intro name term passed before
    have length := Constraint.checkTermLength_eq_ok_iff.mp passed
    exact Writer.text_eq_ok (Text.isOverlong_of_length_le (by omega)) before

def broadSample (length : Nat) : Table :=
  ⟨"ks", "t", [⟨⟨"v"⟩, .int, .regular, 0, ⟨⟨"v"⟩, [.composed ⟨"V"⟩
    [.scalar ⟨⟨"v"⟩, .less, String.ofList (List.replicate length '𝄞')⟩]]⟩⟩]⟩

theorem validate_broadSample (length : Nat) :
    (broadSample length).validate ⟨true, .current, length⟩ = .ok () := by
  rw [validate_eq_ok_iff]
  intro column member leaf below
  rw [broadSample, List.mem_singleton] at member
  subst member
  simp only [Column.leaves, Constraint.eachLeaves, Constraint.leaves, List.append_nil,
    List.mem_singleton] at below
  subst below
  exact .scalar rfl (by simp)

theorem compact_of_mem_broadSample {length : Nat} {column : Column}
    (member : column ∈ (broadSample length).columns) : column.Compact := by
  rw [broadSample, List.mem_singleton] at member
  subst member
  constructor
  · simp [Constraint.listBreadth, Constraint.breadthEach, Constraint.breadth]
  · simp only [Constraint.eachColumns, Constraint.columns, List.append_nil]
    decide

theorem length_le_of_toSnapshot_broadSample {version : Version} {length : Nat}
    {snapshot : Snapshot} (stored : (broadSample length).toSnapshot version = .ok snapshot) :
    4 * length ≤ 65535 := by
  obtain ⟨columns, each, _⟩ := toSnapshot_eq_ok_iff.mp stored
  obtain ⟨image, _, written, _⟩ :=
    List.forall₂_cons_left_iff.mp (mapM_eq_ok_iff_forall₂.mp each)
  obtain ⟨bytes, encoded, _⟩ := Column.toSnapshot_eq_ok_iff.mp written
  have compact := @compact_of_mem_broadSample length _ List.mem_cons_self
  have fits := (Constraint.exists_encodeList_iff version).mp ⟨bytes, encoded⟩
  have short := (Constraint.fits_listFields_iff compact.listBreadth_lt).mp fits
    (String.ofList (List.replicate length '𝄞'))
    (by simp [Constraint.eachTexts, Constraint.texts, Comparison.texts])
  have size : '𝄞'.utf8Size = 4 := by decide
  rw [Text.length_utf8_ofList, Text.byteLength_replicate, size] at short
  omega

/-- The limit cannot be larger: with one character more, a valid table cannot be stored. -/
theorem encodable_of_validate_broad :
    (broadSample 16383).validate ⟨true, .current, 16383⟩ = .ok () ∧
      (∃ snapshot, (broadSample 16383).toSnapshot .v0 = .ok snapshot) ∧
      (∀ error, (broadSample 16383).persist ⟨true, .current, 16383⟩ ≠ .error error) ∧
      (broadSample 16384).validate ⟨true, .current, 16384⟩ = .ok () ∧
      ∀ snapshot, (broadSample 16384).toSnapshot .v0 ≠ .ok snapshot := by
  have valid := validate_broadSample 16383
  have encodable := encodable_of_validate ⟨true, .current, 16383⟩ (broadSample 16383) (by decide)
    fun column member => compact_of_mem_broadSample member
  refine ⟨valid, encodable.1 valid .v0, ?_, validate_broadSample 16384, ?_⟩
  · intro error failed
    obtain ⟨cause, _, refused⟩ := encodable.2.1 error failed
    rw [valid] at refused
    cases refused
  · intro snapshot stored
    have length := length_le_of_toSnapshot_broadSample stored
    omega

end Table

end ColumnChecks
