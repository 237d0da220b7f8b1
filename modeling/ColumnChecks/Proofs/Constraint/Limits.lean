import ColumnChecks.Proofs.Constraint.Fields

/-!
What limits the stored form of constraints. A list of constraints is written exactly if none of its
texts is overlong, in as many bytes as its size says, and otherwise up to the first overlong text.
-/

namespace ColumnChecks

def Text.isOverlong (text : String) : Bool :=
  Writer.longestText < (Text.utf8 text).length

theorem Text.isOverlong_eq_false_iff {text : String} :
    Text.isOverlong text = false ↔ (Text.utf8 text).length ≤ 65535 := by
  rw [isOverlong, decide_eq_false_iff_not, Nat.not_lt, Writer.longestText]

/-! ### How long a name is in a clause -/

theorem Text.byteLength_doubled (quote : Char) (chars : List Char) :
    Text.byteLength (Text.doubled quote chars) =
      Text.byteLength chars + chars.count quote * quote.utf8Size := by
  induction chars with
  | nil => simp [doubled, byteLength]
  | cons char rest ih =>
      by_cases same : char = quote
      · simp only [doubled, same, if_true, byteLength, ih, List.count_cons_self]
        rw [Nat.add_mul]
        omega
      · simp only [doubled, same, if_false, byteLength, ih, List.count_cons_of_ne same]
        omega

theorem Text.byteLength_replicate (count : Nat) (char : Char) :
    Text.byteLength (List.replicate count char) = count * char.utf8Size := by
  induction count with
  | zero => simp [byteLength]
  | succ count ih =>
      rw [List.replicate_succ, byteLength, ih, Nat.add_mul]
      omega

namespace ColumnName

theorem length_utf8_toCql (name : ColumnName) :
    (Text.utf8 name.toCql).length =
      if isBare name.text.toList then (Text.utf8 name.text).length
      else (Text.utf8 name.text).length + name.text.toList.count '"' + 2 := by
  -- Quotes around a name take two bytes, and each quote in it one more.
  rw [toCql]
  split
  · rfl
  · rw [Text.length_utf8_ofList, quoted, Text.byteLength_append, Text.byteLength,
      Text.byteLength_doubled, Text.byteLength_toList]
    simp [Text.byteLength, Char.utf8Size]
    omega

end ColumnName

/-! ### Overlong fields -/

namespace Field

def overlong? : Field → Option String
  | text content => if Text.isOverlong content then some content else none
  | _ => none

theorem overlong?_eq_some_iff {field : Field} {content : String} :
    field.overlong? = some content ↔ field = .text content ∧ Text.isOverlong content = true := by
  cases field with
  | text found =>
      simp only [overlong?, Option.ite_none_right_eq_some, Option.some.injEq, text.injEq]
      exact ⟨fun ⟨long, same⟩ => ⟨same, same ▸ long⟩, fun ⟨same, long⟩ => ⟨same ▸ long, same⟩⟩
  | word number => simp [overlong?]
  | count length => simp [overlong?]
  | operator relation => simp [overlong?]

theorem refusal?_eq {field : Field} (counted : ∀ length, field = .count length → length < 2 ^ 31) :
    field.refusal? =
      field.overlong?.map fun content => .textTooLong (Text.utf8 content).length := by
  -- Once the counts fit, only overlong texts are refused.
  cases field with
  | count length => simp [refusal?, overlong?, counted length rfl]
  | text content =>
      by_cases long : Writer.longestText < (Text.utf8 content).length
      · simp [refusal?, overlong?, Text.isOverlong, long]
      · simp [refusal?, overlong?, Text.isOverlong, Nat.le_of_not_lt long]
  | word number => rfl
  | operator relation => rfl

theorem overlong?_of_fits {field : Field} (fits : field.Fits) : field.overlong? = none := by
  cases field with
  | text content =>
      simp [overlong?, Text.isOverlong, Nat.not_lt.mpr (fits_text_iff.mp fits)]
  | word number => rfl
  | count length => rfl
  | operator relation => rfl

theorem findSome?_text_cons {content : String} {fields : List Field} {texts : List String}
    (same : fields.findSome? overlong? = texts.find? Text.isOverlong) :
    (text content :: fields).findSome? overlong? = (content :: texts).find? Text.isOverlong := by
  cases long : Text.isOverlong content <;> simp [overlong?, long, same]

end Field

/-! ### The texts of a constraint -/

def Comparison.texts (comparison : Comparison) : List String :=
  [comparison.column.toCql, comparison.term]

def MeasureComparison.texts (comparison : MeasureComparison) : List String :=
  [comparison.column.toCql, comparison.term]

def Application.texts (application : Application) : List String :=
  [application.column.toCql]

theorem Measure.isOverlong_name (measure : Measure) : Text.isOverlong measure.name = false := by
  cases measure <;> decide

theorem UnaryFunction.isOverlong_name (function : UnaryFunction) :
    Text.isOverlong function.name = false := by
  cases function; decide

namespace Constraint

mutual

/-- The columns, as written in a clause, and the terms of a constraint, in the order in which they
are stored. -/
def texts : Constraint → List String
  | composed column children => column.toCql :: eachTexts children
  | function comparison => comparison.texts
  | scalar comparison => comparison.texts
  | unary application => application.texts

def eachTexts : List Constraint → List String
  | [] => []
  | first :: rest => first.texts ++ eachTexts rest

end

theorem mem_eachTexts {constraints : List Constraint} {text : String} :
    text ∈ eachTexts constraints ↔ ∃ constraint ∈ constraints, text ∈ constraint.texts := by
  induction constraints with
  | nil => simp [eachTexts]
  | cons first rest ih => simp [eachTexts, ih]

mutual

def breadth : Constraint → Nat
  | composed _ children => max children.length (breadthEach children)
  | function _ => 0
  | scalar _ => 0
  | unary _ => 0

def breadthEach : List Constraint → Nat
  | [] => 0
  | first :: rest => max first.breadth (breadthEach rest)

end

def listBreadth (constraints : List Constraint) : Nat :=
  max constraints.length (breadthEach constraints)

theorem breadth_le_breadthEach {constraint : Constraint} {constraints : List Constraint}
    (member : constraint ∈ constraints) : constraint.breadth ≤ breadthEach constraints := by
  induction constraints with
  | nil => simp at member
  | cons first rest ih =>
      simp only [breadthEach]
      rcases List.mem_cons.mp member with rfl | later
      · exact Nat.le_max_left _ _
      · exact Nat.le_trans (ih later) (Nat.le_max_right _ _)

theorem length_le_breadth {constraint : Constraint} {length : Nat}
    (counted : .count length ∈ constraint.payloadFields) : length ≤ constraint.breadth := by
  induction constraint with
  | composed column children ih =>
      simp only [payloadFields, List.mem_cons, reduceCtorEq, Field.count.injEq, false_or,
        mem_eachFields, fields] at counted
      simp only [breadth]
      rcases counted with rfl | ⟨child, member, counted⟩
      · exact Nat.le_max_left _ _
      · have inner := ih child member counted
        have outer := breadth_le_breadthEach member
        omega
  | function comparison => simp [payloadFields, MeasureComparison.fields] at counted
  | scalar comparison => simp [payloadFields, Comparison.fields] at counted
  | unary application => simp [payloadFields, Application.fields] at counted

theorem length_le_listBreadth {constraints : List Constraint} {length : Nat}
    (counted : .count length ∈ listFields constraints) : length ≤ listBreadth constraints := by
  simp only [listFields, List.mem_cons, Field.count.injEq, mem_eachFields, fields, reduceCtorEq,
    false_or] at counted
  simp only [listBreadth]
  rcases counted with rfl | ⟨constraint, member, counted⟩
  · exact Nat.le_max_left _ _
  · have inner := length_le_breadth counted
    have outer := breadth_le_breadthEach member
    omega

/-! ### The size of the stored form -/

theorem length_eachFields_of_payloads {constraints : List Constraint}
    (payloads : ∀ constraint ∈ constraints,
      (constraint.payloadFields.flatMap Field.bytes).length = constraint.payloadSize) :
    ((eachFields constraints).flatMap Field.bytes).length = eachWireSize constraints := by
  induction constraints with
  | nil => rfl
  | cons first rest ih =>
      have tail := ih fun constraint member => payloads constraint (by simp [member])
      simp only [eachFields, eachWireSize, List.flatMap_cons, List.flatMap_append,
        List.length_append, Field.length_bytes, Field.size, payloads first (by simp), tail,
        Nat.add_assoc]

theorem length_payloadFields (constraint : Constraint) :
    (constraint.payloadFields.flatMap Field.bytes).length = constraint.payloadSize := by
  induction constraint with
  | composed column children ih =>
      simp [payloadFields, payloadSize, Field.length_bytes, Field.size,
        length_eachFields_of_payloads ih, Nat.add_assoc]
  | function comparison =>
      simp [payloadFields, payloadSize, MeasureComparison.fields, MeasureComparison.wireSize,
        Field.length_bytes, Field.size, Nat.add_assoc]
  | scalar comparison =>
      simp [payloadFields, payloadSize, Comparison.fields, Comparison.wireSize,
        Field.length_bytes, Field.size, Nat.add_assoc]
  | unary application =>
      simp [payloadFields, payloadSize, Application.fields, Application.wireSize,
        Field.length_bytes, Field.size]

/-- The two recursions over a constraint, the one that writes and the one that measures, agree. -/
theorem length_listFields (constraints : List Constraint) :
    ((listFields constraints).flatMap Field.bytes).length = listWireSize constraints := by
  have each := length_eachFields_of_payloads fun constraint (_ : constraint ∈ constraints) =>
    constraint.length_payloadFields
  simp only [listFields, listWireSize, List.flatMap_cons, List.length_append, each,
    Field.length_bytes, Field.size]

/-! ### The first overlong text -/

theorem findSome?_eachFields_of_payloads {constraints : List Constraint}
    (payloads : ∀ constraint ∈ constraints,
      constraint.payloadFields.findSome? Field.overlong? =
        constraint.texts.find? Text.isOverlong) :
    (eachFields constraints).findSome? Field.overlong? =
      (eachTexts constraints).find? Text.isOverlong := by
  induction constraints with
  | nil => rfl
  | cons first rest ih =>
      have tail := ih fun constraint member => payloads constraint (by simp [member])
      rw [eachFields, eachTexts, List.findSome?_cons_of_isNone rfl, List.findSome?_append,
        List.find?_append, payloads first (by simp), tail]

theorem findSome?_payloadFields (constraint : Constraint) :
    constraint.payloadFields.findSome? Field.overlong? =
      constraint.texts.find? Text.isOverlong := by
  induction constraint with
  | composed column children ih =>
      apply Field.findSome?_text_cons
      rw [List.findSome?_cons_of_isNone rfl]
      exact findSome?_eachFields_of_payloads ih
  | function comparison =>
      have named : (Field.text comparison.measure.name).overlong?.isNone := by
        simp [Field.overlong?, comparison.measure.isOverlong_name]
      apply Field.findSome?_text_cons
      rw [List.findSome?_cons_of_isNone named, List.findSome?_cons_of_isNone rfl]
      exact Field.findSome?_text_cons rfl
  | scalar comparison =>
      apply Field.findSome?_text_cons
      rw [List.findSome?_cons_of_isNone rfl]
      exact Field.findSome?_text_cons rfl
  | unary application =>
      have named : (Field.text application.function.name).overlong?.isNone := by
        simp [Field.overlong?, application.function.isOverlong_name]
      apply Field.findSome?_text_cons
      rw [List.findSome?_cons_of_isNone named]
      rfl

theorem findSome?_listFields (constraints : List Constraint) :
    (listFields constraints).findSome? Field.overlong? =
      (eachTexts constraints).find? Text.isOverlong := by
  -- The function names that are stored with the texts are never overlong.
  have each := findSome?_eachFields_of_payloads fun constraint (_ : constraint ∈ constraints) =>
    constraint.findSome?_payloadFields
  rw [listFields, List.findSome?_cons_of_isNone rfl, each]

section

variable {constraints : List Constraint} (narrow : listBreadth constraints < 2 ^ 31)

include narrow

theorem refusal?_of_mem_listFields {field : Field} (member : field ∈ listFields constraints) :
    field.refusal? =
      field.overlong?.map fun content => .textTooLong (Text.utf8 content).length :=
  Field.refusal?_eq fun _ counted =>
    Nat.lt_of_le_of_lt (length_le_listBreadth (counted ▸ member)) narrow

theorem fits_listFields_iff :
    (∀ field ∈ listFields constraints, field.Fits) ↔
      ∀ text ∈ eachTexts constraints, (Text.utf8 text).length ≤ 65535 :=
  calc (∀ field ∈ listFields constraints, field.Fits)
      ↔ (listFields constraints).findSome? Field.overlong? = none := by
        simp +contextual [List.findSome?_eq_none_iff, Field.Fits, refusal?_of_mem_listFields narrow]
    _ ↔ (eachTexts constraints).find? Text.isOverlong = none := by rw [findSome?_listFields]
    _ ↔ ∀ text ∈ eachTexts constraints, (Text.utf8 text).length ≤ 65535 := by
        simp [List.find?_eq_none, Text.isOverlong_eq_false_iff]

end

/-- A list of constraints is written exactly if no column, as written in a clause, and no term has
more than 65535 bytes. It takes as many bytes as its size says. A failure gives the length of the
first text that is too long and leaves the fields before it in the output. -/
theorem writeList_outcome (version : Version) (constraints : List Constraint) (before : Output)
    (narrow : listBreadth constraints < 2 ^ 31) :
    ((∃ after, writeList version constraints before = .ok () after) ↔
      ∀ text ∈ eachTexts constraints, (Text.utf8 text).length ≤ 65535) ∧
    (∀ after, writeList version constraints before = .ok () after →
      ∃ added, after.bytes = before.bytes ++ added ∧ added.length = listWireSize constraints ∧
        added = (listFields constraints).flatMap Field.bytes) ∧
    (∀ cause after, writeList version constraints before = .error cause after →
      ∃ front content back, listFields constraints = front ++ .text content :: back ∧
        (eachTexts constraints).find? (fun text => 65535 < (Text.utf8 text).length) = some content ∧
        cause = .textTooLong (Text.utf8 content).length ∧ (∀ field ∈ front, field.Fits) ∧
        after.bytes = before.bytes ++ front.flatMap Field.bytes) := by
  refine ⟨?_, ?_, ?_⟩
  · rw [writeList_eq, ← fits_listFields_iff narrow]
    simp [Field.writeAll_eq_ok_iff]
  · intro after written
    rw [writeList_eq] at written
    obtain ⟨_, rfl⟩ := Field.writeAll_eq_ok_iff.mp written
    exact ⟨_, Output.bytes_append _ _, length_listFields constraints, rfl⟩
  · intro cause after failed
    rw [writeList_eq] at failed
    obtain ⟨front, field, back, split, fit, refused, rfl⟩ :=
      Field.writeAll_eq_error_iff.mp failed
    rw [refusal?_of_mem_listFields narrow (by simp [split])] at refused
    obtain ⟨content, found, rfl⟩ := Option.map_eq_some_iff.mp refused
    obtain ⟨rfl, _⟩ := Field.overlong?_eq_some_iff.mp found
    have shorter : ∀ earlier ∈ front, earlier.overlong? = none :=
      fun earlier member => Field.overlong?_of_fits (fit earlier member)
    have first : (eachTexts constraints).find? Text.isOverlong = some content := by
      rw [← findSome?_listFields]
      exact List.findSome?_eq_some_iff.mpr ⟨front, .text content, back, split, found, shorter⟩
    exact ⟨front, content, back, split, first, rfl, fit, Output.bytes_append _ _⟩

def quotes (count : Nat) : ColumnName :=
  ⟨String.ofList (List.replicate count '"')⟩

theorem length_utf8_toCql_quotes (count : Nat) :
    (Text.utf8 (quotes count).toCql).length = 2 * count + 2 := by
  have apart : ColumnName.isBare (List.replicate count '"') = false := by
    cases count with
    | zero => rfl
    | succ count => rfl
  rw [ColumnName.length_utf8_toCql]
  simp [quotes, apart, Text.length_utf8_ofList, Text.byteLength_replicate, Char.utf8Size]
  omega

def quotesSample (count : Nat) : Constraint :=
  .composed ⟨"c"⟩ [.scalar ⟨⟨"v"⟩, .unequal, "∞"⟩, .function ⟨.length, quotes count, .atMost, "5"⟩]

theorem eachTexts_quotesSample (count : Nat) :
    eachTexts [quotesSample count] = ["c", "v", "∞", (quotes count).toCql, "5"] := by
  have bare : ColumnName.toCql ⟨"c"⟩ = "c" ∧ ColumnName.toCql ⟨"v"⟩ = "v" := by decide
  simp [quotesSample, eachTexts, texts, Comparison.texts, MeasureComparison.texts, bare]

theorem writeList_outcome_quotes :
    listBreadth [quotesSample 32766] < 2 ^ 31 ∧ listBreadth [quotesSample 32767] < 2 ^ 31 ∧
    (∃ after, writeList .v1 [quotesSample 32766] .empty = .ok () after) ∧
    ∃ after, writeList .v1 [quotesSample 32767] .empty = .error (.textTooLong 65536) after := by
  have narrow (count : Nat) : listBreadth [quotesSample count] < 2 ^ 31 := by
    simp [listBreadth, breadthEach, quotesSample, breadth]
  have fitting := writeList_outcome .v1 [quotesSample 32766] .empty (narrow _)
  have overlong := writeList_outcome .v1 [quotesSample 32767] .empty (narrow _)
  have short : ∀ text ∈ ["c", "v", "∞", "5"], (Text.utf8 text).length ≤ 65535 := by decide
  refine ⟨narrow _, narrow _, fitting.1.mpr ?_, ?_⟩
  · simpa [eachTexts_quotesSample, length_utf8_toCql_quotes] using short
  · cases result : writeList .v1 [quotesSample 32767] .empty with
    | ok _ after =>
        have within := overlong.1.mp ⟨after, result⟩ (quotes 32767).toCql
          (by simp [eachTexts_quotesSample])
        simp [length_utf8_toCql_quotes] at within
    | error cause after =>
        obtain ⟨front, content, back, -, found, rfl, -⟩ := overlong.2.2 cause after result
        have long : 65535 < (Text.utf8 content).length := by simpa using List.find?_some found
        have member := List.mem_of_find?_eq_some found
        rw [eachTexts_quotesSample] at member
        have same : content = (quotes 32767).toCql := Classical.byContradiction fun other =>
          Nat.not_le_of_lt long (short content (by simpa [other] using member))
        exact ⟨after, by rw [same, length_utf8_toCql_quotes]⟩

end Constraint

end ColumnChecks
