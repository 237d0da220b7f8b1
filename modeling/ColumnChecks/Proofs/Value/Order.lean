import ColumnChecks.Proofs.Constraint.Requirements

/-! The order of values. Values of one kind are ordered as the numbers that they are compared by,
the first of which that differs decides, and distinct values differ in these numbers. So the order
is total on each kind, and the operators divide every pair of values among them. -/

namespace ColumnChecks

namespace Number

theorem totalOrderKey_injective {first second : UInt64}
    (same : totalOrderKey first = totalOrderKey second) : first = second := by
  have firstBound : first.toNat < 2 ^ 64 := first.toNat_lt
  have secondBound : second.toNat < 2 ^ 64 := second.toNat_lt
  unfold totalOrderKey at same
  apply UInt64.toNat_inj.mp
  split at same <;> split at same <;> omega

end Number

theorem Uuid.ext {first second : Uuid} (same : first.bytes = second.bytes) : first = second := by
  cases first
  cases second
  cases same
  rfl

namespace Value

def byteKey (bytes : Bytes) : List Int :=
  bytes.map fun byte => (byte.toNat : Int)

def key : Value → List Int
  | boolean value => [if value then 1 else 0]
  | integer value => [value.toInt]
  | float bits => [Number.totalOrderKey bits]
  | text value => byteKey (Text.utf8 value)
  | bytes value => byteKey value
  | timestamp milliseconds => [milliseconds.toInt]
  | uuid value => byteKey value.bytes

theorem compare_singleton (first second : Int) :
    compare [first] [second] = compare first second := by
  rw [List.compare_cons_cons, List.compare_nil_nil, Ordering.then_eq]

theorem compare_byte (first second : UInt8) :
    compare (first.toNat : Int) second.toNat = compare first second := by
  rw [compare_natCast]
  change compareOfLessAndEq first.toNat second.toNat = compareOfLessAndEq first second
  simp only [compareOfLessAndEq, UInt8.lt_iff_toNat_lt, UInt8.toNat_inj]

theorem compare_byteKey (first second : Bytes) :
    compare (byteKey first) (byteKey second) = compare first second := by
  induction first generalizing second with
  | nil => cases second <;> rfl
  | cons head rest ih =>
      cases second with
      | nil => rfl
      | cons other others =>
          have tails := ih others
          simp only [byteKey] at tails
          simp only [byteKey, List.map_cons, List.compare_cons_cons, compare_byte, tails]

theorem byteKey_injective {first second : Bytes} (same : byteKey first = byteKey second) :
    first = second := by
  refine List.map_injective_iff.mpr ?_ same
  intro byte other equal
  exact UInt8.toNat_inj.mp (Int.ofNat.inj equal)

theorem key_injective {first second : Value} (kinds : first.kind = second.kind)
    (same : first.key = second.key) : first = second := by
  cases first with
  | boolean truth =>
      cases second with
      | boolean other => cases truth <;> cases other <;> simp [key] at same ⊢
      | _ => cases kinds
  | integer number =>
      cases second with
      | integer other => exact congrArg integer (Int64.toInt_inj.mp (List.singleton_inj.mp same))
      | _ => cases kinds
  | float bits =>
      cases second with
      | float other =>
          have keys := Int.ofNat.inj (List.singleton_inj.mp same)
          exact congrArg float (Number.totalOrderKey_injective keys)
      | _ => cases kinds
  | text content =>
      cases second with
      | text other => exact congrArg text (Text.utf8_injective (byteKey_injective same))
      | _ => cases kinds
  | bytes content =>
      cases second with
      | bytes other => exact congrArg bytes (byteKey_injective same)
      | _ => cases kinds
  | timestamp milliseconds =>
      cases second with
      | timestamp other =>
          exact congrArg timestamp (Int64.toInt_inj.mp (List.singleton_inj.mp same))
      | _ => cases kinds
  | uuid identifier =>
      cases second with
      | uuid other => exact congrArg uuid (Uuid.ext (byteKey_injective same))
      | _ => cases kinds

theorem compare?_eq (first second : Value) :
    first.compare? second =
      if first.kind = second.kind then some (compare first.key second.key) else none := by
  cases first with
  | boolean truth =>
      cases second with
      | boolean other => cases truth <;> cases other <;> rfl
      | _ => rfl
  | integer number =>
      cases second with
      | integer other => exact congrArg some (compare_singleton _ _).symm
      | _ => rfl
  | float bits =>
      cases second with
      | float other =>
          exact congrArg some ((compare_singleton _ _).trans (compare_natCast _ _)).symm
      | _ => rfl
  | text content =>
      cases second with
      | text other => exact congrArg some (compare_byteKey _ _).symm
      | _ => rfl
  | bytes content =>
      cases second with
      | bytes other => exact congrArg some (compare_byteKey _ _).symm
      | _ => rfl
  | timestamp milliseconds =>
      cases second with
      | timestamp other => exact congrArg some (compare_singleton _ _).symm
      | _ => rfl
  | uuid identifier =>
      cases second with
      | uuid other => exact congrArg some (compare_byteKey _ _).symm
      | _ => rfl

theorem compare?_eq_some_iff {first second : Value} {order : Ordering} :
    first.compare? second = some order ↔
      first.kind = second.kind ∧ compare first.key second.key = order := by
  rw [compare?_eq]
  by_cases kinds : first.kind = second.kind
  · simp [kinds]
  · simp [kinds]

theorem compare?_eq_none_iff {first second : Value} :
    first.compare? second = none ↔ first.kind ≠ second.kind := by
  rw [compare?_eq]
  by_cases kinds : first.kind = second.kind
  · simp [kinds]
  · simp [kinds]

theorem compare?_swap (first second : Value) :
    second.compare? first = (first.compare? second).map Ordering.swap := by
  rw [compare?_eq, compare?_eq, Std.OrientedOrd.eq_swap (a := second.key)]
  by_cases kinds : first.kind = second.kind
  · rw [if_pos kinds, if_pos kinds.symm, Option.map_some]
  · rw [if_neg kinds, if_neg (Ne.symm kinds), Option.map_none]

theorem compare?_eq_some_eq_iff {first second : Value} :
    first.compare? second = some .eq ↔ first = second := by
  rw [compare?_eq_some_iff, Std.LawfulEqOrd.compare_eq_iff_eq]
  constructor
  · rintro ⟨kinds, keys⟩
    exact key_injective kinds keys
  · rintro rfl
    exact ⟨rfl, rfl⟩

theorem compare_trans {first second third : List Int} {order : Ordering}
    (front : compare first second = order) (back : compare second third = order) :
    compare first third = order := by
  cases order with
  | lt => exact Std.TransCmp.lt_trans front back
  | eq =>
      rw [Std.LawfulEqOrd.compare_eq_iff_eq] at front back ⊢
      exact front.trans back
  | gt => exact Std.TransCmp.gt_trans front back

theorem compare?_trans {first second third : Value} {order : Ordering}
    (front : first.compare? second = some order) (back : second.compare? third = some order) :
    first.compare? third = some order := by
  rw [compare?_eq_some_iff] at front back ⊢
  exact ⟨front.1.trans back.1, compare_trans front.2 back.2⟩

theorem exists_compare?_of_read {type : ColumnType} {stored : Bytes} {literal : String}
    {value term : Value} (decoded : decode type stored = .ok value)
    (read : ofLiteral? type literal = some term) : ∃ order, value.compare? term = some order := by
  have kinds := (kind_of_decode decoded).trans (kind_of_ofLiteral? read).symm
  exact ⟨_, compare?_eq_some_iff.mpr ⟨kinds, rfl⟩⟩

end Value

namespace Constraint

theorem evaluate_scalar_eq_ok_iff {type : ColumnType} {stored : Bytes} {literal : String}
    {value term : Value} {order : Ordering} (nonempty : stored ≠ [])
    (decoded : Value.decode type stored = .ok value)
    (read : Value.ofLiteral? type literal = some term)
    (compared : value.compare? term = some order) (column : ColumnName) (operator : Operator) :
    (scalar ⟨column, operator, literal⟩).evaluate type stored = .ok () ↔
      operator.holds order = true := by
  rw [evaluate_eq_evaluateStored nonempty, evaluateStored]
  simp only [Comparison.evaluate, read, decoded, compared]
  simp

end Constraint

namespace Value

/-- Values are ordered totally, kind by kind: those of different kinds are not compared, the order
of two values reverses with them, only a value is equal to itself, and the order carries over a
value between two others. So of the operators for less, equal and greater exactly one accepts a
value, and the others are told by these three. -/
theorem compare?_orders_kinds :
    (∀ first second : Value,
      (first.compare? second = none ↔ first.kind ≠ second.kind) ∧
      second.compare? first = (first.compare? second).map Ordering.swap ∧
      (first.compare? second = some .eq ↔ first = second)) ∧
    (∀ (first second third : Value) (order : Ordering), first.compare? second = some order →
      second.compare? third = some order → first.compare? third = some order) ∧
    ∀ (type : ColumnType) (stored : Bytes) (literal : String) (value term : Value)
      (column : ColumnName), stored ≠ [] → decode type stored = .ok value →
      ofLiteral? type literal = some term →
      let Accepts (operator : Operator) : Prop :=
        (Constraint.scalar ⟨column, operator, literal⟩).evaluate type stored = .ok ()
      (∃! operator, operator ∈ [Operator.less, .equal, .greater] ∧ Accepts operator) ∧
      (Accepts .atMost ↔ Accepts .less ∨ Accepts .equal) ∧
      (Accepts .atLeast ↔ Accepts .greater ∨ Accepts .equal) ∧
      (Accepts .unequal ↔ ¬ Accepts .equal) := by
  refine ⟨fun first second => ?_, fun _ _ _ _ => compare?_trans, ?_⟩
  · exact ⟨compare?_eq_none_iff, compare?_swap first second, compare?_eq_some_eq_iff⟩
  · intro type stored literal value term column nonempty decoded read
    obtain ⟨order, compared⟩ := exists_compare?_of_read decoded read
    have accepts :=
      Constraint.evaluate_scalar_eq_ok_iff nonempty decoded read compared column
    simp only [accepts]
    cases order with
    | lt => exact ⟨⟨.less, by simp [Operator.holds]⟩, by simp [Operator.holds]⟩
    | eq => exact ⟨⟨.equal, by simp [Operator.holds]⟩, by simp [Operator.holds]⟩
    | gt => exact ⟨⟨.greater, by simp [Operator.holds]⟩, by simp [Operator.holds]⟩

theorem compare?_orders_kinds_zeros :
    (float 0xFFF8000000000000).compare? (float 0x8000000000000000) = some .lt ∧
      (float 0x8000000000000000).compare? (float 0) = some .lt ∧
      (float 0xFFF8000000000000).compare? (float 0) = some .lt ∧
      (float 0).compare? (float 0x8000000000000000) = some .gt ∧
      (float 0).compare? (integer 0) = none ∧
      decode .double [0x80, 0, 0, 0, 0, 0, 0, 0] = .ok (float 0x8000000000000000) ∧
      ofLiteral? .double "0.0" = some (float 0) ∧
      ∃! operator, operator ∈ [Operator.less, .equal, .greater] ∧
        (Constraint.scalar ⟨⟨"drift"⟩, operator, "0.0"⟩).evaluate .double
          [0x80, 0, 0, 0, 0, 0, 0, 0] = .ok () := by
  obtain ⟨pairs, carries, operators⟩ := compare?_orders_kinds
  have below : (float 0xFFF8000000000000).compare? (float 0x8000000000000000) = some .lt := by
    decide
  have zeros : (float 0x8000000000000000).compare? (float 0) = some .lt := by decide
  have decoded : decode .double [0x80, 0, 0, 0, 0, 0, 0, 0] = .ok (float 0x8000000000000000) := by
    rfl
  have read : ofLiteral? .double "0.0" = some (float 0) := by rfl
  refine ⟨below, zeros, carries _ _ _ _ below zeros, ?_, (pairs _ _).1.mpr (by decide), decoded,
    read, (operators _ _ _ _ _ ⟨"drift"⟩ (by simp) decoded read).1⟩
  rw [(pairs _ _).2.1, zeros]
  rfl

end Value

end ColumnChecks
