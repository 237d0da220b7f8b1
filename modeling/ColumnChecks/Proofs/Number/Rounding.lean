import Mathlib.Algebra.Order.Field.Power
import Mathlib.Tactic.FieldSimp
import Mathlib.Tactic.Linarith
import Mathlib.Tactic.NormNum
import Mathlib.Tactic.Positivity
import Mathlib.Tactic.Ring
import ColumnChecks.Number.BinaryFloat

/-! Rounding to floats. A quotient is rounded to the one pattern whose number is nearest to it, a
tie to the even pattern, and a number that a wider format has keeps its value there. -/

namespace ColumnChecks.Number

def Nearer (number : ℚ) (preferred : Prop) (first second : ℚ) : Prop :=
  |first - number| < |second - number| ∨ |first - number| = |second - number| ∧ preferred

variable {number first second scale : ℚ} {preferred : Prop}

theorem Nearer.le (nearer : Nearer number preferred first second) :
    |first - number| ≤ |second - number| := by
  rcases nearer with less | ⟨same, _⟩
  · exact less.le
  · exact same.le

theorem Nearer.mul_right (nearer : Nearer number preferred first second) (positive : 0 < scale) :
    Nearer (number * scale) preferred (first * scale) (second * scale) := by
  have distance (value : ℚ) : |value * scale - number * scale| = |value - number| * scale := by
    rw [← sub_mul, abs_mul, abs_of_pos positive]
  rw [Nearer, distance, distance]
  rcases nearer with less | ⟨same, prefers⟩
  · exact Or.inl (mul_lt_mul_of_pos_right less positive)
  · exact Or.inr ⟨by rw [same], prefers⟩

theorem le_of_closer {bound : ℚ} (closer : |first - number| ≤ |bound - number|)
    (below : number ≤ bound) : first ≤ bound := by
  by_contra beyond
  rw [abs_of_pos (by linarith), abs_of_nonneg (by linarith)] at closer
  linarith

theorem ge_of_closer {bound : ℚ} (closer : |first - number| ≤ |bound - number|)
    (above : bound ≤ number) : bound ≤ first := by
  by_contra under
  rw [abs_of_neg (by linarith), abs_of_nonpos (by linarith)] at closer
  linarith

theorem closer_of_beyond {bound : ℚ} (closer : |first - number| ≤ |bound - number|)
    (below : number ≤ bound) (beyond : bound < second) : |first - number| < |second - number| := by
  rw [abs_of_nonneg (sub_nonneg.mpr below)] at closer
  rw [abs_of_pos (show 0 < second - number by linarith)]
  linarith

theorem closer_of_before {bound : ℚ} (closer : |first - number| ≤ |bound - number|)
    (above : bound ≤ number) (before : second < bound) : |first - number| < |second - number| := by
  rw [abs_of_nonpos (sub_nonpos.mpr above)] at closer
  rw [abs_of_neg (show second - number < 0 by linarith)]
  linarith

theorem closer_of_between {between : ℚ} (same : |first - number| = |second - number|)
    (above : first < between) (below : between < second) :
    |between - number| < |first - number| := by
  rcases abs_eq_abs.mp same with equal | opposite
  · linarith
  · rw [abs_of_neg (show first - number < 0 by linarith)]
    exact abs_lt.mpr ⟨by linarith, by linarith⟩

theorem roundDiv_closest {numerator denominator : Nat} (positive : 0 < denominator) (other : Nat)
    (differs : other ≠ roundDiv numerator denominator) :
    ((roundDiv numerator denominator * denominator : Nat) - (numerator : Int)).natAbs <
        ((other * denominator : Nat) - (numerator : Int)).natAbs ∨
      ((roundDiv numerator denominator * denominator : Nat) - (numerator : Int)).natAbs =
        ((other * denominator : Nat) - (numerator : Int)).natAbs ∧
        roundDiv numerator denominator % 2 = 0 := by
  have whole := Nat.div_add_mod' numerator denominator
  have small := Nat.mod_lt numerator positive
  have below : other < numerator / denominator →
      other * denominator + denominator ≤ numerator / denominator * denominator := by
    intro less
    rw [← Nat.succ_mul]
    exact Nat.mul_le_mul_right _ less
  have above : numerator / denominator + 1 < other →
      numerator / denominator * denominator + 2 * denominator ≤ other * denominator := by
    intro less
    rw [← Nat.add_mul]
    exact Nat.mul_le_mul_right _ less
  have next : (numerator / denominator + 1) * denominator =
      numerator / denominator * denominator + denominator := Nat.succ_mul _ _
  generalize product : numerator / denominator * denominator = quotientTimes at *
  have cases : other < numerator / denominator ∨ other = numerator / denominator ∨
    other = numerator / denominator + 1 ∨ numerator / denominator + 1 < other := by omega
  unfold roundDiv at differs ⊢
  simp only [Bool.or_eq_true, Bool.and_eq_true, decide_eq_true_eq] at differs ⊢
  split at differs
  · rename_i up
    rw [if_pos up, next]
    rcases cases with less | rfl | rfl | greater
    · have := below less
      omega
    · omega
    · exact absurd rfl differs
    · have := above greater
      omega
  · rename_i down
    rw [if_neg down, product]
    rcases cases with less | rfl | rfl | greater
    · have := below less
      omega
    · exact absurd rfl differs
    · rw [next]
      omega
    · have := above greater
      omega

theorem roundDiv_nearer {numerator denominator : Nat} (positive : 0 < denominator) {other : Nat}
    (differs : other ≠ roundDiv numerator denominator) :
    Nearer (numerator / denominator) (roundDiv numerator denominator % 2 = 0)
      (roundDiv numerator denominator : Nat) other := by
  have units : (0 : ℚ) < denominator := by exact_mod_cast positive
  have distance (value : Nat) : |(value : ℚ) - numerator / denominator| =
      (((value * denominator : Nat) - (numerator : Int)).natAbs : Nat) / denominator := by
    rw [Nat.cast_natAbs, Int.cast_abs, eq_div_iff units.ne', ← abs_of_pos units, ← abs_mul,
      abs_of_pos units, sub_mul, div_mul_cancel₀ _ units.ne']
    push_cast
    rfl
  rw [Nearer, distance, distance]
  rcases roundDiv_closest positive other differs with less | ⟨same, even⟩
  · exact Or.inl (div_lt_div_of_pos_right (by exact_mod_cast less) units)
  · exact Or.inr ⟨by rw [same], even⟩

theorem zpow_of_nonneg {base : ℚ} {exponent : Int} (up : 0 ≤ exponent) :
    base ^ exponent = base ^ exponent.toNat := by
  rw [← zpow_natCast, Int.toNat_of_nonneg up]

theorem zpow_of_neg {base : ℚ} {exponent : Int} (down : exponent < 0) :
    base ^ exponent = (base ^ (-exponent).toNat)⁻¹ := by
  rw [← zpow_natCast, Int.toNat_of_nonneg (by omega), zpow_neg, inv_inv]

namespace BinaryFormat

variable {format : BinaryFormat}

/-- The number that a pattern without sign stands for, counted in least positive floats. The
pattern of infinity counts as the power of two behind the greatest finite number. -/
def steps (format : BinaryFormat) (pattern : Nat) : Nat :=
  let fraction := pattern % 2 ^ format.fractionBits
  let exponent := pattern / 2 ^ format.fractionBits
  if exponent = 0 then fraction
  else (2 ^ format.fractionBits + fraction) * 2 ^ (exponent - 1)

def value (format : BinaryFormat) (pattern : Nat) : ℚ :=
  format.steps pattern * 2 ^ format.leastExponent

/-- Of the numbers of the format the pattern's is the nearest one, and of two that are as near its
pattern is the even one. -/
structure Nearest (format : BinaryFormat) (number : ℚ) (pattern : Nat) : Prop where
  le_infinity : pattern ≤ format.infinity
  nearer : ∀ other ≤ format.infinity, other ≠ pattern →
    Nearer number (pattern % 2 = 0) (format.value pattern) (format.value other)

theorem steps_of_lt {fraction : Nat} (small : fraction < 2 ^ format.fractionBits) :
    format.steps fraction = fraction := by
  simp [steps, Nat.div_eq_of_lt small, Nat.mod_eq_of_lt small]

theorem steps_add (format : BinaryFormat) {fraction : Nat} (exponent : Nat)
    (small : fraction < 2 ^ format.fractionBits) :
    format.steps ((exponent + 1) * 2 ^ format.fractionBits + fraction) =
      (2 ^ format.fractionBits + fraction) * 2 ^ exponent := by
  have positive : 0 < 2 ^ format.fractionBits := Nat.two_pow_pos _
  have quotient : ((exponent + 1) * 2 ^ format.fractionBits + fraction) /
      2 ^ format.fractionBits = exponent + 1 := by
    rw [Nat.add_comm, Nat.add_mul_div_right _ _ positive, Nat.div_eq_of_lt small, Nat.zero_add]
  have remainder : ((exponent + 1) * 2 ^ format.fractionBits + fraction) %
      2 ^ format.fractionBits = fraction := by
    rw [Nat.add_comm, Nat.add_mul_mod_self_right, Nat.mod_eq_of_lt small]
  simp [steps, quotient, remainder]

theorem steps_grid (format : BinaryFormat) {multiple : Nat} (binade : Nat)
    (high : multiple ≤ 2 ^ (format.fractionBits + 1))
    (low : binade = 0 ∨ 2 ^ format.fractionBits ≤ multiple) :
    format.steps (binade * 2 ^ format.fractionBits + multiple) = multiple * 2 ^ binade := by
  have double : 2 ^ (format.fractionBits + 1) = 2 * 2 ^ format.fractionBits := by
    rw [Nat.pow_succ, Nat.mul_comm]
  rw [double] at high
  rcases Nat.lt_or_ge multiple (2 ^ format.fractionBits) with small | large
  · have zero : binade = 0 := by omega
    subst zero
    rw [Nat.zero_mul, Nat.zero_add, steps_of_lt small, Nat.pow_zero, Nat.mul_one]
  · obtain ⟨fraction, rfl⟩ := Nat.exists_eq_add_of_le large
    have regroup : binade * 2 ^ format.fractionBits + (2 ^ format.fractionBits + fraction) =
        (binade + 1) * 2 ^ format.fractionBits + fraction := by
      rw [Nat.succ_mul, Nat.add_assoc]
    rw [regroup]
    rcases Nat.lt_or_eq_of_le (show fraction ≤ 2 ^ format.fractionBits by omega) with less | rfl
    · exact format.steps_add binade less
    · have next := format.steps_add (binade + 1) (Nat.two_pow_pos _)
      rw [Nat.add_zero, Nat.add_zero] at next
      rw [← Nat.succ_mul, next, Nat.pow_succ]
      ring

theorem steps_strictMono (format : BinaryFormat) : StrictMono format.steps := by
  refine strictMono_nat_of_lt_succ fun pattern => ?_
  have positive : 0 < 2 ^ format.fractionBits := Nat.two_pow_pos _
  have small := Nat.mod_lt pattern positive
  have whole := Nat.div_add_mod' pattern (2 ^ format.fractionBits)
  -- Both patterns are in one binade, or the second one starts the next.
  rw [← whole]
  generalize pattern / 2 ^ format.fractionBits = exponent at *
  generalize pattern % 2 ^ format.fractionBits = fraction at *
  rcases exponent with _ | binade
  · rw [Nat.zero_mul, Nat.zero_add, steps_of_lt small]
    have short : fraction + 1 ≤ 2 ^ (format.fractionBits + 1) := by
      rw [Nat.pow_succ]
      omega
    have next := format.steps_grid 0 short (Or.inl rfl)
    rw [Nat.zero_mul, Nat.zero_add, Nat.pow_zero, Nat.mul_one] at next
    omega
  · have short : 2 ^ format.fractionBits + (fraction + 1) ≤ 2 ^ (format.fractionBits + 1) := by
      rw [Nat.pow_succ]
      omega
    have next := format.steps_grid binade short (Or.inr (Nat.le_add_right _ _))
    have regroup : binade * 2 ^ format.fractionBits + (2 ^ format.fractionBits + (fraction + 1)) =
        (binade + 1) * 2 ^ format.fractionBits + fraction + 1 := by
      rw [Nat.succ_mul]
      omega
    rw [regroup] at next
    rw [format.steps_add binade small, next]
    exact Nat.mul_lt_mul_of_pos_right (by omega) (Nat.two_pow_pos _)

theorem value_nonneg (format : BinaryFormat) (pattern : Nat) : 0 ≤ format.value pattern := by
  unfold value
  positivity

theorem value_strictMono (format : BinaryFormat) : StrictMono format.value := by
  intro first second less
  have unit : (0 : ℚ) < 2 ^ format.leastExponent := by positivity
  exact mul_lt_mul_of_pos_right (by exact_mod_cast format.steps_strictMono less) unit

theorem value_grid (format : BinaryFormat) {multiple : Nat} (binade : Nat)
    (high : multiple ≤ 2 ^ (format.fractionBits + 1))
    (low : binade = 0 ∨ 2 ^ format.fractionBits ≤ multiple) :
    format.value (binade * 2 ^ format.fractionBits + multiple) =
      multiple * 2 ^ (format.leastExponent + binade) := by
  rw [value, format.steps_grid binade high low, zpow_add₀ (by norm_num), zpow_natCast]
  push_cast
  ring

theorem closest_of_nearer {multiple : Nat} {unit : ℚ}
    (rounds : ∀ other : Nat, other ≠ multiple →
      Nearer number preferred (multiple * unit) (other * unit)) (other : Nat) :
    |multiple * unit - number| ≤ |other * unit - number| := by
  by_cases same : other = multiple
  · rw [same]
  · exact (rounds other same).le

theorem mod_two_of_wide (wide : 0 < format.fractionBits) (binade multiple : Nat) :
    (binade * 2 ^ format.fractionBits + multiple) % 2 = multiple % 2 := by
  obtain ⟨bits, same⟩ := Nat.exists_eq_add_of_lt wide
  rw [same, Nat.zero_add, Nat.pow_succ, ← Nat.mul_assoc, Nat.add_comm, Nat.add_mul_mod_self_right]

/-- The nearest multiple of a power of two is the nearest of all numbers: those of the binade are
multiples of the power, and the others lie beyond an end of the binade. -/
theorem nearer_of_multiple {multiple binade : Nat} {unit : ℚ} (wide : 0 < format.fractionBits)
    (isUnit : unit = 2 ^ (format.leastExponent + binade))
    (rounds : ∀ other : Nat, other ≠ multiple →
      Nearer number (multiple % 2 = 0) (multiple * unit) (other * unit))
    (low : binade = 0 ∨ (2 ^ format.fractionBits : Nat) * unit ≤ number)
    (high : number ≤ (2 ^ (format.fractionBits + 1) : Nat) * unit) {other : Nat}
    (differs : other ≠ binade * 2 ^ format.fractionBits + multiple) :
    Nearer number ((binade * 2 ^ format.fractionBits + multiple) % 2 = 0)
      (format.value (binade * 2 ^ format.fractionBits + multiple)) (format.value other) := by
  have positive : 0 < unit := by rw [isUnit]; positivity
  have double : 2 ^ (format.fractionBits + 1) = 2 * 2 ^ format.fractionBits := by
    rw [Nat.pow_succ, Nat.mul_comm]
  have start := closest_of_nearer rounds (2 ^ format.fractionBits)
  have stop := closest_of_nearer rounds (2 ^ (format.fractionBits + 1))
  have top : multiple ≤ 2 ^ (format.fractionBits + 1) := by
    exact_mod_cast le_of_mul_le_mul_right (le_of_closer stop high) positive
  have bottom : binade = 0 ∨ 2 ^ format.fractionBits ≤ multiple := by
    refine low.imp_right fun enough => ?_
    exact_mod_cast le_of_mul_le_mul_right (ge_of_closer start enough) positive
  rw [mod_two_of_wide wide, format.value_grid binade top bottom, ← isUnit]
  rcases Nat.lt_or_ge (binade * 2 ^ format.fractionBits + 2 ^ (format.fractionBits + 1)) other with
    above | notAbove
  · have beyond := format.value_strictMono above
    rw [format.value_grid binade (Nat.le_refl _) (Or.inr (by omega)), ← isUnit] at beyond
    exact Or.inl (closer_of_beyond stop high beyond)
  rcases low with rfl | enough
  · have grid := format.value_grid 0 (show other ≤ 2 ^ (format.fractionBits + 1) by omega)
      (Or.inl rfl)
    rw [Nat.zero_mul, Nat.zero_add, ← isUnit] at grid
    rw [grid]
    exact rounds other (by omega)
  rcases Nat.lt_or_ge other (binade * 2 ^ format.fractionBits + 2 ^ format.fractionBits) with
    below | notBelow
  · have before := format.value_strictMono below
    rw [format.value_grid binade (by omega) (Or.inr (Nat.le_refl _)), ← isUnit] at before
    exact Or.inl (closer_of_before start enough before)
  · obtain ⟨another, rfl⟩ := Nat.exists_eq_add_of_le (show binade * 2 ^ format.fractionBits ≤ other
      by omega)
    rw [format.value_grid binade (by omega) (Or.inr (by omega)), ← isUnit]
    exact rounds another (by omega)

theorem nearest_infinity (reached : format.value format.infinity ≤ number) :
    format.Nearest number format.infinity := by
  refine ⟨Nat.le_refl _, fun other least differs => Or.inl ?_⟩
  have less := format.value_strictMono (Nat.lt_of_le_of_ne least differs)
  exact closer_of_before (le_refl _) reached less

theorem nearest_min {pattern : Nat}
    (nearer : ∀ other, other ≠ pattern →
      Nearer number (pattern % 2 = 0) (format.value pattern) (format.value other)) :
    format.Nearest number (min format.infinity pattern) := by
  rcases Nat.lt_or_ge format.infinity pattern with past | finite
  · rw [Nat.min_eq_left past.le]
    apply nearest_infinity
    have greater := format.value_strictMono past
    by_contra short
    have closer := (nearer _ past.ne).le
    rw [abs_of_pos (by linarith), abs_of_pos (by linarith)] at closer
    linarith
  · rw [Nat.min_eq_right finite]
    exact ⟨finite, fun other _ differs => nearer other differs⟩

theorem unscale_eq (numerator : Nat) {denominator : Nat} (positive : 0 < denominator)
    (exponent : Int) :
    0 < (unscale numerator denominator exponent).2 ∧
      ((unscale numerator denominator exponent).1 : ℚ) /
        (unscale numerator denominator exponent).2 * 2 ^ exponent = numerator / denominator := by
  have nonzero : (denominator : ℚ) ≠ 0 := by exact_mod_cast positive.ne'
  unfold unscale
  split
  · rename_i up
    refine ⟨Nat.mul_pos positive (Nat.two_pow_pos _), ?_⟩
    rw [zpow_of_nonneg up]
    push_cast
    field_simp
  · rename_i down
    refine ⟨positive, ?_⟩
    rw [zpow_of_neg (not_le.mp down)]
    push_cast
    field_simp

theorem unscale_div_lt_iff {numerator denominator bound : Nat} (positive : 0 < denominator)
    (exponent : Int) :
    (unscale numerator denominator exponent).1 / (unscale numerator denominator exponent).2 <
        bound ↔ (numerator : ℚ) / denominator < bound * 2 ^ exponent := by
  obtain ⟨divides, scaled⟩ := unscale_eq numerator positive exponent
  have power : (0 : ℚ) < 2 ^ exponent := by positivity
  have units : (0 : ℚ) < (unscale numerator denominator exponent).2 := by exact_mod_cast divides
  rw [← scaled, mul_lt_mul_iff_left₀ power, div_lt_iff₀ units, Nat.div_lt_iff_lt_mul divides]
  exact_mod_cast Iff.rfl

theorem log2_bounds {natural : Nat} (nonzero : natural ≠ 0) :
    (2 : ℚ) ^ (natural.log2 : Int) ≤ natural ∧ natural < (2 : ℚ) ^ (natural.log2 + 1 : Int) := by
  have lower := Nat.log2_self_le nonzero
  have upper := @Nat.lt_log2_self natural
  constructor
  · rw [zpow_natCast]
    exact_mod_cast lower
  · exact_mod_cast upper

theorem quotient_bounds {numerator denominator : Nat} (nonzero : numerator ≠ 0)
    (positive : 0 < denominator) :
    (2 : ℚ) ^ ((numerator.log2 : Int) - denominator.log2 - 1) < numerator / denominator ∧
      (numerator : ℚ) / denominator < 2 ^ ((numerator.log2 : Int) - denominator.log2 + 1) := by
  obtain ⟨numeratorLow, numeratorHigh⟩ := log2_bounds nonzero
  obtain ⟨denominatorLow, denominatorHigh⟩ := log2_bounds positive.ne'
  have units : (0 : ℚ) < denominator := by exact_mod_cast positive
  have power (exponent : Int) : (0 : ℚ) < 2 ^ exponent := by positivity
  rw [lt_div_iff₀ units, div_lt_iff₀ units]
  constructor
  · calc (2 : ℚ) ^ ((numerator.log2 : Int) - denominator.log2 - 1) * denominator
        < 2 ^ ((numerator.log2 : Int) - denominator.log2 - 1) * 2 ^ (denominator.log2 + 1 : Int) :=
          mul_lt_mul_of_pos_left denominatorHigh (power _)
      _ = 2 ^ (numerator.log2 : Int) := by
          rw [← zpow_add₀ (by norm_num)]
          congr 1
          ring
      _ ≤ numerator := numeratorLow
  · calc (numerator : ℚ) < 2 ^ (numerator.log2 + 1 : Int) := numeratorHigh
      _ = 2 ^ ((numerator.log2 : Int) - denominator.log2 + 1) * 2 ^ (denominator.log2 : Int) := by
          rw [← zpow_add₀ (by norm_num)]
          congr 1
          ring
      _ ≤ 2 ^ ((numerator.log2 : Int) - denominator.log2 + 1) * denominator :=
          mul_le_mul_of_nonneg_left denominatorLow (power _).le

def normalExponent (format : BinaryFormat) (numerator denominator : Nat) : Int :=
  let estimate : Int := numerator.log2 - denominator.log2 - format.fractionBits - 1
  let scaled := unscale numerator denominator estimate
  if scaled.1 / scaled.2 < 2 ^ (format.fractionBits + 1) then estimate else estimate + 1

theorem normalExponent_bounds (format : BinaryFormat) {numerator denominator : Nat}
    (nonzero : numerator ≠ 0) (positive : 0 < denominator) :
    ((2 ^ format.fractionBits : Nat) : ℚ) * 2 ^ format.normalExponent numerator denominator ≤
        numerator / denominator ∧
      (numerator : ℚ) / denominator ≤ ((2 ^ (format.fractionBits + 1) : Nat) : ℚ) *
        2 ^ format.normalExponent numerator denominator := by
  obtain ⟨low, high⟩ := quotient_bounds nonzero positive
  unfold normalExponent
  generalize placed : (numerator.log2 : Int) - denominator.log2 - format.fractionBits - 1 = estimate
  have bits (more : Int) : (2 : ℚ) ^ format.fractionBits * 2 ^ (estimate + more) =
      2 ^ ((numerator.log2 : Int) - denominator.log2 - 1 + more) := by
    rw [← zpow_natCast, ← zpow_add₀ (by norm_num)]
    congr 1
    omega
  -- The quotient lies in the binade of the estimate or in the next one.
  have lowest := bits 0
  have highest := bits 2
  rw [add_zero, add_zero] at lowest
  rw [show (numerator.log2 : Int) - denominator.log2 - 1 + 2 =
    numerator.log2 - denominator.log2 + 1 by ring] at highest
  rw [← lowest] at low
  rw [← highest, zpow_add₀ (by norm_num)] at high
  simp only [unscale_div_lt_iff positive]
  push_cast
  rw [pow_succ]
  split
  · rename_i fits
    exact ⟨low.le, fits.le⟩
  · rename_i wide
    rw [zpow_add₀ (by norm_num), zpow_one]
    constructor <;> linarith

theorem ofRatio_eq {numerator : Nat} (nonzero : numerator ≠ 0) (denominator : Nat) :
    format.ofRatio numerator denominator =
      let exponent := max format.leastExponent (format.normalExponent numerator denominator)
      let scaled := unscale numerator denominator exponent
      min format.infinity ((exponent - format.leastExponent).toNat * 2 ^ format.fractionBits +
        roundDiv scaled.1 scaled.2) := by
  unfold ofRatio
  rw [if_neg nonzero]
  rfl

theorem nearest_zero (least : 2 * number ≤ format.value 1) (positive : 0 ≤ number) :
    format.Nearest number 0 := by
  refine ⟨Nat.zero_le _, fun other _ nonzero => ?_⟩
  have atLeast : format.value 1 ≤ format.value other :=
    format.value_strictMono.monotone (Nat.one_le_iff_ne_zero.mpr nonzero)
  have none : format.value 0 = 0 := by simp [value, steps]
  rw [Nearer, none, zero_sub, abs_neg, abs_of_nonneg positive,
    abs_of_nonneg (by linarith)]
  rcases lt_or_eq_of_le (show number ≤ format.value other - number by linarith) with less | same
  · exact Or.inl less
  · exact Or.inr ⟨same, rfl⟩

/-- The pattern of a quotient is that of the nearest number. -/
theorem ofRatio_nearest (wide : 0 < format.fractionBits) (numerator : Nat) {denominator : Nat}
    (positive : 0 < denominator) :
    format.Nearest (numerator / denominator) (format.ofRatio numerator denominator) := by
  by_cases zero : numerator = 0
  · subst zero
    simpa [ofRatio] using nearest_zero (by simpa using format.value_nonneg 1) (le_refl (0 : ℚ))
  · obtain ⟨low, high⟩ := format.normalExponent_bounds zero positive
    rw [ofRatio_eq zero]
    generalize format.normalExponent numerator denominator = normal at *
    dsimp only
    generalize raised : max format.leastExponent normal = exponent
    obtain ⟨divides, scaled⟩ := unscale_eq numerator positive exponent
    have unit : (0 : ℚ) < 2 ^ exponent := by positivity
    have placed : exponent =
        format.leastExponent + ((exponent - format.leastExponent).toNat : Int) := by omega
    apply nearest_min
    intro other differs
    refine nearer_of_multiple wide (congrArg _ placed) ?_ ?_ ?_ differs
    · intro multiple unequal
      rw [← scaled]
      exact (roundDiv_nearer divides unequal).mul_right unit
    · rcases lt_or_ge format.leastExponent exponent with normalized | subnormal
      · refine Or.inr ?_
        rwa [show exponent = normal by omega]
      · exact Or.inl (by omega)
    · refine high.trans (mul_le_mul_of_nonneg_left ?_ (by positivity))
      exact zpow_le_zpow_right₀ (by norm_num) (by omega)

theorem Nearest.not_lt {pattern other : Nat} (nearest : format.Nearest number pattern)
    (nearestToo : format.Nearest number other) : ¬ pattern < other := by
  intro less
  have greater := format.value_strictMono less
  -- Both are as near, so both are even, and there is a pattern between them, which is nearer.
  rcases nearest.nearer other nearestToo.le_infinity less.ne' with closer | ⟨same, even⟩
  · exact absurd (nearestToo.nearer pattern nearest.le_infinity less.ne).le (not_le.mpr closer)
  · rcases nearestToo.nearer pattern nearest.le_infinity less.ne with closer | ⟨_, evenToo⟩
    · exact absurd same closer.ne'
    · have between : pattern + 1 < other := by omega
      have above := format.value_strictMono (Nat.lt_succ_self pattern)
      have below := format.value_strictMono between
      have next := (nearest.nearer (pattern + 1)
        (Nat.le_of_lt (Nat.lt_of_lt_of_le between nearestToo.le_infinity)) (by omega)).le
      exact absurd next (not_le.mpr (closer_of_between same above below))

theorem Nearest.unique {pattern other : Nat} (nearest : format.Nearest number pattern)
    (nearestToo : format.Nearest number other) : pattern = other :=
  Nat.le_antisymm (Nat.not_lt.mp (nearestToo.not_lt nearest))
    (Nat.not_lt.mp (nearest.not_lt nearestToo))

theorem Nearest.value_eq {pattern exact : Nat}
    (nearest : format.Nearest (format.value exact) pattern) (finite : exact ≤ format.infinity) :
    pattern = exact := by
  by_contra differs
  have closer := (nearest.nearer exact finite (Ne.symm differs)).le
  rw [sub_self, abs_zero] at closer
  exact differs (format.value_strictMono.injective (sub_eq_zero.mp (abs_nonpos_iff.mp closer)))

theorem value_toRatio (format : BinaryFormat) (pattern : Nat) :
    0 < (format.toRatio pattern).2 ∧
      ((format.toRatio pattern).1 : ℚ) / (format.toRatio pattern).2 = format.value pattern := by
  have told : format.value pattern =
      (format.significand pattern).1 * 2 ^ (format.significand pattern).2 := by
    unfold value steps significand
    dsimp only
    split
    · rfl
    · rename_i normal
      generalize pattern / 2 ^ format.fractionBits = biased at *
      rw [show format.leastExponent + biased - 1 = format.leastExponent + (biased - 1 : Nat) by
        omega, zpow_add₀ (by norm_num), zpow_natCast]
      push_cast
      ring
  rw [told]
  unfold toRatio
  generalize format.significand pattern = product
  dsimp only
  split
  · rename_i up
    refine ⟨Nat.one_pos, ?_⟩
    rw [zpow_of_nonneg up]
    push_cast
    rw [div_one]
  · rename_i down
    refine ⟨Nat.two_pow_pos _, ?_⟩
    rw [zpow_of_neg (not_le.mp down)]
    push_cast
    rfl

theorem lt_signBit {pattern : Nat} (finite : pattern < format.infinity) :
    pattern < format.signBit := by
  refine finite.trans ?_
  unfold infinity signBit
  rw [Nat.pow_add]
  exact Nat.mul_lt_mul_of_pos_right (Nat.pred_lt (Nat.two_pow_pos _).ne') (Nat.two_pow_pos _)

theorem convert_nearest {target : BinaryFormat} (wide : 0 < target.fractionBits) {pattern : Nat}
    (finite : pattern < format.infinity) :
    target.Nearest (format.value pattern) (format.convert target pattern) := by
  obtain ⟨positive, same⟩ := format.value_toRatio pattern
  unfold convert
  rw [if_neg (Nat.not_le.mpr (lt_signBit finite)), Nat.mod_eq_of_lt (lt_signBit finite),
    if_pos finite]
  simpa [← same] using ofRatio_nearest wide (format.toRatio pattern).1 positive

theorem exists_steps_eq (format : BinaryFormat) {significand : Nat} (exponent : Nat)
    (short : significand < 2 ^ (format.fractionBits + 1)) :
    ∃ pattern, format.steps pattern = significand * 2 ^ exponent := by
  induction exponent generalizing significand with
  | zero =>
      have grid := format.steps_grid 0 short.le (Or.inl rfl)
      exact ⟨_, grid⟩
  | succ exponent ih =>
      rcases Nat.lt_or_ge significand (2 ^ format.fractionBits) with small | large
      · have double : 2 * significand < 2 ^ (format.fractionBits + 1) := by
          rw [Nat.pow_succ]
          omega
        obtain ⟨pattern, same⟩ := ih double
        refine ⟨pattern, same.trans ?_⟩
        rw [Nat.pow_succ]
        ring
      · exact ⟨_, format.steps_grid (exponent + 1) short.le (Or.inr large)⟩

theorem exists_significand (format : BinaryFormat) (pattern : Nat) :
    ∃ significand exponent, significand < 2 ^ (format.fractionBits + 1) ∧
      format.steps pattern = significand * 2 ^ exponent := by
  have small := Nat.mod_lt pattern (Nat.two_pow_pos format.fractionBits)
  unfold steps
  dsimp only
  split
  · refine ⟨pattern % 2 ^ format.fractionBits, 0, ?_, by rw [Nat.pow_zero, Nat.mul_one]⟩
    rw [Nat.pow_succ]
    omega
  · refine ⟨2 ^ format.fractionBits + pattern % 2 ^ format.fractionBits, _, ?_, rfl⟩
    rw [Nat.pow_succ]
    omega

/-- A number keeps its value in a format that has as many bits and as wide a range. -/
theorem value_convert {target : BinaryFormat} (wide : 0 < target.fractionBits)
    (longer : format.fractionBits ≤ target.fractionBits)
    (lower : target.leastExponent ≤ format.leastExponent)
    (higher : format.value format.infinity ≤ target.value target.infinity) {pattern : Nat}
    (finite : pattern < format.infinity) :
    target.value (format.convert target pattern) = format.value pattern := by
  obtain ⟨significand, exponent, short, steps⟩ := format.exists_significand pattern
  obtain ⟨exact, same⟩ := target.exists_steps_eq
    (exponent + (format.leastExponent - target.leastExponent).toNat)
    (short.trans_le (Nat.pow_le_pow_right (by decide) (by omega)))
  have values : target.value exact = format.value pattern := by
    have unit : (2 : ℚ) ^ format.leastExponent =
        2 ^ (format.leastExponent - target.leastExponent).toNat * 2 ^ target.leastExponent := by
      rw [← zpow_of_nonneg (by omega), ← zpow_add₀ (by norm_num), sub_add_cancel]
    rw [value, value, same, steps, unit, Nat.pow_add]
    push_cast
    ring
  have representable : exact ≤ target.infinity := by
    by_contra past
    have beyond := target.value_strictMono (Nat.not_le.mp past)
    have before := format.value_strictMono finite
    linarith
  have nearest := convert_nearest wide finite
  rw [← values] at nearest ⊢
  rw [nearest.value_eq representable]

theorem convert_signBit_add {target : BinaryFormat} {pattern : Nat}
    (unsigned : pattern < format.signBit) :
    format.convert target (format.signBit + pattern) =
      target.signBit + format.convert target pattern := by
  unfold convert
  rw [if_pos (Nat.le_add_right _ _), if_neg (Nat.not_le.mpr unsigned), Nat.add_mod_left]
  dsimp only
  split
  · rw [Nat.zero_add]
  · split <;> omega

theorem value_infinity (sign : 0 < format.exponentBits) :
    format.value format.infinity = 2 ^ 2 ^ (format.exponentBits - 1) := by
  have halves : 2 ^ format.exponentBits = 2 * 2 ^ (format.exponentBits - 1) := by
    rw [Nat.mul_comm, ← Nat.pow_succ, Nat.succ_eq_add_one, Nat.sub_add_cancel sign]
  have half : 0 < 2 ^ (format.exponentBits - 1) := Nat.two_pow_pos _
  have least : format.leastExponent =
      2 - (2 ^ (format.exponentBits - 1) : Nat) - format.fractionBits := by
    rw [leastExponent]
    push_cast
    rfl
  have first := format.steps_add (2 * 2 ^ (format.exponentBits - 1) - 2)
    (Nat.two_pow_pos _)
  rw [Nat.add_zero, Nat.add_zero, show 2 * 2 ^ (format.exponentBits - 1) - 2 + 1 =
    2 ^ format.exponentBits - 1 by omega] at first
  rw [value, infinity, first, least]
  generalize 2 ^ (format.exponentBits - 1) = emax at *
  push_cast
  rw [add_zero, ← zpow_natCast, ← zpow_natCast, ← zpow_add₀ (by norm_num),
    ← zpow_add₀ (by norm_num), ← zpow_natCast]
  congr 1
  omega

/-- The number that a pattern with its sign stands for. -/
def signedValue (format : BinaryFormat) (pattern : Nat) : ℚ :=
  if format.signBit ≤ pattern then -format.value (pattern - format.signBit)
  else format.value pattern

end BinaryFormat

/-- Of two floats the one with the smaller number comes first in the total order. -/
theorem totalOrderKey_lt {first second : UInt64}
    (less : binary64.signedValue first.toNat < binary64.signedValue second.toNat) :
    totalOrderKey first < totalOrderKey second := by
  have firstFits := first.toNat_lt
  have secondFits := second.toNat_lt
  have signBit : binary64.signBit = 2 ^ 63 := rfl
  unfold BinaryFormat.signedValue at less
  unfold totalOrderKey
  rw [signBit] at less
  by_cases firstSign : 2 ^ 63 ≤ first.toNat <;> by_cases secondSign : 2 ^ 63 ≤ second.toNat
  · rw [if_pos firstSign, if_pos secondSign, neg_lt_neg_iff,
      binary64.value_strictMono.lt_iff_lt] at less
    rw [if_neg (by omega), if_neg (by omega)]
    omega
  · rw [if_neg (by omega), if_pos (by omega)]
    omega
  · rw [if_neg firstSign, if_pos secondSign] at less
    have above := binary64.value_nonneg first.toNat
    have below := binary64.value_nonneg (second.toNat - 2 ^ 63)
    linarith
  · rw [if_neg firstSign, if_neg secondSign, binary64.value_strictMono.lt_iff_lt] at less
    rw [if_pos (by omega), if_pos (by omega)]
    omega

end ColumnChecks.Number
