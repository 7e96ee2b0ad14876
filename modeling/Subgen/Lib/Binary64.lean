import Mathlib.Data.Int.ConditionallyCompleteOrder
import Mathlib.Data.Int.Log
import Mathlib.Data.Rat.Floor
import Mathlib.Tactic.Linarith
import Mathlib.Tactic.NormNum
import Mathlib.Tactic.Positivity
import Mathlib.Tactic.Ring

/-!
# Rounding to binary64

What the operations of IEEE 754 return in the range of the normal numbers: the exact result, rounded to the
nearest number with 53 binary digits, and of two such numbers to the one that ends with a zero. An overflow
and the numbers below the normal ones are left out.

* `roundEven`: the nearest integer;
* `nearest`: the nearest number;
* `Binade.int_le_nearest_iff`: when an integer is not above what a number is rounded to;
* `nearest_mono`, `nearest_nearest` and `nearest_two_mul`: rounding keeps the order, leaves a number with 53
  binary digits as it is, and commutes with a doubling.
-/

namespace Subgen.Binary64

/-- The nearest integer, and of two the even one. -/
def roundEven (q : ℚ) : ℤ :=
  let n := ⌊q⌋
  if q - n < 1 / 2 ∨ q - n = 1 / 2 ∧ n % 2 = 0 then n else n + 1

/-- The nearest binary64 number. -/
def nearest (q : ℚ) : ℚ :=
  if q = 0 then 0
  else
    let unit := (2 : ℚ) ^ (Int.log 2 |q| - 52)
    roundEven (q / unit) * unit

/-! ## Integers -/

variable {q : ℚ}

theorem abs_roundEven_sub_le (q : ℚ) : |roundEven q - q| ≤ 1 / 2 := by
  have hle := Int.floor_le q
  have hlt := Int.lt_floor_add_one q
  rw [roundEven, abs_le]
  split_ifs with hdown
  · have hhalf : q - ⌊q⌋ ≤ 1 / 2 := by
      rcases hdown with h | ⟨h, -⟩
      · exact h.le
      · exact h.le
    constructor <;> linarith
  · have hhalf : 1 / 2 ≤ q - ⌊q⌋ := not_lt.1 fun h => hdown (.inl h)
    push_cast
    constructor <;> linarith

/-- Below the middle, the lower of two neighbours is the nearest. -/
theorem roundEven_of_lt {n : ℤ} (hle : n ≤ q) (hlt : q < n + 1 / 2) : roundEven q = n := by
  have hfloor : ⌊q⌋ = n := Int.floor_eq_iff.2 ⟨hle, by linarith⟩
  rw [roundEven, hfloor]
  exact if_pos (.inl (by linarith))

theorem roundEven_of_gt {n : ℤ} (hlt : n + 1 / 2 < q) (hle : q < n + 1) : roundEven q = n + 1 := by
  have hfloor : ⌊q⌋ = n := Int.floor_eq_iff.2 ⟨by linarith, hle⟩
  rw [roundEven, hfloor]
  refine if_neg fun h => ?_
  rcases h with h | ⟨h, -⟩ <;> linarith

/-- An integer is not above the nearest one if it is not above the number. -/
theorem le_roundEven {n : ℤ} (h : n ≤ q) : n ≤ roundEven q := by
  have hfloor := Int.le_floor.2 h
  rw [roundEven]
  split_ifs <;> omega

theorem roundEven_intCast (n : ℤ) : roundEven n = n :=
  roundEven_of_lt le_rfl (by linarith)

theorem roundEven_mono : Monotone roundEven := by
  intro q r hqr
  rcases (Int.floor_mono hqr).lt_or_eq with hlt | heq
  · -- The integers below the two differ, and the lower number is rounded at most to the upper one.
    have hle : roundEven q ≤ ⌊q⌋ + 1 := by
      rw [roundEven]
      split_ifs <;> omega
    exact hle.trans (hlt.trans_le (le_roundEven (Int.floor_le r)))
  · rw [roundEven, roundEven, heq]
    split_ifs with hq hr hr
    · exact le_rfl
    · omega
    · refine absurd ?_ hq
      rcases hr with hr | ⟨hr, heven⟩
      · exact .inl (by linarith)
      · rcases hqr.lt_or_eq with hlt | rfl
        · exact .inl (by linarith)
        · exact .inr ⟨hr, heven⟩
    · exact le_rfl

/-- The nearest integer does not depend on the sign, nor does which of two is even. -/
theorem roundEven_neg (q : ℚ) : roundEven (-q) = -roundEven q := by
  have hle := Int.floor_le q
  have hlt := Int.lt_floor_add_one q
  rcases hle.eq_or_lt with hint | hbetween
  · rw [← hint, ← Int.cast_neg, roundEven_intCast, roundEven_intCast]
  · have hfloor : ⌊-q⌋ = -⌊q⌋ - 1 := by
      rw [Int.floor_eq_iff]
      push_cast
      constructor <;> linarith
    rw [roundEven, roundEven, hfloor]
    push_cast
    split_ifs with hup hdown hdown
    · rcases hup with hup | ⟨hup, heven⟩ <;> rcases hdown with hdown | ⟨hdown, heven'⟩
      · linarith
      · linarith
      · linarith
      · omega
    · omega
    · omega
    · -- Neither is below its middle, so that both are in it, and one of the two is even.
      have hq : q - ⌊q⌋ = 1 / 2 := by
        rw [not_or] at hup hdown
        linarith [hup.1, hdown.1]
      refine absurd (Or.inr ⟨hq, ?_⟩) hdown
      by_contra hodd
      refine hup (.inr ⟨by linarith, by omega⟩)

/-- An even integer gets what is in the middle between it and the one below. -/
theorem even_le_roundEven_iff {n : ℤ} (heven : n % 2 = 0) : n ≤ roundEven q ↔ n - 1 / 2 ≤ q := by
  constructor
  · intro h
    have habs := (abs_le.1 (abs_roundEven_sub_le q)).2
    have hcast : (n : ℚ) ≤ roundEven q := by exact_mod_cast h
    linarith
  · intro h
    by_cases hle : n ≤ q
    · exact le_roundEven hle
    · -- The number is in the upper half between the integer below and the even one.
      have hfloor : ⌊q⌋ = n - 1 := by
        rw [Int.floor_eq_iff]
        push_cast
        constructor <;> linarith
      rw [roundEven, hfloor]
      rw [if_neg]
      · omega
      · rintro (hlt | ⟨-, hodd⟩)
        · push_cast at hlt
          linarith
        · omega

/-! ## Numbers between two powers of two -/

theorem power_pos (e : ℤ) : (0 : ℚ) < (2 : ℚ) ^ e := zpow_pos two_pos e

/-- A number between two powers of two. -/
structure Binade (e : ℤ) (q : ℚ) : Prop where
  le : (2 : ℚ) ^ e ≤ q
  lt : q < (2 : ℚ) ^ (e + 1)

theorem Binade.pos {e : ℤ} (h : Binade e q) : 0 < q := (power_pos e).trans_le h.le

theorem binade_log (h : 0 < q) : Binade (Int.log 2 q) q :=
  ⟨by exact_mod_cast Int.zpow_log_le_self one_lt_two h, by exact_mod_cast Int.lt_zpow_succ_log_self one_lt_two q⟩

theorem Binade.log_eq {e : ℤ} (h : Binade e q) : Int.log 2 |q| = e := by
  rw [abs_of_pos h.pos]
  have hle : e ≤ Int.log 2 q := (Int.zpow_le_iff_le_log one_lt_two h.pos).1 (by exact_mod_cast h.le)
  have hlt : Int.log 2 q < e + 1 := (Int.lt_zpow_iff_log_lt one_lt_two h.pos).1 (by exact_mod_cast h.lt)
  omega

/-- Between two powers of two, the numbers are the multiples of one unit. -/
theorem Binade.nearest_eq {e : ℤ} (h : Binade e q) :
    nearest q = roundEven (q / (2 : ℚ) ^ (e - 52)) * (2 : ℚ) ^ (e - 52) := by
  rw [nearest, if_neg h.pos.ne']
  dsimp only
  rw [h.log_eq]

/-- The error is at most half of the unit. -/
theorem Binade.abs_nearest_sub_le {e : ℤ} (h : Binade e q) : |nearest q - q| ≤ (2 : ℚ) ^ (e - 53) := by
  have hunit := power_pos (e - 52)
  have herror := mul_le_mul_of_nonneg_right (abs_roundEven_sub_le (q / (2 : ℚ) ^ (e - 52))) hunit.le
  have hhalf : 1 / 2 * (2 : ℚ) ^ (e - 52) = (2 : ℚ) ^ (e - 53) := by
    rw [show e - 52 = e - 53 + 1 by ring, zpow_add_one₀ two_ne_zero]
    ring
  rw [hhalf] at herror
  rw [h.nearest_eq]
  calc |roundEven (q / (2 : ℚ) ^ (e - 52)) * (2 : ℚ) ^ (e - 52) - q|
      = |roundEven (q / (2 : ℚ) ^ (e - 52)) - q / (2 : ℚ) ^ (e - 52)| * (2 : ℚ) ^ (e - 52) := by
        rw [← abs_of_pos hunit, ← abs_mul, abs_of_pos hunit, sub_mul, div_mul_cancel₀ q hunit.ne']
    _ ≤ (2 : ℚ) ^ (e - 53) := herror

/-! ## Order -/

@[simp] theorem nearest_zero : nearest 0 = 0 := if_pos rfl

theorem nearest_neg (q : ℚ) : nearest (-q) = -nearest q := by
  rw [nearest, nearest]
  by_cases hq : q = 0
  · rw [hq, neg_zero, if_pos rfl, neg_zero]
  · rw [if_neg (neg_ne_zero.2 hq), if_neg hq]
    dsimp only
    rw [abs_neg, neg_div, roundEven_neg]
    push_cast
    ring

/-- Twice a number has twice the unit. -/
theorem nearest_two_mul (q : ℚ) : nearest (2 * q) = 2 * nearest q := by
  rw [nearest, nearest]
  by_cases hq : q = 0
  · rw [hq, mul_zero, if_pos rfl, mul_zero]
  · have hbinade := binade_log (abs_pos.2 hq)
    have htwo : Int.log 2 |2 * q| = Int.log 2 |q| + 1 := by
      have hdouble : Binade (Int.log 2 |q| + 1) |2 * q| := by
        rw [abs_mul, abs_two]
        constructor
        · rw [zpow_add_one₀ two_ne_zero]
          linarith [hbinade.le]
        · rw [zpow_add_one₀ two_ne_zero]
          linarith [hbinade.lt]
      simpa only [abs_abs] using hdouble.log_eq
    rw [if_neg (mul_ne_zero two_ne_zero hq), if_neg hq]
    dsimp only
    rw [htwo, show Int.log 2 |q| + 1 - 52 = Int.log 2 |q| - 52 + 1 by ring, zpow_add_one₀ two_ne_zero,
      mul_comm ((2 : ℚ) ^ _) 2, mul_div_mul_left q _ two_ne_zero]
    ring

/-- The powers of two at the ends of a binade are multiples of its unit. -/
theorem power_eq_units (e : ℤ) (n : ℕ) : (2 : ℚ) ^ (e + n) = ((2 ^ n : ℤ) : ℚ) * (2 : ℚ) ^ e := by
  push_cast
  rw [zpow_add₀ two_ne_zero, zpow_natCast, mul_comm]

/-- Rounding does not leave the closed binade. -/
theorem Binade.nearest_mem {e : ℤ} (h : Binade e q) :
    (2 : ℚ) ^ e ≤ nearest q ∧ nearest q ≤ (2 : ℚ) ^ (e + 1) := by
  have hunit := power_pos (e - 52)
  have hlow : (2 : ℚ) ^ e = ((2 ^ 52 : ℤ) : ℚ) * (2 : ℚ) ^ (e - 52) := by
    rw [← power_eq_units]
    norm_num
  have hhigh : (2 : ℚ) ^ (e + 1) = ((2 ^ 53 : ℤ) : ℚ) * (2 : ℚ) ^ (e - 52) := by
    rw [← power_eq_units]
    congr 1
    push_cast
    ring
  rw [h.nearest_eq]
  constructor
  · rw [hlow]
    refine mul_le_mul_of_nonneg_right (Int.cast_le.2 (le_roundEven ?_)) hunit.le
    rw [le_div_iff₀ hunit, ← hlow]
    exact h.le
  · rw [hhigh]
    refine mul_le_mul_of_nonneg_right (Int.cast_le.2 ?_) hunit.le
    rw [← roundEven_intCast (2 ^ 53)]
    refine roundEven_mono ?_
    rw [div_le_iff₀ hunit, ← hhigh]
    exact h.lt.le

theorem nearest_pos (h : 0 < q) : 0 < nearest q :=
  (power_pos _).trans_le (binade_log h).nearest_mem.1

/-- Of two positive numbers in one binade the units agree; between two binades is a power of two. -/
theorem nearest_le_of_pos {r : ℚ} (hq : 0 < q) (hqr : q ≤ r) : nearest q ≤ nearest r := by
  have hbinade := binade_log hq
  have hbinade' := binade_log (hq.trans_le hqr)
  rcases (Int.log_mono_right hq hqr : Int.log 2 q ≤ Int.log 2 r).lt_or_eq with hlt | heq
  · calc nearest q ≤ (2 : ℚ) ^ (Int.log 2 q + 1) := hbinade.nearest_mem.2
      _ ≤ (2 : ℚ) ^ Int.log 2 r := zpow_le_zpow_right₀ one_le_two hlt
      _ ≤ nearest r := hbinade'.nearest_mem.1
  · rw [hbinade.nearest_eq, hbinade'.nearest_eq, heq]
    have hunit := power_pos (Int.log 2 r - 52)
    exact mul_le_mul_of_nonneg_right
      (Int.cast_le.2 (roundEven_mono (div_le_div_of_nonneg_right hqr hunit.le))) hunit.le

theorem nearest_mono : Monotone nearest := by
  intro q r hqr
  rcases lt_trichotomy q 0 with hq | rfl | hq
  · rcases lt_or_ge r 0 with hr | hr
    · have hneg := nearest_le_of_pos (neg_pos.2 hr) (neg_le_neg hqr)
      rw [nearest_neg, nearest_neg] at hneg
      linarith
    · have hneg := nearest_pos (neg_pos.2 hq)
      rw [nearest_neg] at hneg
      rcases hr.eq_or_lt with rfl | hr
      · rw [nearest_zero]
        linarith
      · linarith [nearest_pos hr]
  · rcases hqr.eq_or_lt with rfl | hr
    · exact le_rfl
    · rw [nearest_zero]
      exact (nearest_pos hr).le
  · exact nearest_le_of_pos hq hqr

/-- A number whose quotient by its unit is an integer is not rounded. -/
theorem Binade.nearest_of_units {e : ℤ} (h : Binade e q) {k : ℤ} (hk : q = k * (2 : ℚ) ^ (e - 52)) :
    nearest q = q := by
  have hunit := (power_pos (e - 52)).ne'
  have hquotient : q / (2 : ℚ) ^ (e - 52) = k := by rw [hk, mul_div_cancel_right₀ _ hunit]
  rw [h.nearest_eq, hquotient, roundEven_intCast, ← hk]

theorem nearest_nearest_of_pos (hq : 0 < q) : nearest (nearest q) = nearest q := by
  have hbinade := binade_log hq
  obtain ⟨hle, hlt⟩ := hbinade.nearest_mem
  rcases hlt.lt_or_eq with hlt | hcarry
  · exact Binade.nearest_of_units ⟨hle, hlt⟩ hbinade.nearest_eq
  · -- The next power of two: its own unit is twice as large, and goes into it as often as into any other.
    have hpower : Binade (Int.log 2 q + 1) (nearest q) := by
      rw [hcarry]
      exact ⟨le_rfl, zpow_lt_zpow_right₀ one_lt_two (lt_add_one _)⟩
    refine hpower.nearest_of_units (k := 2 ^ 52) ?_
    rw [hcarry, ← power_eq_units]
    congr 1
    push_cast
    ring

/-- What was rounded once is not rounded again. -/
theorem nearest_nearest (q : ℚ) : nearest (nearest q) = nearest q := by
  rcases lt_trichotomy q 0 with hq | rfl | hq
  · have hneg := nearest_nearest_of_pos (neg_pos.2 hq)
    rw [nearest_neg, nearest_neg, neg_inj] at hneg
    exact hneg
  · rw [nearest_zero, nearest_zero]
  · exact nearest_nearest_of_pos hq

/-! ## Integers among the numbers -/

/-- An integer as a number of units. -/
theorem int_div_unit {e : ℤ} (he : e ≤ 52) (k : ℤ) :
    (k : ℚ) / (2 : ℚ) ^ (e - 52) = ((k * 2 ^ (52 - e).toNat : ℤ) : ℚ) := by
  have hexponent : (2 : ℚ) ^ (e - 52) * (2 : ℚ) ^ (52 - e).toNat = 1 := by
    rw [← zpow_natCast, ← zpow_add₀ two_ne_zero, Int.toNat_of_nonneg (by omega),
      show e - 52 + (52 - e) = 0 by ring, zpow_zero]
  push_cast
  rw [div_eq_iff (power_pos _).ne', mul_assoc, mul_comm ((2 : ℚ) ^ (52 - e).toNat), hexponent, mul_one]

/-- What is not below an integer is not rounded to less. -/
theorem Binade.int_le_nearest {e : ℤ} (h : Binade e q) (he : e ≤ 52) {k : ℤ} (hk : k ≤ q) : k ≤ nearest q := by
  have hunit := power_pos (e - 52)
  have hunits : ((k * 2 ^ (52 - e).toNat : ℤ) : ℚ) ≤ q / (2 : ℚ) ^ (e - 52) := by
    rw [← int_div_unit he]
    exact div_le_div_of_nonneg_right hk hunit.le
  rw [h.nearest_eq, ← div_le_iff₀ hunit, int_div_unit he]
  exact Int.cast_le.2 (le_roundEven hunits)

/-- An integer is not above what a number is rounded to iff it is above the number by at most half of
    the unit. -/
theorem Binade.int_le_nearest_iff {e : ℤ} (h : Binade e q) (he : e ≤ 51) (k : ℤ) :
    k ≤ nearest q ↔ k - (2 : ℚ) ^ (e - 53) ≤ q := by
  have hunit := power_pos (e - 52)
  have hhalf : (2 : ℚ) ^ (e - 53) = 1 / 2 * (2 : ℚ) ^ (e - 52) := by
    rw [show e - 52 = e - 53 + 1 by ring, zpow_add_one₀ two_ne_zero]
    ring
  have heven : (k * 2 ^ (52 - e).toNat) % 2 = 0 := by
    obtain ⟨m, hm⟩ : ∃ m, (52 - e).toNat = m + 1 := ⟨(52 - e).toNat - 1, by omega⟩
    rw [hm, pow_succ, ← mul_assoc]
    exact Int.mul_emod_left _ _
  rw [h.nearest_eq, ← div_le_iff₀ hunit, int_div_unit (by omega), Int.cast_le, even_le_roundEven_iff heven,
    ← int_div_unit (by omega), le_div_iff₀ hunit, sub_mul, div_mul_cancel₀ _ hunit.ne', hhalf]

end Subgen.Binary64
