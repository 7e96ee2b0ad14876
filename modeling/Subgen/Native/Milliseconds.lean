import Subgen.Lib.Binary64
import Mathlib.Data.Nat.Log
import Mathlib.Tactic.FieldSimp

/-!
# Seconds and milliseconds

The duration of some audio samples is divided to seconds, and multiplied back to milliseconds where it is
compared with a cue; each operation rounds. For a whole number of milliseconds the product can be below that
number: `le_durationMs_iff` says when it is.

The arithmetic is that of binary64 (`Binary64.nearest`), for up to `maxFrames` samples, which is what the worker
takes. Sixteen samples are a millisecond, so the quotient is a number of milliseconds divided by 1000 and
rounded, and the product rounds once more. It is below the number exactly when the first rounding was down, and
far enough. Whether that is so depends on the remainder that the quotient leaves behind its 53 digits and on
the binades of the two numbers, which is what `RoundsBelow` says; it can be decided for a given number.
-/

namespace Subgen

open Binary64

/-- `SAMPLE_RATE`. -/
def sampleRate : ℕ := 16000

/-- `frames / SAMPLE_RATE`. -/
def audioSeconds (frames : ℕ) : ℚ := nearest (frames / sampleRate)

/-- `duration_seconds * 1000`. -/
def durationMs (seconds : ℚ) : ℚ := nearest (seconds * 1000)

/-- The samples are a whole number of milliseconds, whose seconds are nearly a power of two, and of which the
    part behind the 53 digits is so much that the product loses a digit. -/
def RoundsBelow (frames : ℕ) : Prop :=
  let ms := frames / 16
  16 ∣ frames ∧ 1000 * 2 ^ Nat.log 2 ms ≤ ms * 2 ^ 9 ∧
    256 < ms * 2 ^ (61 - Nat.log 2 ms) % 1000 ∧ ms * 2 ^ (61 - Nat.log 2 ms) % 1000 < 500

instance (frames : ℕ) : Decidable (RoundsBelow frames) := inferInstanceAs (Decidable (_ ∧ _ ∧ _ ∧ _))

/-- The seconds of some milliseconds, as a whole number of the smallest units. -/
theorem nearest_seconds {ms s : ℕ} (h : Binade (52 - s : ℤ) (ms / 1000)) :
    nearest (ms / 1000) = roundEven ((ms * 2 ^ s : ℕ) / 1000) / 2 ^ s := by
  have hunit : (2 : ℚ) ^ ((52 - s : ℤ) - 52) = ((2 : ℚ) ^ s)⁻¹ := by
    rw [show (52 - s : ℤ) - 52 = -(s : ℤ) by ring, zpow_neg, zpow_natCast]
  rw [h.nearest_eq, hunit, div_inv_eq_mul, ← div_eq_mul_inv]
  congr 3
  push_cast
  ring

/-- What the rounding of the quotient leaves. -/
def remainder (ms s : ℕ) : ℤ := ms * 2 ^ s - 1000 * roundEven ((ms * 2 ^ s : ℕ) / 1000)

theorem abs_remainder_le (ms s : ℕ) : |remainder ms s| ≤ 500 := by
  have h := abs_roundEven_sub_le ((ms * 2 ^ s : ℕ) / 1000)
  have hcast : |((remainder ms s : ℤ) : ℚ)| ≤ 500 := by
    rw [remainder, abs_le] at *
    push_cast at h ⊢
    constructor
    · linarith [h.2]
    · linarith [h.1]
  exact_mod_cast hcast

theorem product_eq (ms s : ℕ) :
    (roundEven ((ms * 2 ^ s : ℕ) / 1000) : ℚ) / 2 ^ s * 1000 = ms - remainder ms s / 2 ^ s := by
  rw [remainder]
  push_cast
  field_simp
  ring

/-- The remainder is positive where the quotient is rounded down. It is not in the middle. -/
theorem remainder_le_iff {ms s : ℕ} (hs : 3 ≤ s) :
    remainder ms s ≤ 256 ↔ ¬ (256 < ms * 2 ^ s % 1000 ∧ ms * 2 ^ s % 1000 < 500) := by
  obtain ⟨n, hn⟩ : ∃ n, ms * 2 ^ s = 8 * n := by
    obtain ⟨r, rfl⟩ := Nat.exists_eq_add_of_le hs
    exact ⟨ms * 2 ^ r, by rw [pow_add]; ring⟩
  have hdivide : (8 * n : ℕ) = 1000 * (8 * n / 1000) + 8 * n % 1000 := (Nat.div_add_mod _ _).symm
  have hcast : ((8 * n : ℕ) : ℚ) = 1000 * ((8 * n / 1000 : ℕ) : ℚ) + ((8 * n % 1000 : ℕ) : ℚ) := by
    exact_mod_cast hdivide
  have hlt : 8 * n % 1000 < 1000 := Nat.mod_lt _ (by norm_num)
  -- Half of 1000 is no multiple of 8, so that there is no tie.
  have hne : 8 * n % 1000 ≠ 500 := by omega
  have hremainder : remainder ms s = (8 * n : ℕ) - 1000 * roundEven ((8 * n : ℕ) / 1000) := by
    rw [remainder, hn]
    congr 1
    exact_mod_cast hn
  rw [hremainder, hn]
  rcases lt_or_gt_of_ne hne with hdown | hup
  · have hround : roundEven ((8 * n : ℕ) / 1000) = ((8 * n / 1000 : ℕ) : ℤ) := by
      have hdown' : ((8 * n % 1000 : ℕ) : ℚ) < 500 := by exact_mod_cast hdown
      have hpos : (0 : ℚ) ≤ ((8 * n % 1000 : ℕ) : ℚ) := Nat.cast_nonneg _
      refine roundEven_of_lt ?_ ?_
      · rw [hcast, Int.cast_natCast]
        linarith
      · rw [hcast, Int.cast_natCast]
        linarith
    rw [hround]
    omega
  · have hround : roundEven ((8 * n : ℕ) / 1000) = ((8 * n / 1000 : ℕ) : ℤ) + 1 := by
      have hup' : (500 : ℚ) < ((8 * n % 1000 : ℕ) : ℚ) := by exact_mod_cast hup
      have hlt' : ((8 * n % 1000 : ℕ) : ℚ) < 1000 := by exact_mod_cast hlt
      refine roundEven_of_gt ?_ ?_
      · rw [hcast, Int.cast_natCast]
        linarith
      · rw [hcast, Int.cast_natCast]
        linarith
    rw [hround]
    omega

/-! ## The duration of some samples -/

/-- The most samples that are read. -/
def maxFrames : ℕ := 1810 * sampleRate

variable {frames : ℕ}

theorem abs_audioSeconds_sub_le (h : 0 < frames) :
    |audioSeconds frames - frames / 16000| ≤ frames / 16000 / 2 ^ 53 := by
  have hpos : (0 : ℚ) < frames / 16000 := div_pos (Nat.cast_pos.2 h) (by norm_num)
  have hbinade := binade_log hpos
  have hpower : (2 : ℚ) ^ (Int.log 2 ((frames : ℚ) / 16000) - 53) ≤ frames / 16000 / 2 ^ 53 := by
    rw [zpow_sub₀ two_ne_zero]
    exact div_le_div_of_nonneg_right hbinade.le (by positivity)
  exact hbinade.abs_nearest_sub_le.trans hpower

/-- The product is near the number of milliseconds, and far from the larger powers of two. -/
theorem near_product (h : 0 < frames) (hmax : frames ≤ maxFrames) :
    |audioSeconds frames * 1000 - frames / 16| ≤ 1 / 2 ^ 32 := by
  have habs := abs_le.1 (abs_audioSeconds_sub_le h)
  have hframes : (frames : ℚ) ≤ 28960000 := by exact_mod_cast hmax
  have hsmall : (frames : ℚ) / 16000 / 2 ^ 53 * 1000 ≤ 1 / 2 ^ 32 := by
    rw [div_div, div_mul_eq_mul_div, div_le_div_iff₀ (by norm_num) (by norm_num)]
    norm_num
    linarith
  rw [abs_le]
  constructor <;> linarith [habs.1, habs.2]

theorem audioSeconds_pos (h : 0 < frames) (hmax : frames ≤ maxFrames) : 0 < audioSeconds frames := by
  have hnear := abs_le.1 (near_product h hmax)
  have hone : (1 : ℚ) ≤ frames := by exact_mod_cast h
  have hlow : (1 : ℚ) / 2 ^ 32 < 1 / 16 := by norm_num
  linarith [hnear.1]

theorem audioSeconds_le (h : 0 < frames) (hmax : frames ≤ maxFrames) : audioSeconds frames ≤ 86400 := by
  have hnear := abs_le.1 (near_product h hmax)
  have hframes : (frames : ℚ) ≤ 28960000 := by exact_mod_cast hmax
  have hlow : (1 : ℚ) / 2 ^ 32 < 1 := by norm_num
  linarith [hnear.2]

theorem binade_product (h : 0 < frames) (hmax : frames ≤ maxFrames) :
    ∃ e ≤ (51 : ℤ), Binade e (audioSeconds frames * 1000) := by
  have hnear := abs_le.1 (near_product h hmax)
  have hframes : (frames : ℚ) ≤ 28960000 := by exact_mod_cast hmax
  have hpos : 0 < audioSeconds frames * 1000 := mul_pos (audioSeconds_pos h hmax) (by norm_num)
  have hhigh : (28960000 : ℚ) / 16 + 1 / 2 ^ 32 < ((2 : ℕ) : ℚ) ^ (52 : ℤ) := by norm_num
  have hlt : audioSeconds frames * 1000 < ((2 : ℕ) : ℚ) ^ (52 : ℤ) := by
    refine lt_of_le_of_lt ?_ hhigh
    linarith [hnear.2]
  have hlog : Int.log 2 (audioSeconds frames * 1000) < 52 := (Int.lt_zpow_iff_log_lt one_lt_two hpos).1 hlt
  exact ⟨_, by omega, binade_log hpos⟩

/-- A whole number of milliseconds that the product is not below is not cut off. -/
theorem le_durationMs (h : 0 < frames) (hmax : frames ≤ maxFrames) {ms : ℤ}
    (hms : ms ≤ audioSeconds frames * 1000) : ms ≤ durationMs (audioSeconds frames) := by
  obtain ⟨e, he, hbinade⟩ := binade_product h hmax
  exact hbinade.int_le_nearest (by omega) hms

theorem lt_durationMs (h : 0 < frames) (hmax : frames ≤ maxFrames) {ms : ℤ} (hms : ms < (frames / 16 : ℕ)) :
    ms ≤ durationMs (audioSeconds frames) := by
  refine le_durationMs h hmax ?_
  have hnear := abs_le.1 (near_product h hmax)
  have hms' : (ms : ℚ) + 1 ≤ frames / 16 := by
    have hle : (ms + 1) * 16 ≤ frames := by omega
    rw [le_div_iff₀ (by norm_num)]
    exact_mod_cast hle
  have hsmall : (1 : ℚ) / 2 ^ 32 < 1 := by norm_num
  linarith [hnear.1]

/-- Of samples that are no whole number of milliseconds, the last one is not cut off. -/
theorem le_durationMs_of_not_dvd (h : 0 < frames) (hmax : frames ≤ maxFrames) (hdvd : ¬ 16 ∣ frames) :
    ((frames / 16 : ℕ) : ℤ) ≤ durationMs (audioSeconds frames) := by
  refine le_durationMs h hmax ?_
  have hnear := abs_le.1 (near_product h hmax)
  have hlt : (frames / 16 : ℕ) * 16 + 1 ≤ frames := by omega
  have hlt' : ((frames / 16 : ℕ) : ℚ) * 16 + 1 ≤ frames := by exact_mod_cast hlt
  have hsmall : (1 : ℚ) / 2 ^ 32 < 1 / 16 := by norm_num
  rw [Int.cast_natCast]
  linarith [hnear.1]

variable {ms t : ℕ}

/-- The product has as many digits as the milliseconds, but for the powers of two. -/
theorem binade_ms (hmax : 16 * ms ≤ maxFrames) (ht : 2 ^ t < ms) (ht' : ms < 2 ^ (t + 1)) :
    Binade t (audioSeconds (16 * ms) * 1000) := by
  have hpos : 0 < 16 * ms := by omega
  have hnear := abs_le.1 (near_product hpos hmax)
  have hcancel : ((16 * ms : ℕ) : ℚ) / 16 = ms := by
    push_cast
    ring
  rw [hcancel] at hnear
  have hsmall : (1 : ℚ) / 2 ^ 32 < 1 := by norm_num
  have hlow : (2 : ℚ) ^ t + 1 ≤ ms := by exact_mod_cast ht
  have hhigh : (ms : ℚ) + 1 ≤ 2 ^ (t + 1) := by exact_mod_cast ht'
  constructor
  · rw [zpow_natCast]
    linarith [hnear.1]
  · rw [show (t : ℤ) + 1 = ((t + 1 : ℕ) : ℤ) by push_cast; ring, zpow_natCast]
    linarith [hnear.2]

theorem audioSeconds_ms (ms : ℕ) : audioSeconds (16 * ms) = nearest (ms / 1000) := by
  rw [audioSeconds, sampleRate]
  congr 1
  push_cast
  ring

/-- The milliseconds are cut off iff the remainder is more than half of a unit of the product. -/
theorem ms_le_durationMs_iff {s m : ℕ} (hmax : 16 * ms ≤ maxFrames) (ht : 2 ^ t < ms) (ht' : ms < 2 ^ (t + 1))
    (hbinade : Binade (52 - s : ℤ) (ms / 1000)) (hm : t + s = 53 + m) (htmax : t ≤ 51) :
    (ms : ℤ) ≤ durationMs (audioSeconds (16 * ms)) ↔ remainder ms s ≤ 2 ^ m := by
  have hproduct := product_eq ms s
  rw [← nearest_seconds hbinade, ← audioSeconds_ms] at hproduct
  have hhalf : (2 : ℚ) ^ ((t : ℤ) - 53) = 2 ^ m / 2 ^ s := by
    rw [eq_div_iff (by positivity), ← zpow_natCast, ← zpow_add₀ two_ne_zero, ← zpow_natCast]
    congr 1
    omega
  rw [durationMs, (binade_ms hmax ht ht').int_le_nearest_iff (by exact_mod_cast htmax), hproduct, hhalf,
    Int.cast_natCast, sub_le_sub_iff_left, div_le_div_iff_of_pos_right (by positivity)]
  exact_mod_cast Iff.rfl

/-- The seconds of milliseconds between two powers of two, between two others. -/
theorem binade_seconds {r : ℕ} (hlow : 1000 * 2 ^ t ≤ ms * 2 ^ r) (hhigh : ms * 2 ^ r < 1000 * 2 ^ (t + 1)) {s : ℕ}
    (hs : s + t = 52 + r) : Binade (52 - s : ℤ) (ms / 1000) := by
  have hexponent : (52 - s : ℤ) = t - r := by omega
  have hpower : (2 : ℚ) ^ (t - r : ℤ) = 2 ^ t / 2 ^ r := by
    rw [zpow_sub₀ two_ne_zero, zpow_natCast, zpow_natCast]
  have hnext : (2 : ℚ) ^ (t - r + 1 : ℤ) = 2 ^ (t + 1) / 2 ^ r := by
    rw [zpow_add_one₀ two_ne_zero, hpower, pow_succ]
    ring
  have hlow' : (1000 : ℚ) * 2 ^ t ≤ ms * 2 ^ r := by exact_mod_cast hlow
  have hhigh' : (ms : ℚ) * 2 ^ r < 1000 * 2 ^ (t + 1) := by exact_mod_cast hhigh
  rw [hexponent]
  constructor
  · rw [hpower, div_le_div_iff₀ (by positivity) (by norm_num)]
    linarith
  · rw [hnext, div_lt_div_iff₀ (by norm_num) (by positivity)]
    linarith

/-- A power of two has the same remainder as every other one, and is rounded up. -/
theorem power_le_durationMs (hmax : 16 * 2 ^ t ≤ maxFrames) (ht : t ≤ 20) :
    ((2 ^ t : ℕ) : ℤ) ≤ durationMs (audioSeconds (16 * 2 ^ t)) := by
  refine le_durationMs (by positivity) hmax ?_
  have hpower : 2 ^ t * 2 ^ (62 - t) = 2 ^ 62 := by
    rw [← pow_add]
    congr 1
    omega
  have hbinade : Binade (52 - (62 - t : ℕ) : ℤ) ((2 ^ t : ℕ) / 1000) := by
    have hpos := Nat.two_pow_pos t
    refine binade_seconds (t := t) (r := 10) ?_ ?_ (by omega)
    · omega
    · omega
  have hround : roundEven ((2 ^ 62 : ℕ) / 1000) = 4611686018427387 + 1 := by
    refine roundEven_of_gt ?_ ?_
    · norm_num
    · norm_num
  have hremainder : remainder (2 ^ t) (62 - t) ≤ 0 := by
    rw [remainder, hpower, hround]
    have hcast : ((2 ^ t : ℕ) : ℤ) * 2 ^ (62 - t) = 2 ^ 62 := by exact_mod_cast hpower
    rw [hcast]
    norm_num
  have hproduct := product_eq (2 ^ t) (62 - t)
  rw [← nearest_seconds hbinade, ← audioSeconds_ms] at hproduct
  have hnonpos : ((remainder (2 ^ t) (62 - t) : ℤ) : ℚ) / 2 ^ (62 - t) ≤ 0 :=
    div_nonpos_of_nonpos_of_nonneg (by exact_mod_cast hremainder) (by positivity)
  rw [hproduct, Int.cast_natCast]
  linarith

/-- The whole milliseconds of some samples are not above their rounded duration, but where it is rounded
    below them. -/
theorem le_durationMs_iff (h : 0 < frames) (hmax : frames ≤ maxFrames) :
    ((frames / 16 : ℕ) : ℤ) ≤ durationMs (audioSeconds frames) ↔ ¬ RoundsBelow frames := by
  -- Samples beyond the last millisecond are more than the rounding takes away.
  by_cases hdvd : 16 ∣ frames
  · obtain ⟨ms, rfl⟩ := hdvd
    have hms : 16 * ms / 16 = ms := Nat.mul_div_cancel_left ms (by norm_num)
    have hpos : ms ≠ 0 := by omega
    have hle : 2 ^ Nat.log 2 ms ≤ ms := Nat.pow_log_le_self 2 hpos
    have hlt : ms < 2 ^ (Nat.log 2 ms + 1) := Nat.lt_pow_succ_log_self one_lt_two ms
    have ht : Nat.log 2 ms ≤ 20 := by
      have hbound : ms < 2 ^ 21 := by
        rw [maxFrames, sampleRate] at hmax
        omega
      exact Nat.lt_succ_iff.1 (Nat.log_lt_of_lt_pow hpos hbound)
    have hbelow : RoundsBelow (16 * ms) ↔ 1000 * 2 ^ Nat.log 2 ms ≤ ms * 2 ^ 9 ∧
        256 < ms * 2 ^ (61 - Nat.log 2 ms) % 1000 ∧ ms * 2 ^ (61 - Nat.log 2 ms) % 1000 < 500 := by
      rw [RoundsBelow, hms]
      exact and_iff_right (Nat.dvd_mul_right 16 ms)
    rw [hms, hbelow]
    by_cases hcoarse : 1000 * 2 ^ Nat.log 2 ms ≤ ms * 2 ^ 9
    · -- The unit of the seconds is the larger one: a remainder can be above half of that of the product.
      have hstrict : 2 ^ Nat.log 2 ms < ms := by omega
      have hbinade : Binade (52 - (61 - Nat.log 2 ms : ℕ) : ℤ) (ms / 1000) := by
        refine binade_seconds hcoarse ?_ (by omega)
        omega
      rw [ms_le_durationMs_iff (m := 8) hmax hstrict hlt hbinade (by omega) (by omega), and_iff_right hcoarse]
      exact remainder_le_iff (by omega)
    · refine iff_of_true ?_ fun hand => hcoarse hand.1
      rcases hle.eq_or_lt with heq | hstrict
      · have hpower := power_le_durationMs (t := Nat.log 2 ms) (heq.symm ▸ hmax) ht
        rwa [heq] at hpower
      · have hbinade : Binade (52 - (62 - Nat.log 2 ms : ℕ) : ℤ) (ms / 1000) := by
          refine binade_seconds (t := Nat.log 2 ms) (r := 10) ?_ ?_ (by omega)
          · omega
          · omega
        rw [ms_le_durationMs_iff (m := 9) hmax hstrict hlt hbinade (by omega) (by omega)]
        -- With the finer unit every remainder is small enough.
        have hremainder := (abs_le.1 (abs_remainder_le ms (62 - Nat.log 2 ms))).2
        omega
  · exact iff_of_true (le_durationMs_of_not_dvd h hmax hdvd) fun hbelow => hdvd hbelow.1

end Subgen
