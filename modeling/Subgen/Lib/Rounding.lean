import Subgen.Lib.Binary64

/-!
# Arithmetic up to rounding

An algorithm is written once, with `rounded` around each of its operations, and read twice: over the exact
numbers, where `rounded` does nothing, and over the numbers that a machine has. What holds of every rounding
holds of both.

* `Rounding`: what the results of the operations are rounded to;
* `Rounding.exact`: the exact numbers, which are meant where nothing else is said;
* `Rounding.binary64`: the numbers of the hardware, for which a proof opts in with a local instance.
-/

namespace Subgen

/-- What the exact result of an operation is rounded to. -/
class Rounding where
  rounded : ℚ → ℚ
  rounded_mono : Monotone rounded
  rounded_rounded : ∀ q, rounded (rounded q) = rounded q
  rounded_two_mul : ∀ q, rounded (2 * q) = 2 * rounded q

export Rounding (rounded rounded_mono rounded_rounded rounded_two_mul)

namespace Rounding

/-- Nothing is rounded. -/
instance exact : Rounding where
  rounded q := q
  rounded_mono := monotone_id
  rounded_rounded _ := rfl
  rounded_two_mul _ := rfl

/-- The nearest number with 53 binary digits. -/
abbrev binary64 : Rounding where
  rounded := Binary64.nearest
  rounded_mono := Binary64.nearest_mono
  rounded_rounded := Binary64.nearest_nearest
  rounded_two_mul := Binary64.nearest_two_mul

@[simp] theorem rounded_exact (q : ℚ) : @rounded exact q = q := rfl

end Rounding

/-! ## Numbers that are not rounded -/

section

variable [Rounding] {q r : ℚ}

/-- A number that the machine has. -/
def Representable (q : ℚ) : Prop := rounded q = q

instance : Decidable (Representable q) := inferInstanceAs (Decidable (rounded q = q))

theorem representable_rounded (q : ℚ) : Representable (rounded q) := rounded_rounded q

theorem representable_zero : Representable 0 := by
  have h := rounded_two_mul 0
  rw [mul_zero] at h
  rw [Representable]
  linarith

theorem Representable.two_mul (h : Representable q) : Representable (2 * q) := by
  rw [Representable, rounded_two_mul, h]

theorem Representable.half (h : Representable q) : Representable (q / 2) := by
  have hdouble := rounded_two_mul (q / 2)
  rw [mul_div_cancel₀ q two_ne_zero, h] at hdouble
  rw [Representable]
  linarith

/-- Rounding does not take a result past a number of the machine. -/
theorem Representable.rounded_le (h : Representable r) (hqr : q ≤ r) : rounded q ≤ r :=
  (rounded_mono hqr).trans_eq h

theorem Representable.le_rounded (h : Representable q) (hqr : q ≤ r) : q ≤ rounded r :=
  h.symm.trans_le (rounded_mono hqr)

end

end Subgen
