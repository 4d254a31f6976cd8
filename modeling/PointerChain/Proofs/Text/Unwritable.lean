import Mathlib.Algebra.Group.Nat.Defs
import PointerChain.Text.Numeral

/-!
# Integers that cannot be written

An integer with more than `maxDigits` decimal digits cannot be written out.

* `isUnwritable_eq_true_iff` says so by a bound on its absolute value.
* `leastUnwritable` is the least positive integer of this kind.
-/

namespace PointerChain.Text

/-- An integer cannot be written if it is not below the power of ten with the greatest number of
digits. -/
theorem isUnwritable_eq_true_iff {n : Int} : isUnwritable n = true ↔ 10 ^ maxDigits ≤ n.natAbs := by
  have hpos : 0 < maxDigits := by decide
  rw [isUnwritable, decide_eq_true_iff, ← Nat.not_le,
    Nat.length_toDigits_le_iff (by decide) hpos, Nat.not_lt]

/-- An integer can be written if it is below some smaller power of ten. -/
theorem isUnwritable_eq_false {n : Int} {k : Nat} (h : n.natAbs < 10 ^ k) (hk : k ≤ maxDigits) :
    isUnwritable n = false := by
  have hpow : 10 ^ k ≤ 10 ^ maxDigits := Nat.pow_le_pow_right (by decide) hk
  rw [← Bool.not_eq_true, isUnwritable_eq_true_iff]
  exact Nat.not_le.mpr (Nat.lt_of_lt_of_le h hpow)

/-- The least positive integer that cannot be written. -/
@[irreducible]
def leastUnwritable : Int := (10 ^ maxDigits : Nat)

theorem isUnwritable_leastUnwritable : isUnwritable leastUnwritable = true := by
  have habs : leastUnwritable.natAbs = 10 ^ maxDigits := by rw [leastUnwritable, Int.natAbs_natCast]
  exact isUnwritable_eq_true_iff.mpr (Nat.le_of_eq habs.symm)

theorem ten_le_leastUnwritable : 10 ≤ leastUnwritable := by
  rw [leastUnwritable]
  exact Int.ofNat_le.mpr (Nat.le_self_pow (by decide) 10)

end PointerChain.Text
