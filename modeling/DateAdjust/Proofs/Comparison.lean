import Mathlib.Algebra.Order.Monoid.Unbundled.Basic
import Mathlib.Algebra.Order.Ring.Int
import Mathlib.Data.Nat.Cast.Order.Ring

/-! Numbers compared part by part, when no lesser part reaches a whole unit of the greater one. -/

namespace DateAdjust

theorem compare_natCast (first second : Nat) :
    compare (first : Int) second = compare first second := by
  rw [← cmp_eq_compare, ← cmp_eq_compare]
  exact Nat.strictMono_cast.cmp_map_eq first second

theorem compare_add_right (first second amount : Int) :
    compare (first + amount) (second + amount) = compare first second := by
  rw [← cmp_eq_compare, ← cmp_eq_compare, cmp_add_right]

section Parts

variable {base low otherLow : Int} (lowPos : 0 ≤ low) (lowBound : low < base)
  (otherPos : 0 ≤ otherLow) (otherBound : otherLow < base)

include lowPos lowBound otherPos in
theorem mul_add_lt_of_lt {high otherHigh : Int} (less : high < otherHigh) :
    high * base + low < otherHigh * base + otherLow := by
  have whole : (high + 1) * base ≤ otherHigh * base :=
    Int.mul_le_mul_of_nonneg_right less (by omega)
  rw [Int.add_mul, Int.one_mul] at whole
  omega

include lowPos lowBound otherPos otherBound in
theorem compare_mul_add (high otherHigh : Int) :
    compare (high * base + low) (otherHigh * base + otherLow) =
      (compare high otherHigh).then (compare low otherLow) := by
  rcases lt_trichotomy high otherHigh with less | rfl | greater
  · have whole := mul_add_lt_of_lt lowPos lowBound otherPos less
    rw [compare_lt_iff_lt.mpr whole, compare_lt_iff_lt.mpr less]
    rfl
  · rw [Int.add_comm, Int.add_comm _ otherLow, compare_add_right, compare_eq_iff_eq.mpr rfl]
    rfl
  · have whole := mul_add_lt_of_lt otherPos otherBound lowPos greater
    rw [compare_gt_iff_gt.mpr whole, compare_gt_iff_gt.mpr greater]
    rfl

end Parts

theorem compare_mul_add_nat {base low otherLow : Nat} (high otherHigh : Nat) (lowBound : low < base)
    (otherBound : otherLow < base) :
    compare (high * base + low) (otherHigh * base + otherLow) =
      (compare high otherHigh).then (compare low otherLow) := by
  rw [← compare_natCast, ← compare_natCast high, ← compare_natCast low]
  push_cast
  exact compare_mul_add (by omega) (by omega) (by omega) (by omega) high otherHigh

end DateAdjust
