import EspClockSync.Machine.Checked

/-!
# Integer square root

`isqrt_u128` iterates Newton's step from the argument downward and stops at the
first step that does not descend. Every iterate stays at or above the root, so
the step that fails to descend has found it.
-/

namespace EspClockSync

open Machine

/-- The loop of `isqrt_u128`: `y` is the Newton step from `x`, and the loop runs
while it descends. -/
def newtonDescend (checks : OverflowChecks) (n x y : Nat) : Checked Nat :=
  if descends : y < x then do
    let quotient ← divUnsigned n y
    let sum ← checks.unsigned 128 (y + quotient)
    newtonDescend checks n y (sum / 2)
  else .ok x
termination_by x

/-- `isqrt_u128`. -/
def isqrtU128 (checks : OverflowChecks) (n : Nat) : Checked Nat :=
  if n < 2 then .ok n
  else do
    let next ← checks.unsigned 128 (n + 1)
    newtonDescend checks n n (next / 2)

/-- A Newton step never passes below the root. -/
theorem sqrt_le_newton (n x : Nat) (positive : 0 < x) : Nat.sqrt n ≤ (x + n / x) / 2 := by
  -- Twice the root is at most `x + n / x`: the mean inequality, kept by the floor.
  have twice : 2 * Nat.sqrt n ≤ x + n / x := by
    by_cases below : 2 * Nat.sqrt n ≤ x
    · exact Nat.le_add_right_of_le below
    · obtain ⟨gap, same⟩ : ∃ gap, 2 * Nat.sqrt n = x + gap := ⟨2 * Nat.sqrt n - x, by omega⟩
      have product : gap * x ≤ n := by
        have square := Nat.sqrt_le' n
        have mean : 4 * (gap * x) ≤ (x + gap) ^ 2 := by nlinarith [sq_nonneg ((gap : Int) - x)]
        rw [← same] at mean
        nlinarith
      have quotient := (Nat.le_div_iff_mul_le positive).mpr product
      omega
  omega

/-- A Newton step from a positive value stays within one above the argument. -/
theorem newton_sum_le (n x : Nat) (positive : 0 < x) (below : x ≤ n) : x + n / x ≤ n + 1 := by
  have quotient : 1 ≤ n / x := (Nat.le_div_iff_mul_le positive).mpr (by omega)
  have product := Nat.mul_div_le n x
  nlinarith

/-- A Newton step that does not descend started at the root or below it. -/
theorem le_sqrt_of_newton (n x : Nat) (positive : 0 < x) (stays : x ≤ (x + n / x) / 2) :
    x ≤ Nat.sqrt n := by
  rw [Nat.le_sqrt, ← Nat.le_div_iff_mul_le positive]
  omega

/-- A descent from above the root ends at the root without leaving 128 bits. -/
theorem newtonDescend_eq (checks : OverflowChecks) {n x y : Nat} (large : 2 ≤ n)
    (small : n < 2 ^ 128 - 1) (above : Nat.sqrt n ≤ x) (below : x ≤ n)
    (step : y = (x + n / x) / 2) : newtonDescend checks n x y = .ok (Nat.sqrt n) := by
  induction x using Nat.strongRecOn generalizing y with
  | ind x ih =>
    have root : 0 < Nat.sqrt n := Nat.sqrt_pos.mpr (by omega)
    have positive : 0 < x := by omega
    have next := sqrt_le_newton n x positive
    rw [← step] at next
    unfold newtonDescend
    split
    · rename_i descends
      have sum := newton_sum_le n y (by omega) (by omega)
      rw [divUnsigned_pos n (by omega), ok_bind, checks.unsigned_ok (by omega), ok_bind]
      exact ih y descends next (by omega) rfl
    · rename_i stays
      have low := le_sqrt_of_newton n x positive (by omega)
      rw [show x = Nat.sqrt n by omega]

/-- **Integer square root.** Below the last argument the loop ends without
overflow at the exact floor of the square root. -/
theorem isqrtU128_eq (checks : OverflowChecks) {n : Nat} (small : n < 2 ^ 128 - 1) :
    isqrtU128 checks n = .ok (Nat.sqrt n) := by
  unfold isqrtU128
  split
  · rename_i tiny
    have : n = 0 ∨ n = 1 := by omega
    rcases this with rfl | rfl
    · rfl
    · rfl
  · rename_i large
    rw [checks.unsigned_ok (by omega)]
    refine newtonDescend_eq checks (by omega) small (Nat.sqrt_le_self n) (le_refl n) ?_
    rw [Nat.div_self (by omega)]

/-- **The loop ends at the exact root.** Below the last argument every build returns from
the loop without a division by zero and without overflow in any iteration, at the floor of
the square root. -/
theorem isqrt_exact {n : Nat} (small : n < 2 ^ 128 - 1) :
    ∃ r, (∀ checks, isqrtU128 checks n = .ok r) ∧ r * r ≤ n ∧ n < (r + 1) * (r + 1) :=
  ⟨Nat.sqrt n, fun checks => isqrtU128_eq checks small, Nat.sqrt_le n, Nat.lt_succ_sqrt n⟩

/-- The largest argument below the last one. -/
theorem isqrt_exact_largest :
    ∃ r, (∀ checks, isqrtU128 checks (2 ^ 128 - 2) = .ok r) ∧ r * r ≤ 2 ^ 128 - 2 ∧
      2 ^ 128 - 2 < (r + 1) * (r + 1) :=
  isqrt_exact (by decide)

/-- The last argument itself overflows in the first sum. -/
example : isqrtU128 .enabled (2 ^ 128 - 1) = .error .overflow := by rfl

end EspClockSync
