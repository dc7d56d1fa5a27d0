/-!
# Powers of two and ten

The units of doubles are powers of two, and the grids of decimals are powers of
ten. Both are computed by one step of the natural numbers' own arithmetic.

## Main results

* `twoPow_add`: a sum of exponents is a product of powers.
* `twoPow_log2_le`: a number is at least the power that its logarithm names.
-/

namespace BlockExtension.Decimal

/-- Two to the power `k`. -/
def twoPow (k : Nat) : Nat := 1 <<< k

/-- Ten to the power `k`. -/
def tenPow (k : Nat) : Nat := Nat.pow 10 k

/-- A power of two is positive. -/
theorem twoPow_pos (k : Nat) : 0 < twoPow k := by
  rw [twoPow, Nat.one_shiftLeft]
  exact Nat.two_pow_pos k

/-- A power of ten is positive. -/
theorem tenPow_pos (k : Nat) : 0 < tenPow k := Nat.pow_pos (by decide)

/-- A sum of exponents is a product of powers. -/
theorem twoPow_add (j k : Nat) : twoPow (j + k) = twoPow j * twoPow k := by
  simp only [twoPow, Nat.one_shiftLeft, Nat.pow_add]

/-- A number is at least the power that its logarithm names. -/
theorem twoPow_log2_le {n : Nat} (h : n ≠ 0) : twoPow n.log2 ≤ n := by
  rw [twoPow, Nat.one_shiftLeft]
  exact Nat.log2_self_le h

end BlockExtension.Decimal
