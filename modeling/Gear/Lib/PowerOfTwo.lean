import Mathlib

/-!
# Powers of two of a 32-bit word

`u32::next_power_of_two` and `u32::trailing_zeros`, the two bit functions a
size-class computation rests on, and the facts it needs: the next power of
two is a power of two, at least its argument and the least such; the
trailing zeros of `2 ^ k` are `k`.
-/

namespace PowerOfTwo

/-- `u32::next_power_of_two`: the least power of two at or above `n`; `1`
for `0` and `1`. For `n ≥ 2` that is one bit above the highest set bit of
`n - 1`. -/
def nextPowerOfTwo (n : ℕ) : ℕ :=
  if n ≤ 1 then 1 else 2 ^ (Nat.log2 (n - 1) + 1)

/-- Trailing zero bits of `n`, looking at no more than `width` bits. -/
def trailingZerosAux : ℕ → ℕ → ℕ
  | 0, _ => 0
  | width + 1, n => if n % 2 = 1 then 0 else trailingZerosAux width (n / 2) + 1

/-- `u32::trailing_zeros`: `32` for `0`. -/
def trailingZeros (n : ℕ) : ℕ := trailingZerosAux 32 n

theorem nextPowerOfTwo_eq_two_pow (n : ℕ) : ∃ k, nextPowerOfTwo n = 2 ^ k := by
  unfold nextPowerOfTwo
  split
  · exact ⟨0, rfl⟩
  · exact ⟨_, rfl⟩

theorem le_nextPowerOfTwo (n : ℕ) : n ≤ nextPowerOfTwo n := by
  unfold nextPowerOfTwo
  split
  · omega
  · have := @Nat.lt_log2_self (n - 1)
    omega

/-- Among the powers of two, the next one is the least at or above `n`. -/
theorem nextPowerOfTwo_le {n k : ℕ} (h : n ≤ 2 ^ k) : nextPowerOfTwo n ≤ 2 ^ k := by
  unfold nextPowerOfTwo
  split
  · exact Nat.one_le_two_pow
  · -- `n - 1 < 2 ^ k`, so its highest bit is below `k`
    have hlt : Nat.log2 (n - 1) < k := (Nat.log2_lt (by omega)).mpr (by omega)
    exact Nat.pow_le_pow_right (by omega) hlt

theorem trailingZerosAux_two_pow {k width : ℕ} (hk : k < width) :
    trailingZerosAux width (2 ^ k) = k := by
  induction k generalizing width with
  | zero =>
    obtain ⟨width, rfl⟩ : ∃ w, width = w + 1 := ⟨width - 1, by omega⟩
    simp [trailingZerosAux]
  | succ k ih =>
    obtain ⟨width, rfl⟩ : ∃ w, width = w + 1 := ⟨width - 1, by omega⟩
    have heven : 2 ^ k * 2 % 2 = 0 := Nat.mul_mod_left _ _
    rw [trailingZerosAux, Nat.pow_succ, heven, if_neg (by omega),
      Nat.mul_div_cancel _ (by omega), ih (by omega)]

theorem trailingZeros_two_pow {k : ℕ} (hk : k < 32) : trailingZeros (2 ^ k) = k :=
  trailingZerosAux_two_pow hk

end PowerOfTwo
