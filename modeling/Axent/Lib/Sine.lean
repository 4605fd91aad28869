/-
  The integer part of multiples of `|sin k|`, for natural numbers `k`.

  The powers of `exp i` are turns by one radian.  A rational point close to `exp i` is
  multiplied with itself `k` times, and the error grows by at most the error of the point
  in every turn.  What is left to check for a given `k` is a comparison of natural
  numbers.
-/
import Mathlib.Analysis.Complex.Exponential
import Mathlib.Analysis.Complex.Trigonometric
import Mathlib.Analysis.Real.Pi.Bounds

namespace Axent.Lib

open Complex

/-- Powers of points of the unit disc that are close. -/
theorem norm_pow_sub_pow_le {z w : ℂ} {ε : ℝ} (hz : ‖z‖ ≤ 1) (hw : ‖w‖ ≤ 1)
    (h : ‖z - w‖ ≤ ε) (k : ℕ) : ‖z ^ k - w ^ k‖ ≤ k * ε := by
  induction k with
  | zero => simp
  | succ k ih =>
    have hpow : ‖w ^ k‖ ≤ 1 := by
      rw [norm_pow]
      exact pow_le_one₀ (norm_nonneg w) hw
    calc ‖z ^ (k + 1) - w ^ (k + 1)‖ = ‖z * (z ^ k - w ^ k) + w ^ k * (z - w)‖ := by
          congr 1
          ring
      _ ≤ ‖z‖ * ‖z ^ k - w ^ k‖ + ‖w ^ k‖ * ‖z - w‖ := by
          refine (norm_add_le _ _).trans ?_
          rw [norm_mul, norm_mul]
      _ ≤ 1 * (k * ε) + 1 * ε := by gcongr
      _ = (k + 1 : ℕ) * ε := by push_cast; ring

/-- The Taylor sum of `exp i`, by its real and imaginary part. -/
theorem sum_exp_I (n : ℕ) :
    ∑ m ∈ Finset.range (2 * n), I ^ m / (m.factorial : ℂ) =
      (∑ j ∈ Finset.range n, (-1) ^ j / ((2 * j).factorial : ℝ) : ℝ) +
        (∑ j ∈ Finset.range n, (-1) ^ j / ((2 * j + 1).factorial : ℝ) : ℝ) * I := by
  induction n with
  | zero => simp
  | succ n ih =>
    have heven : I ^ (2 * n) = (-1) ^ n := by rw [pow_mul, I_sq]
    rw [show 2 * (n + 1) = 2 * n + 1 + 1 by ring, Finset.sum_range_succ, Finset.sum_range_succ, ih,
      Finset.sum_range_succ, Finset.sum_range_succ, pow_succ I (2 * n), heven]
    push_cast
    ring

/-- A point of the unit disc close to `exp i`. -/
structure UnitTurn where
  c : ℤ
  s : ℤ
  /-- The coordinates are multiples of `2⁻ᵖ`. -/
  p : ℕ
  /-- The distance to `exp i` is at most `2⁻q`. -/
  q : ℕ
  disc : c ^ 2 + s ^ 2 ≤ (2 ^ p) ^ 2
  close : ‖exp I - (c + s * I) / 2 ^ p‖ ≤ (2 ^ q)⁻¹

namespace UnitTurn
variable (a : UnitTurn)

/-- The coordinates of the `k`-th power, as multiples of `2⁻ᵖᵏ`. -/
def power : ℕ → ℤ × ℤ
  | 0 => (1, 0)
  | k + 1 => ((power k).1 * a.c - (power k).2 * a.s, (power k).1 * a.s + (power k).2 * a.c)

theorem power_eq (k : ℕ) :
    ((a.power k).1 + (a.power k).2 * I : ℂ) / 2 ^ (a.p * k) = ((a.c + a.s * I) / 2 ^ a.p) ^ k := by
  induction k with
  | zero => simp [power]
  | succ k ih =>
    have hI : I ^ 2 = -1 := I_sq
    rw [pow_succ, ← ih, Nat.mul_succ, pow_add, div_mul_div_comm]
    congr 1
    simp only [power]
    push_cast
    ring_nf
    rw [hI]
    ring

theorem norm_le_one : ‖((a.c + a.s * I) / 2 ^ a.p : ℂ)‖ ≤ 1 := by
  have hsq : ‖(a.c + a.s * I : ℂ)‖ ^ 2 = (a.c : ℝ) ^ 2 + (a.s : ℝ) ^ 2 := by
    rw [Complex.sq_norm, normSq_apply]
    simp [sq]
  have hdisc : (a.c : ℝ) ^ 2 + (a.s : ℝ) ^ 2 ≤ (2 ^ a.p) ^ 2 := by exact_mod_cast a.disc
  have hnorm : ‖(a.c + a.s * I : ℂ)‖ ≤ 2 ^ a.p :=
    (pow_le_pow_iff_left₀ (norm_nonneg _) (by positivity) two_ne_zero).1 (hsq ▸ hdisc)
  rw [norm_div, norm_pow, Complex.norm_ofNat]
  exact div_le_one_of_le₀ hnorm (by positivity)

/-- **The sine of `k`** is close to the second coordinate of the power. -/
theorem abs_sin_sub_le (k : ℕ) :
    |Real.sin k - (a.power k).2 / 2 ^ (a.p * k)| ≤ k * (2 ^ a.q)⁻¹ := by
  have hturn : exp I ^ k = Real.cos k + Real.sin k * I := by
    rw [← Complex.exp_nat_mul, exp_mul_I]
    push_cast
    rfl
  have hunit : ‖exp I‖ ≤ 1 := by
    have h := norm_exp_ofReal_mul_I 1
    rw [ofReal_one, one_mul] at h
    exact h.le
  have himage : (exp I ^ k - ((a.c + a.s * I) / 2 ^ a.p) ^ k).im =
      Real.sin k - (a.power k).2 / 2 ^ (a.p * k) := by
    have hscale : (2 : ℂ) ^ (a.p * k) = ((2 ^ (a.p * k) : ℝ) : ℂ) := by push_cast; rfl
    have him (x y : ℝ) : (x + y * I : ℂ).im = y := by simp
    rw [hturn, ← a.power_eq k, hscale, sub_im, div_ofReal_im, him, ← ofReal_intCast,
      ← ofReal_intCast, him]
  rw [← himage]
  exact (abs_im_le_norm _).trans (norm_pow_sub_pow_le hunit a.norm_le_one a.close k)

/-- Between `n` and `n + 1`, with the error. -/
def Floor (m k n : ℕ) : Prop :=
  n * 2 ^ (a.p * k) * 2 ^ a.q + m * k * 2 ^ (a.p * k) ≤ m * (a.power k).2.natAbs * 2 ^ a.q ∧
    m * (a.power k).2.natAbs * 2 ^ a.q + m * k * 2 ^ (a.p * k) < (n + 1) * 2 ^ (a.p * k) * 2 ^ a.q

instance (m k n : ℕ) : Decidable (a.Floor m k n) := inferInstanceAs (Decidable (_ ∧ _))

/-- **The integer part of `m * |sin k|`.** -/
theorem floor_sin {m k n : ℕ} (h : a.Floor m k n) : ⌊(m : ℝ) * |Real.sin k|⌋₊ = n := by
  obtain ⟨hlow, hhigh⟩ := h
  have herror := a.abs_sin_sub_le k
  set y : ℝ := |((a.power k).2 : ℝ)| with hy
  set P : ℝ := 2 ^ (a.p * k) with hP
  set Q : ℝ := 2 ^ a.q with hQ
  have hPpos : 0 < P := by positivity
  have hQpos : 0 < Q := by positivity
  have hdist : |(|Real.sin k| - y / P)| ≤ k * Q⁻¹ := by
    refine le_trans ?_ herror
    have := abs_abs_sub_abs_le_abs_sub (Real.sin k) ((a.power k).2 / P)
    rwa [abs_div, abs_of_pos hPpos] at this
  obtain ⟨hleft, hright⟩ := abs_le.1 hdist
  have hlow' : (n : ℝ) * P * Q + m * k * P ≤ m * y * Q := by
    rw [hy, ← Int.cast_abs, Int.abs_eq_natAbs, hP, hQ]
    exact_mod_cast hlow
  have hhigh' : (m : ℝ) * y * Q + m * k * P < (n + 1) * P * Q := by
    rw [hy, ← Int.cast_abs, Int.abs_eq_natAbs, hP, hQ]
    exact_mod_cast hhigh
  have hm : (0 : ℝ) ≤ m := Nat.cast_nonneg m
  rw [Nat.floor_eq_iff (by positivity)]
  constructor
  · calc (n : ℝ) = n * P * Q / (P * Q) := by field_simp
      _ ≤ (m * y * Q - m * k * P) / (P * Q) := by gcongr; linarith
      _ = m * (y / P - k * Q⁻¹) := by field_simp
      _ ≤ m * |Real.sin k| := by gcongr; linarith
  · calc (m : ℝ) * |Real.sin k| ≤ m * (y / P + k * Q⁻¹) := by gcongr; linarith
      _ = (m * y * Q + m * k * P) / (P * Q) := by field_simp
      _ < (n + 1) * P * Q / (P * Q) := by gcongr
      _ = n + 1 := by field_simp

end UnitTurn

/-- Sixty-four bits of `cos 1` and `sin 1`. -/
theorem unitTurn_close :
    ‖exp I - ((9966818358784711825 : ℤ) + (15522399902203605024 : ℤ) * I) / 2 ^ 64‖ ≤
      (2 ^ 62)⁻¹ := by
  have htaylor := Complex.exp_bound (x := I) (by simp) (n := 2 * 11) (by norm_num)
  rw [sum_exp_I] at htaylor
  set x : ℝ := ∑ j ∈ Finset.range 11, (-1) ^ j / ((2 * j).factorial : ℝ) with hx
  set y : ℝ := ∑ j ∈ Finset.range 11, (-1) ^ j / ((2 * j + 1).factorial : ℝ) with hy
  set w : ℂ := ((9966818358784711825 : ℤ) + (15522399902203605024 : ℤ) * I) / 2 ^ 64 with hw
  -- the Taylor sum, rounded to sixty-four bits
  have hround : ‖(x + y * I : ℂ) - w‖ ≤ (2 ^ 63)⁻¹ := by
    have hscale : (2 : ℂ) ^ 64 = ((2 ^ 64 : ℝ) : ℂ) := by push_cast; rfl
    have hre : ((x + y * I : ℂ) - w).re = x - 9966818358784711825 / 2 ^ 64 := by
      rw [hw, hscale, sub_re, div_ofReal_re]
      simp
    have him : ((x + y * I : ℂ) - w).im = y - 15522399902203605024 / 2 ^ 64 := by
      rw [hw, hscale, sub_im, div_ofReal_im]
      simp
    have hcos : |x - 9966818358784711825 / 2 ^ 64| ≤ (2 ^ 64)⁻¹ := by
      rw [hx, abs_le]
      norm_num [Finset.sum_range_succ, Nat.factorial]
    have hsin : |y - 15522399902203605024 / 2 ^ 64| ≤ (2 ^ 64)⁻¹ := by
      rw [hy, abs_le]
      norm_num [Finset.sum_range_succ, Nat.factorial]
    calc ‖(x + y * I : ℂ) - w‖ ≤ (2 ^ 64)⁻¹ + (2 ^ 64)⁻¹ := by
          refine (norm_le_abs_re_add_abs_im _).trans (add_le_add ?_ ?_)
          · rwa [hre]
          · rwa [him]
      _ = (2 ^ 63)⁻¹ := by norm_num
  -- what the sum leaves out
  have hrest : ‖exp I - (x + y * I)‖ ≤ (2 ^ 63)⁻¹ := by
    refine htaylor.trans ?_
    rw [norm_I]
    norm_num [Nat.factorial]
  calc ‖exp I - w‖ ≤ ‖exp I - (x + y * I)‖ + ‖(x + y * I : ℂ) - w‖ :=
        norm_sub_le_norm_sub_add_norm_sub ..
    _ ≤ (2 ^ 63)⁻¹ + (2 ^ 63)⁻¹ := add_le_add hrest hround
    _ = (2 ^ 62)⁻¹ := by norm_num

def unitTurn : UnitTurn where
  c := 9966818358784711825
  s := 15522399902203605024
  p := 64
  q := 62
  disc := by norm_num
  close := unitTurn_close

end Axent.Lib
