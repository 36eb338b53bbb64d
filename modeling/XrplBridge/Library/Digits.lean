import Mathlib.Algebra.GroupWithZero.Nat
import Mathlib.Algebra.Order.Ring.Nat
import Mathlib.Data.List.DropRight
import Mathlib.Tactic.Cases
import Mathlib.Tactic.Common

/-!
# Significant digits

A number has at most `d` significant digits in base `b` if it is a number of `d` digits, shifted. Its
numeral shows it: once the zeros at the end are trimmed, at most `d` digits are left
(`length_trimmed_le_iff`).
-/

namespace XrplBridge.Library

/-- At most `d` significant digits in base `b`. -/
def Significant (b d n : ℕ) : Prop := ∃ m k, m < b ^ d ∧ n = m * b ^ k

variable {b d n : ℕ}

theorem Significant.of_lt (h : n < b ^ d) : Significant b d n := ⟨n, 0, h, by simp⟩

/-- A shift keeps the significant digits. -/
theorem Significant.mul_pow (h : Significant b d n) (k : ℕ) : Significant b d (n * b ^ k) := by
  obtain ⟨m, j, hm, rfl⟩ := h
  exact ⟨m, j + k, hm, by rw [Nat.pow_add, Nat.mul_assoc]⟩

/-- The power of the base itself is a one, shifted. -/
theorem Significant.of_le (hb : 1 < b) (hd : 0 < d) (h : n ≤ b ^ d) : Significant b d n := by
  rcases Nat.lt_or_eq_of_le h with hlt | rfl
  · exact .of_lt hlt
  · exact ⟨1, d, Nat.one_lt_pow hd.ne' hb, (Nat.one_mul _).symm⟩

/-- A number that the base does not divide is not shifted. -/
theorem significant_iff_lt (h : ¬ b ∣ n) : Significant b d n ↔ n < b ^ d := by
  refine ⟨?_, .of_lt⟩
  rintro ⟨m, k, hm, rfl⟩
  cases k with
  | zero => simpa using hm
  | succ k => exact absurd ((dvd_pow_self b k.succ_ne_zero).mul_left m) h

/-- A number that the base divides is shifted by one more than its quotient. -/
theorem significant_iff_div (hb : 0 < b) (h : b ∣ n) : Significant b d n ↔ Significant b d (n / b) := by
  obtain ⟨q, rfl⟩ := h
  rw [Nat.mul_div_cancel_left q hb]
  constructor
  · rintro ⟨m, k, hm, heq⟩
    cases k with
    | zero =>
      rw [Nat.pow_zero, Nat.mul_one] at heq
      exact .of_lt (lt_of_le_of_lt (Nat.le_mul_of_pos_left q hb) (heq ▸ hm))
    | succ k =>
      refine ⟨m, k, hm, Nat.eq_of_mul_eq_mul_left hb ?_⟩
      rw [heq, Nat.pow_succ', Nat.mul_left_comm]
  · intro hq
    rw [Nat.mul_comm]
    simpa using hq.mul_pow 1

/-- **The numeral of a number, without the zeros at its end, has its significant digits.** -/
theorem length_trimmed_le_iff (hb : 1 < b) (hd : 0 < d) (n : ℕ) :
    ((Nat.toDigits b n).rdropWhile (· = '0')).length ≤ d ↔ Significant b d n := by
  induction n using Nat.strong_induction_on with
  | _ n ih =>
    by_cases hdvd : b ∣ n
    · rcases Nat.eq_zero_or_pos n with rfl | hpos
      · simp [List.rdropWhile_singleton, Significant.of_lt (Nat.pow_pos (Nat.zero_lt_of_lt hb) : 0 < b ^ d)]
      · have hlast : decide ((n % b).digitChar = '0') = true := by
          simpa using Nat.mod_eq_zero_of_dvd hdvd
        rw [Nat.toDigits_of_base_le hb (Nat.le_of_dvd hpos hdvd), List.rdropWhile_concat, if_pos hlast,
          ih _ (Nat.div_lt_self hpos hb), significant_iff_div (Nat.zero_lt_of_lt hb) hdvd]
    · have hlast : ∀ hl : Nat.toDigits b n ≠ [], ¬ (decide ((Nat.toDigits b n).getLast hl = '0') = true) := by
        have hmod : n % b ≠ 0 := fun h => hdvd (Nat.dvd_of_mod_eq_zero h)
        rw [Nat.toDigits_eq_if hb]
        split_ifs with hlt
        · simpa [Nat.mod_eq_of_lt hlt] using hmod
        · simpa using hmod
      rw [List.rdropWhile_eq_self_iff.mpr hlast, Nat.length_toDigits_le_iff hb hd, significant_iff_lt hdvd]

end XrplBridge.Library
