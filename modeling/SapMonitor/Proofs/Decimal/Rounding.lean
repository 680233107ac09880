import Mathlib.Algebra.Group.Nat.Defs
import SapMonitor.Decimal.Binary

/-!
# Rounding beyond the range

Very small decimals are read as zero and very large ones as infinity before a power of ten is
computed.  The number of bits tells which these are, since ten is more than the third power of two.
The same would come of them if the power were computed.

Main results:

- `nearestBits_of_small` and `nearestBits_of_large`: what is beyond the range.
- `nearestDecimalBits_eq`: large and small decimals are settled as the others are.
-/

namespace SapMonitor.Decimal

/-! ## Quotients -/

theorem roundHalfEven_of_lt {num den : Nat} (h : 2 * num < den) : roundHalfEven num den = 0 := by
  have hlt : num < den := by omega
  simp [roundHalfEven, Nat.div_eq_of_lt hlt, Nat.mod_eq_of_lt hlt, h]

theorem div_le_roundHalfEven (num den : Nat) : num / den ≤ roundHalfEven num den := by
  unfold roundHalfEven
  simp only
  split
  · exact Nat.le_refl _
  · split
    · exact Nat.le_succ _
    · split <;> omega

theorem scaled_natCast (num den k : Nat) : scaled num den (k : Int) = (num, den <<< k) := by
  simp [scaled]

/-! ## Beyond the range -/

@[simp] theorem nearestBits_zero (den : Nat) : nearestBits 0 den = 0 := by
  simp [nearestBits]

theorem shiftLeft_lt {num den k : Nat} (h : 2 ^ (num.log2 + (k + 2)) ≤ den) :
    2 * num <<< k < den := by
  calc 2 * num <<< k = num * 2 ^ (k + 1) := by rw [Nat.shiftLeft_eq, Nat.pow_succ]; ac_rfl
    _ < 2 ^ (num.log2 + 1) * 2 ^ (k + 1) :=
      Nat.mul_lt_mul_of_pos_right Nat.lt_log2_self (Nat.two_pow_pos _)
    _ = 2 ^ (num.log2 + (k + 2)) := by rw [← Nat.pow_add]; congr 1; omega
    _ ≤ den := h

/-- What is less than half of the smallest number is rounded to zero. -/
theorem nearestBits_of_small {num den : Nat} (h : 2 ^ (num.log2 + 1076) ≤ den) :
    nearestBits num den = 0 := by
  have hden : den ≠ 0 := Nat.ne_of_gt (Nat.lt_of_lt_of_le (Nat.two_pow_pos _) h)
  have hlog : num.log2 + 1076 ≤ den.log2 := (Nat.le_log2 hden).2 h
  have hround : roundHalfEven (num <<< 1074) den = 0 := roundHalfEven_of_lt (shiftLeft_lt h)
  unfold nearestBits
  split
  · rfl
  · have hexp : ∀ guess : Int, guess ≤ (num.log2 : Int) - den.log2 - 52 →
        max guess (-1074) = -1074 := by
      omega
    simp only
    rw [hexp _ (by split <;> omega)]
    show min (0 + roundHalfEven (num <<< 1074) den) infinityBits = 0
    rw [hround]
    rfl

/-- A whole number with more than 1024 bits is rounded to infinity. -/
theorem nearestBits_of_large {num : Nat} (h : 1024 ≤ num.log2) :
    nearestBits num 1 = infinityBits := by
  obtain ⟨k, hk⟩ : ∃ k, num.log2 = k + 53 := ⟨num.log2 - 53, by omega⟩
  have hne : num ≠ 0 := by
    rintro rfl
    simp at h
  have hlow : 2 ^ (k + 53) ≤ num := hk ▸ Nat.log2_self_le hne
  have hguess : (num.log2 : Int) - (Nat.log2 1 : Nat) - 53 = (k : Nat) := by
    have hone : Nat.log2 1 = 0 := by decide
    omega
  have hfits : (1 <<< k) <<< 53 ≤ num := by
    rwa [Nat.shiftLeft_eq, Nat.shiftLeft_eq, Nat.one_mul, ← Nat.pow_add]
  have hexp : max ((k : Int) + 1) (-1074) = (k + 1 : Nat) := by omega
  have hround : 2 ^ 52 ≤ roundHalfEven num (1 <<< (k + 1)) := by
    refine Nat.le_trans ?_ (div_le_roundHalfEven ..)
    rw [Nat.shiftLeft_eq, Nat.one_mul, Nat.le_div_iff_mul_le (Nat.two_pow_pos _), ← Nat.pow_add,
      Nat.add_comm 52, Nat.add_assoc]
    exact hlow
  unfold nearestBits
  rw [if_neg hne, hguess]
  simp only [scaled_natCast]
  rw [if_pos hfits, hexp]
  simp only [scaled_natCast]
  have hsum : ((k + 1 : Nat) + 1074 : Int).toNat = k + 1075 := by omega
  rw [hsum, Nat.shiftLeft_eq, Nat.min_eq_right]
  unfold infinityBits
  omega

/-! ## Decimals -/

theorem two_pow_le_ten_pow (k : Nat) : 2 ^ (3 * k) ≤ 10 ^ k := by
  rw [Nat.pow_mul]
  exact Nat.pow_le_pow_left (by decide) k

/-- The cut-offs change nothing. -/
theorem nearestDecimalBits_eq (m : Nat) (e : Int) :
    nearestDecimalBits m e =
      if 0 ≤ e then nearestBits (m * 10 ^ e.toNat) 1 else nearestBits m (10 ^ (-e).toNat) := by
  unfold nearestDecimalBits
  by_cases hm : m = 0
  · simp [hm]
  · rw [if_neg hm]
    split
    · split
      next hlarge =>
        have hne : m * 10 ^ e.toNat ≠ 0 :=
          Nat.mul_ne_zero hm (Nat.ne_of_gt (Nat.pow_pos (by decide)))
        refine (nearestBits_of_large (Nat.le_trans hlarge ((Nat.le_log2 hne).2 ?_))).symm
        rw [Nat.pow_add]
        exact Nat.mul_le_mul (Nat.log2_self_le hm) (two_pow_le_ten_pow _)
      next => rfl
    · split
      next hsmall =>
        exact (nearestBits_of_small (Nat.le_trans (Nat.pow_le_pow_right (by decide) hsmall)
          (two_pow_le_ten_pow _))).symm
      next => rfl

end SapMonitor.Decimal
