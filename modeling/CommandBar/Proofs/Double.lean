/-
Which integers a double can hold.

`Double.ofInt?` gives up on an integer exactly when rounding would carry it past
the greatest double.  The 53 bits that are kept of a number with 1024 bits are all
ones up to half a unit before the next power of two, and that half rounds to the
even neighbour, which is the power itself.  So the least integer that is lost is
2^1024 - 2^970, and every one from there on is lost.

The argument reads the exponent off the logarithm.  Below 2^1023 the carry still
has room, from 2^1024 on the exponent is too large already, and in between
`le_divNearest_iff` decides.
-/
import CommandBar.Decimal.Double
import Mathlib.Algebra.Group.Nat.Defs

namespace CommandBar

/-! ### Rounding a quotient -/

theorem div_le_divNearest (num den : Nat) : num / den ≤ divNearest num den := by
  unfold divNearest
  simp only
  split
  · exact Nat.le_refl _
  · split
    · exact Nat.le_succ _
    · split
      · exact Nat.le_refl _
      · exact Nat.le_succ _

theorem divNearest_le (num den : Nat) : divNearest num den ≤ num / den + 1 := by
  unfold divNearest
  simp only
  split
  · exact Nat.le_succ _
  · split
    · exact Nat.le_refl _
    · split
      · exact Nat.le_succ _
      · exact Nat.le_refl _

/-- A quotient rounds to an even number or above it from half a unit below that number on. -/
theorem le_divNearest_iff {num den k : Nat} (hden : 0 < den) (hk : 0 < k) (heven : k % 2 = 0) :
    k ≤ divNearest num den ↔ (2 * k - 1) * den ≤ 2 * num := by
  have hsplit : den * (num / den) + num % den = num := Nat.div_add_mod num den
  have hrest : num % den < den := Nat.mod_lt num hden
  rcases Nat.lt_trichotomy k (num / den + 1) with hlt | heq | hgt
  · -- The whole part reaches `k` already.
    have hle : k ≤ divNearest num den :=
      Nat.le_trans (Nat.le_of_lt_succ hlt) (div_le_divNearest num den)
    have hmul : k * den ≤ den * (num / den) := by
      rw [Nat.mul_comm]
      exact Nat.mul_le_mul_left den (Nat.le_of_lt_succ hlt)
    have hsub : (2 * k - 1) * den ≤ 2 * (k * den) := by
      rw [← Nat.mul_assoc]
      exact Nat.mul_le_mul_right den (Nat.sub_le _ _)
    exact ⟨fun _ => by omega, fun _ => hle⟩
  · -- `k` is the next number, so the whole part is odd and a tie goes up.
    have hodd : (num / den) % 2 = 1 := by omega
    have hexpand : (2 * k - 1) * den = 2 * (den * (num / den)) + den := by
      have hone : 2 * k - 1 = 2 * (num / den) + 1 := by omega
      rw [hone, Nat.add_mul, Nat.one_mul, Nat.mul_assoc, Nat.mul_comm (num / den) den]
    rw [hexpand]
    unfold divNearest
    simp only [hodd]
    split
    · omega
    · split
      · omega
      · rw [if_neg (by decide)]
        omega
  · -- `k` is further away than rounding goes.
    have hnot : ¬ k ≤ divNearest num den := by
      have := divNearest_le num den
      omega
    have hmul : den * (num / den + 2) ≤ k * den := by
      rw [Nat.mul_comm k den]
      exact Nat.mul_le_mul_left den (by omega)
    have hsub : (2 * k - 1) * den + den = 2 * (k * den) := by
      rw [← Nat.succ_mul, Nat.succ_eq_add_one, Nat.sub_add_cancel (by omega), Nat.mul_assoc]
    rw [Nat.mul_add] at hmul
    exact ⟨fun h => absurd h hnot, fun h => by omega⟩

/-! ### The least integer that is lost -/

/-- The least natural number that rounds past the greatest double. -/
def Double.beyond : Nat :=
  2 ^ 1024 - 2 ^ 970

namespace Magnitude

/-- The logarithm of a number in units of 2^-1074. -/
theorem log2_scaled {n : Nat} (hn : n ≠ 0) : (n * 2 ^ 1074).log2 = n.log2 + 1074 := by
  rw [Nat.log2_eq_iff (Nat.mul_ne_zero hn (Nat.ne_of_gt (Nat.two_pow_pos 1074)))]
  constructor
  · rw [Nat.pow_add]
    exact Nat.mul_le_mul_right _ (Nat.log2_self_le hn)
  · rw [show n.log2 + 1074 + 1 = (n.log2 + 1) + 1074 by omega, Nat.pow_add]
    exact Nat.mul_lt_mul_of_pos_right Nat.lt_log2_self (Nat.two_pow_pos 1074)

/-- The significand that a whole number rounds to, before it is checked. -/
def roundedSignificand (n : Nat) : Nat :=
  divNearest (n * 2 ^ 1074) (2 ^ (n.log2 + 1022))

/-- It has its 53 bits, so the least exponent is no obstacle. -/
theorem le_roundedSignificand {n : Nat} (hn : n ≠ 0) : 2 ^ 52 ≤ roundedSignificand n := by
  refine Nat.le_trans ?_ (div_le_divNearest _ _)
  rw [Nat.le_div_iff_mul_le (Nat.two_pow_pos _), ← Nat.pow_add]
  rw [show 52 + (n.log2 + 1022) = n.log2 + 1074 by omega, Nat.pow_add]
  exact Nat.mul_le_mul_right _ (Nat.log2_self_le hn)

theorem nearest?_zero_ne_none : nearest? 0 1 ≠ none := by
  unfold nearest?
  simp only [Nat.zero_mul, Nat.zero_div, Nat.log2_zero]
  split
  · simp
  · simp

/-- A whole number is lost when its exponent is too large, or at the last exponent carries. -/
theorem nearest?_one_eq_none_iff {n : Nat} (hn : n ≠ 0) :
    nearest? n 1 = none ↔
      1024 ≤ n.log2 ∨ (n.log2 = 1023 ∧ 2 ^ 53 ≤ roundedSignificand n) := by
  have hlow := le_roundedSignificand hn
  have hexp : (n * 2 ^ 1074 / 1).log2 - 52 = n.log2 + 1022 := by
    rw [Nat.div_one, log2_scaled hn]
    omega
  have hsig : divNearest (n * 2 ^ 1074) (1 * 2 ^ (n.log2 + 1022)) = roundedSignificand n := by
    rw [Nat.one_mul, roundedSignificand]
  unfold nearest?
  simp only [Nat.pow_eq, hexp, hsig]
  split
  · next h =>
      simp only [reduceCtorEq, false_iff]
      omega
  · next h =>
      split
      · next hroom =>
          simp only [reduceCtorEq, false_iff]
          omega
      · next hroom =>
          simp only [true_iff]
          omega

/-- At the last exponent a number carries from half a unit below the next power on. -/
theorem carry_iff {n k : Nat} (hlog : n.log2 = k + 53) :
    2 ^ 53 ≤ roundedSignificand n ↔ 2 ^ (k + 54) - 2 ^ k ≤ n := by
  have hden : 2 ^ (n.log2 + 1022) = 2 ^ (k + 1) * 2 ^ 1074 := by
    rw [show n.log2 + 1022 = (k + 1) + 1074 by omega]
    exact Nat.pow_add 2 (k + 1) 1074
  have hscale : 0 < 2 ^ 1074 := Nat.two_pow_pos 1074
  rw [roundedSignificand, hden]
  generalize 2 ^ 1074 = scale at hscale
  rw [le_divNearest_iff (Nat.mul_pos (Nat.two_pow_pos _) hscale) (by decide) (by decide),
    ← Nat.mul_assoc, ← Nat.mul_assoc, Nat.mul_le_mul_right_iff hscale, Nat.pow_add, Nat.pow_add]
  generalize 2 ^ k = unit
  omega

end Magnitude

namespace Double

/-- The exponents stay letters in what follows, so that no power is ever worked out. -/
theorem beyond_eq {k : Nat} (hk : k = 970) : beyond = 2 ^ (k + 54) - 2 ^ k := by
  rw [beyond, show 1024 = k + 54 by omega, hk]

/-- **An integer is lost exactly from 2^1024 - 2^970 on, on either side of zero.** -/
theorem ofInt?_eq_none_iff (n : Int) : ofInt? n = none ↔ beyond ≤ n.natAbs := by
  obtain ⟨k, hk⟩ : ∃ k, k = 970 := ⟨970, rfl⟩
  have hunit : 0 < 2 ^ k := Nat.two_pow_pos k
  have hpow : ∀ j, 2 ^ (k + j) = 2 ^ k * 2 ^ j := fun j => Nat.pow_add 2 k j
  rw [ofInt?, Option.map_eq_none_iff, beyond_eq hk]
  generalize n.natAbs = m
  by_cases hm : m = 0
  · subst hm
    rw [hpow]
    constructor
    · intro h
      exact absurd h Magnitude.nearest?_zero_ne_none
    · intro h
      generalize 2 ^ k = unit at h hunit
      omega
  · rw [Magnitude.nearest?_one_eq_none_iff hm]
    rcases Nat.lt_trichotomy m.log2 (k + 53) with hlt | heq | hgt
    · have hsmall : m < 2 ^ (k + 53) := (Nat.log2_lt hm).mp hlt
      rw [hpow] at hsmall ⊢
      generalize 2 ^ k = unit at hsmall hunit
      omega
    · rw [← Magnitude.carry_iff heq]
      omega
    · have hlarge : 2 ^ (k + 54) ≤ m := (Nat.le_log2 hm).mp hgt
      omega

end Double

end CommandBar
