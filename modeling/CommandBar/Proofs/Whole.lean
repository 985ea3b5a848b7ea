/-
Which integers are doubles.

A double and an integer are compared in units of 2^-1074, the least positive double,
in which both are whole, so there is nothing to divide.  A double equals an integer
if they are as many units, and it is then what the integer rounds to, because the
quotient that is rounded is the double itself.

An integer that is some double has 53 bits and zeros behind them, of which there can
be 971 before it overflows.  Conversely these 53 bits with the right exponent are the
double, and the exponent is read off the logarithm as rounding reads it.
-/
import CommandBar.Proofs.Shortest

namespace CommandBar

namespace Double

/-- The number one in units of 2^-1074. -/
def one : Nat :=
  Nat.pow 2 1074

theorem one_pos : 0 < one :=
  Nat.two_pow_pos 1074

/-- The double in units of 2^-1074, unless it is not finite. -/
def units? : Double → Option Int
  | finite negative m => some (if negative then -(m.units : Int) else m.units)
  | _ => none

/-- The integer has 53 bits, with no more zeros behind them than the greatest double has. -/
def Holds (n : Int) : Prop :=
  ∃ bits zeros, n.natAbs = bits * 2 ^ zeros ∧ bits < 2 ^ 53 ∧ zeros ≤ 971

/-! ### Doubles that are integers -/

section Units

variable {x : Double} {n : Int} {negative : Bool} {m : Magnitude}

/-- A number of units is whole exactly if nothing is left when ones are taken out of it. -/
theorem eq_mul_one_iff {units : Nat} :
    (units : Int) = n * one ↔ units % one = 0 ∧ ((units / one : Nat) : Int) = n := by
  have hone : (one : Int) ≠ 0 := Int.natCast_ne_zero.mpr (Nat.ne_of_gt one_pos)
  rw [← Int.natCast_inj, Int.natCast_emod, Int.natCast_ediv, Int.natCast_zero]
  constructor
  · intro h
    rw [h]
    exact ⟨Int.mul_emod_left n one, Int.mul_ediv_cancel n hone⟩
  · rintro ⟨hrest, rfl⟩
    exact (Int.ediv_mul_cancel (Int.dvd_of_emod_eq_zero hrest)).symm

/-- A double is an integer exactly if it is as many units as the integer. -/
theorem toInt?_eq_some_iff : x.toInt? = some n ↔ x.units? = some (n * one) := by
  cases x with
  | nan => exact iff_of_false (Option.some_ne_none _).symm (Option.some_ne_none _).symm
  | infinite negative =>
      exact iff_of_false (Option.some_ne_none _).symm (Option.some_ne_none _).symm
  | finite negative m =>
      rw [toInt?, units?, Option.some.injEq, ← one]
      cases negative with
      | true =>
          have hneg : -(m.units : Int) = n * one ↔ (m.units : Int) = -n * one := by
            rw [Int.neg_mul, Int.neg_eq_comm, eq_comm]
          rw [if_pos rfl, hneg, eq_mul_one_iff]
          split
          · next hwhole =>
              rw [Option.some.injEq, if_pos rfl, Int.neg_eq_comm, eq_comm]
              exact (and_iff_right hwhole).symm
          · next hrest =>
              exact iff_of_false (Option.some_ne_none _).symm fun hwhole => hrest hwhole.1
      | false =>
          rw [if_neg Bool.false_ne_true, eq_mul_one_iff]
          split
          · next hwhole =>
              rw [Option.some.injEq, if_neg Bool.false_ne_true]
              exact (and_iff_right hwhole).symm
          · next hrest =>
              exact iff_of_false (Option.some_ne_none _).symm fun hwhole => hrest hwhole.1

/-- The nearest magnitude to a whole number of ones is that number, if there is one. -/
theorem nearest?_of_units {k : Nat} (h : m.units = k * one) : Magnitude.nearest? k 1 = some m := by
  rw [← Magnitude.nearest?_mul_right k 1 one_pos, ← h, Nat.one_mul]
  exact m.nearest?_units

/-- A double with the sign of the integer and as many units is the integer. -/
theorem toInt?_of_units (h : m.units = n.natAbs * one) :
    (finite (decide (n < 0)) m).toInt? = some n := by
  rw [toInt?_eq_some_iff, units?, h, Option.some.injEq, Int.natCast_mul]
  by_cases hneg : n < 0
  · rw [if_pos (by simpa using hneg), ← Int.neg_mul]
    congr 1
    omega
  · rw [if_neg (by simpa using hneg)]
    congr 1
    omega

/-- A double that is an integer is finite, with as many units. -/
theorem exists_units_of_toInt? (h : x.toInt? = some n) :
    ∃ negative m, x = finite negative m ∧ m.units = n.natAbs * one := by
  rw [toInt?_eq_some_iff] at h
  cases x with
  | nan => exact absurd h.symm (Option.some_ne_none _)
  | infinite negative => exact absurd h.symm (Option.some_ne_none _)
  | finite negative m =>
      rw [units?, Option.some.injEq] at h
      have habs := congrArg Int.natAbs h
      rw [Int.natAbs_mul, Int.natAbs_natCast] at habs
      refine ⟨negative, m, rfl, ?_⟩
      cases negative with
      | true => simpa using habs
      | false => simpa using habs

/-- An integer that is a double rounds to it, but for the sign of zero. -/
theorem exists_ofInt?_of_toInt? (h : x.toInt? = some n) :
    ∃ y, ofInt? n = some y ∧ y.toInt? = some n := by
  obtain ⟨negative, m, -, hunits⟩ := exists_units_of_toInt? h
  refine ⟨finite (decide (n < 0)) m, ?_, toInt?_of_units hunits⟩
  rw [ofInt?, nearest?_of_units hunits, Option.map_some]

/-! ### Integers that are doubles -/

/-- A significand with an exponent has 53 bits, whether the exponent reaches the ones or not. -/
theorem holds_of_units (h : m.units = n.natAbs * one) : Holds n := by
  have hunits : m.significand * 2 ^ m.exponent = n.natAbs * 2 ^ 1074 := h
  have hbits := m.significand_lt
  have hexponent := m.exponent_le
  by_cases hhigh : 1074 ≤ m.exponent
  · refine ⟨m.significand, m.exponent - 1074, ?_, hbits, by omega⟩
    rw [← Nat.sub_add_cancel hhigh, Nat.pow_add, ← Nat.mul_assoc] at hunits
    exact (Nat.eq_of_mul_eq_mul_right (Nat.two_pow_pos 1074) hunits).symm
  · refine ⟨n.natAbs, 0, (Nat.mul_one _).symm, ?_, Nat.zero_le _⟩
    have hlow : 1074 - m.exponent + m.exponent = 1074 := by omega
    rw [← hlow, Nat.pow_add, ← Nat.mul_assoc] at hunits
    have hsignificand := Nat.eq_of_mul_eq_mul_right (Nat.two_pow_pos m.exponent) hunits
    calc n.natAbs ≤ n.natAbs * 2 ^ (1074 - m.exponent) :=
          Nat.le_mul_of_pos_right _ (Nat.two_pow_pos _)
      _ = m.significand := hsignificand.symm
      _ < 2 ^ 53 := hbits

/-- The magnitude of an integer with 53 bits and zeros behind them. -/
theorem exists_units_of_holds (h : Holds n) : ∃ m : Magnitude, m.units = n.natAbs * one := by
  obtain ⟨bits, zeros, habs, hbits, hzeros⟩ := h
  generalize n.natAbs = k at habs
  by_cases hk : k = 0
  · exact ⟨Magnitude.nothing, by rw [hk, Nat.zero_mul]; rfl⟩
  have hlog : k.log2 < 53 + zeros := by
    rw [Nat.log2_lt hk, habs, Nat.pow_add]
    exact Nat.mul_lt_mul_of_pos_right hbits (Nat.two_pow_pos zeros)
  -- the bits are moved up until they are 53
  have hmoved : bits * 2 ^ (zeros + 52 - k.log2) * 2 ^ k.log2 = k * 2 ^ 52 := by
    rw [Nat.mul_assoc, ← Nat.pow_add, Nat.sub_add_cancel (by omega), Nat.pow_add, ← Nat.mul_assoc,
      ← habs]
  have hlow : 2 ^ 52 ≤ bits * 2 ^ (zeros + 52 - k.log2) := by
    refine Nat.le_of_mul_le_mul_right ?_ (Nat.two_pow_pos k.log2)
    rw [hmoved, Nat.mul_comm]
    exact Nat.mul_le_mul_right _ (Nat.log2_self_le hk)
  have hhigh : bits * 2 ^ (zeros + 52 - k.log2) < 2 ^ 53 := by
    refine Nat.lt_of_mul_lt_mul_right (a := 2 ^ k.log2) ?_
    rw [hmoved, Nat.mul_comm k, ← Nat.pow_add, show 53 + k.log2 = 52 + (k.log2 + 1) by omega,
      Nat.pow_add]
    exact Nat.mul_lt_mul_of_pos_left Nat.lt_log2_self (Nat.two_pow_pos 52)
  refine ⟨⟨_, k.log2 + 1022, hhigh, by omega, fun _ => hlow⟩, ?_⟩
  calc bits * 2 ^ (zeros + 52 - k.log2) * 2 ^ (k.log2 + 1022)
      = bits * 2 ^ (zeros + 52 - k.log2) * 2 ^ k.log2 * 2 ^ 1022 := by
        rw [Nat.pow_add 2 k.log2 1022, ← Nat.mul_assoc]
    _ = k * (2 ^ 52 * 2 ^ 1022) := by rw [hmoved, Nat.mul_assoc]
    _ = k * one := by rw [← Nat.pow_add 2 52 1022]; rfl

/-- **The integers that are doubles have 53 bits.** -/
theorem exists_toInt?_iff : (∃ x : Double, x.toInt? = some n) ↔ Holds n := by
  constructor
  · rintro ⟨x, hx⟩
    obtain ⟨negative, m, -, hunits⟩ := exists_units_of_toInt? hx
    exact holds_of_units hunits
  · intro h
    obtain ⟨m, hunits⟩ := exists_units_of_holds h
    exact ⟨_, toInt?_of_units hunits⟩

end Units

end Double

end CommandBar
