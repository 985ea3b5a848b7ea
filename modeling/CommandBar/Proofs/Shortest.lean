/-
The decimal that is written for a double reads back as that double.

Reading a decimal is rounding a quotient, and the two shortcuts that reading takes
for very large and very small numbers give what rounding would give.  Once they are
out of the way, reading depends on the number alone and not on how it is split into
digits and an exponent, because a quotient rounds as it does in lower terms.  So
zeros at the end of the digits make no difference, and it is enough that the decimal
they are taken from reads back: a decimal found on a grid was tested, and the exact
expansion is in lowest terms the magnitude itself.
-/
import CommandBar.Decimal.Shortest
import CommandBar.Proofs.Double

namespace CommandBar

/-! ### Quotients in lower terms -/

theorem divNearest_mul_right (num den : Nat) {k : Nat} (hk : 0 < k) :
    divNearest (num * k) (den * k) = divNearest num den := by
  have hquot : num * k / (den * k) = num / den := Nat.mul_div_mul_right num den hk
  have hrest : num * k % (den * k) = num % den * k := Nat.mul_mod_mul_right k num den
  have hlt : ∀ a b : Nat, 2 * (a * k) < b * k ↔ 2 * a < b := by
    intro a b
    rw [← Nat.mul_assoc]
    exact Nat.mul_lt_mul_right hk
  have hgt : ∀ a b : Nat, b * k < 2 * (a * k) ↔ b < 2 * a := by
    intro a b
    rw [← Nat.mul_assoc]
    exact Nat.mul_lt_mul_right hk
  unfold divNearest
  simp only [hquot, hrest, hlt, hgt]

theorem divNearest_self_mul (q : Nat) {den : Nat} (hden : 0 < den) :
    divNearest (q * den) den = q := by
  have hone := divNearest_mul_right q 1 hden
  rw [Nat.one_mul] at hone
  rw [hone]
  simp [divNearest, Nat.mod_one]

/-- A quotient below one half rounds to zero. -/
theorem divNearest_eq_zero {num den : Nat} (h : 2 * num < den) : divNearest num den = 0 := by
  have hlt : num < den := by omega
  simp [divNearest, Nat.div_eq_of_lt hlt, Nat.mod_eq_of_lt hlt, h]

namespace Magnitude

theorem nearest?_mul_right (num den : Nat) {k : Nat} (hk : 0 < k) :
    nearest? (num * k) (den * k) = nearest? num den := by
  have hscaled : num * k * Nat.pow 2 1074 = num * Nat.pow 2 1074 * k := Nat.mul_right_comm _ _ _
  have hexp : num * Nat.pow 2 1074 * k / (den * k) = num * Nat.pow 2 1074 / den :=
    Nat.mul_div_mul_right _ _ hk
  have hsig : ∀ e, divNearest (num * Nat.pow 2 1074 * k) (den * k * Nat.pow 2 e) =
      divNearest (num * Nat.pow 2 1074) (den * Nat.pow 2 e) := by
    intro e
    rw [Nat.mul_right_comm den k]
    exact divNearest_mul_right _ _ hk
  unfold nearest?
  simp only [hscaled, hexp, hsig]

/-- A quotient below half of the least magnitude rounds to zero. -/
theorem nearest?_eq_nothing {num den : Nat} (h : 2 * (num * 2 ^ 1074) < den) :
    nearest? num den = some nothing := by
  have hquot : num * 2 ^ 1074 / den = 0 := Nat.div_eq_of_lt (by omega)
  have hsig : divNearest (num * 2 ^ 1074) (den * 1) = 0 := by
    rw [Nat.mul_one]
    exact divNearest_eq_zero h
  unfold nearest?
  simp only [Nat.pow_eq, hquot, Nat.log2_zero, Nat.zero_sub, Nat.pow_zero, hsig, -Nat.reducePow]
  rfl

/-- Dividing by the scale gives the number of units, so a magnitude is its own nearest. -/
theorem nearest?_units (m : Magnitude) : nearest? m.units (2 ^ 1074) = some m := by
  have hscale : 0 < 2 ^ 1074 := Nat.two_pow_pos 1074
  have hquot : m.units * 2 ^ 1074 / 2 ^ 1074 = m.units := Nat.mul_div_cancel _ hscale
  have hexp : m.units.log2 - 52 = m.exponent := by
    have hlt := m.significand_lt
    by_cases hzero : m.exponent = 0
    · have hunits : m.units = m.significand := by simp [units, hzero]
      have hlog : m.units.log2 < 53 ∨ m.units = 0 := by
        by_cases hnone : m.units = 0
        · exact Or.inr hnone
        · exact Or.inl ((Nat.log2_lt hnone).mpr (hunits ▸ hlt))
      rcases hlog with hlog | hlog
      · omega
      · rw [hlog, Nat.log2_zero, hzero]
    · have hnormal := m.normal (Nat.pos_of_ne_zero hzero)
      have hpos : 0 < 2 ^ m.exponent := Nat.two_pow_pos _
      have hunits : m.units = m.significand * 2 ^ m.exponent := rfl
      have hne : m.units ≠ 0 := by
        rw [hunits]
        refine Nat.mul_ne_zero ?_ (Nat.ne_of_gt hpos)
        intro hnone
        rw [hnone] at hnormal
        exact absurd hnormal (by decide)
      have hlog : m.units.log2 = 52 + m.exponent := by
        rw [Nat.log2_eq_iff hne, hunits]
        constructor
        · rw [Nat.pow_add]
          exact Nat.mul_le_mul_right _ hnormal
        · rw [show 52 + m.exponent + 1 = 53 + m.exponent by omega, Nat.pow_add]
          exact Nat.mul_lt_mul_of_pos_right hlt hpos
      omega
  have hsig : divNearest (m.units * 2 ^ 1074) (2 ^ 1074 * 2 ^ m.exponent) = m.significand := by
    have hsplit : m.units * 2 ^ 1074 = m.significand * (2 ^ 1074 * 2 ^ m.exponent) := by
      rw [units, Nat.pow_eq, Nat.mul_assoc, Nat.mul_comm (2 ^ m.exponent)]
    rw [hsplit]
    exact divNearest_self_mul _ (Nat.mul_pos hscale (Nat.two_pow_pos _))
  unfold nearest?
  simp only [Nat.pow_eq, hquot, hexp, hsig]
  exact dif_pos ⟨m.significand_lt, m.exponent_le, m.normal⟩

/-! ### Reading a decimal is rounding -/

/-- A number of four hundred digits and more is too large. -/
theorem nearest?_large {digits places : Nat} (hdigits : digits ≠ 0) (hplaces : 400 < places) :
    nearest? (digits * 10 ^ places) 1 = none := by
  have hne : digits * 10 ^ places ≠ 0 :=
    Nat.mul_ne_zero hdigits (Nat.ne_of_gt (Nat.pow_pos (by decide)))
  rw [nearest?_one_eq_none_iff hne]
  left
  rw [Nat.le_log2 hne]
  calc 2 ^ 1024 ≤ 2 ^ (3 * places) := Nat.pow_le_pow_right (by decide) (by omega)
    _ = 8 ^ places := by rw [Nat.pow_mul]
    _ ≤ 10 ^ places := Nat.pow_le_pow_left (by decide) _
    _ ≤ digits * 10 ^ places := Nat.le_mul_of_pos_left _ (Nat.pos_of_ne_zero hdigits)

/-- The bound by the logarithm is a bound on the number. -/
theorem nearest?_small {digits places : Nat} (h : digits.log2 + 1200 < 3 * places) :
    nearest? digits (10 ^ places) = some nothing := by
  refine nearest?_eq_nothing ?_
  calc 2 * (digits * 2 ^ 1074) = digits * 2 ^ 1075 := by
        rw [Nat.mul_left_comm, ← Nat.pow_add_one']
    _ < 2 ^ (digits.log2 + 1) * 2 ^ 1075 :=
        Nat.mul_lt_mul_of_pos_right Nat.lt_log2_self (Nat.two_pow_pos _)
    _ = 2 ^ (digits.log2 + 1 + 1075) := (Nat.pow_add _ _ _).symm
    _ ≤ 2 ^ (3 * places) := Nat.pow_le_pow_right (by decide) (by omega)
    _ = 8 ^ places := by rw [Nat.pow_mul]
    _ ≤ 10 ^ places := Nat.pow_le_pow_left (by decide) _

/-- **Reading a decimal rounds it**, whatever the power of ten it is written with. -/
theorem ofDecimal?_eq_nearest (digits up down : Nat) :
    ofDecimal? digits ((up : Int) - down) = nearest? (digits * 10 ^ up) (10 ^ down) := by
  have hten : ∀ k : Nat, 0 < 10 ^ k := fun k => Nat.pow_pos (by decide)
  have hreduce : nearest? (digits * 10 ^ up) (10 ^ down) =
      nearest? (digits * 10 ^ (up - down)) (10 ^ (down - up)) := by
    rcases Nat.le_total down up with hle | hle
    · have hup : digits * 10 ^ up = digits * 10 ^ (up - down) * 10 ^ down := by
        rw [Nat.mul_assoc, ← Nat.pow_add, Nat.sub_add_cancel hle]
      have hdown : 10 ^ down = 10 ^ (down - up) * 10 ^ down := by
        rw [Nat.sub_eq_zero_of_le hle, Nat.pow_zero, Nat.one_mul]
      calc nearest? (digits * 10 ^ up) (10 ^ down)
          = nearest? (digits * 10 ^ (up - down) * 10 ^ down) (10 ^ (down - up) * 10 ^ down) := by
            rw [hup, ← hdown]
        _ = nearest? (digits * 10 ^ (up - down)) (10 ^ (down - up)) :=
            nearest?_mul_right _ _ (hten down)
    · have hdown : 10 ^ down = 10 ^ (down - up) * 10 ^ up := by
        rw [← Nat.pow_add, Nat.sub_add_cancel hle]
      rw [hdown, nearest?_mul_right _ _ (hten up), Nat.sub_eq_zero_of_le hle, Nat.pow_zero,
        Nat.mul_one]
  rw [hreduce]
  unfold ofDecimal?
  by_cases hdigits : digits = 0
  · rw [if_pos hdigits, hdigits, Nat.zero_mul, nearest?_eq_nothing]
    rw [Nat.zero_mul, Nat.mul_zero]
    exact hten _
  rw [if_neg hdigits]
  by_cases hsign : (0 : Int) ≤ (up : Int) - down
  · have hto : ((up : Int) - down).toNat = up - down := by omega
    have hzero : down - up = 0 := by omega
    rw [if_pos hsign, hto, hzero, Nat.pow_zero]
    split
    · exact (nearest?_large hdigits (by omega)).symm
    · rfl
  · have hto : (-((up : Int) - down)).toNat = down - up := by omega
    have hzero : up - down = 0 := by omega
    simp only [if_neg hsign, hto, hzero, Nat.pow_zero, Nat.mul_one]
    split
    · next hsmall => exact (nearest?_small hsmall).symm
    · rfl

/-- Zeros at the end of the digits can be moved into the exponent. -/
theorem ofDecimal?_mul_pow (digits k : Nat) (exponent : Int) :
    ofDecimal? (digits * 10 ^ k) exponent = ofDecimal? digits (exponent + k) := by
  have hleft : exponent = ((exponent.toNat : Int) - (-exponent).toNat) := by omega
  have hright : exponent + k = (((exponent.toNat + k : Nat) : Int) - (-exponent).toNat) := by omega
  calc ofDecimal? (digits * 10 ^ k) exponent
      = nearest? (digits * 10 ^ k * 10 ^ exponent.toNat) (10 ^ (-exponent).toNat) := by
        rw [← ofDecimal?_eq_nearest, ← hleft]
    _ = nearest? (digits * 10 ^ (exponent.toNat + k)) (10 ^ (-exponent).toNat) := by
        rw [Nat.add_comm, Nat.pow_add, Nat.mul_assoc]
    _ = ofDecimal? digits (exponent + k) := by
        rw [hright, ofDecimal?_eq_nearest]

theorem ofDecimal?_zero (exponent : Int) : ofDecimal? 0 exponent = some nothing :=
  if_pos rfl

/-! ### What is written reads back -/

/-- With as many fives as places the powers of ten become powers of two. -/
theorem ofDecimal?_mul_five (num places : Nat) :
    ofDecimal? (num * 5 ^ places) (-(places : Int)) = nearest? num (2 ^ places) := by
  have hten : 10 ^ places = 2 ^ places * 5 ^ places := Nat.mul_pow 2 5 places
  have hread := ofDecimal?_eq_nearest (num * 5 ^ places) 0 places
  rwa [Nat.pow_zero, Nat.mul_one, hten, nearest?_mul_right _ _ (Nat.pow_pos (by decide)),
    Int.natCast_zero, Int.zero_sub] at hread

theorem ofDecimal?_exact (m : Magnitude) :
    ofDecimal? m.exact.digits m.exact.exponent = some m := by
  rw [← nearest?_units, ← ofDecimal?_mul_five]
  rfl

/-- Of two candidates that are tested, the one that is taken has passed the test. -/
theorem readsAs_of_tested {m : Magnitude} {first second s : Scientific}
    (h : (if first.readsAs m then some first else if second.readsAs m then some second else none) =
      some s) : s.readsAs m = true := by
  by_cases hfirst : first.readsAs m = true
  · rw [if_pos hfirst] at h
    exact Option.some.inj h ▸ hfirst
  · rw [if_neg hfirst] at h
    by_cases hsecond : second.readsAs m = true
    · rw [if_pos hsecond] at h
      exact Option.some.inj h ▸ hsecond
    · rw [if_neg hsecond] at h
      exact absurd h (by simp)

theorem ofDecimal?_of_onGrid? {m : Magnitude} {place : Int} {s : Scientific}
    (h : m.onGrid? place = some s) : ofDecimal? s.digits s.exponent = some m := by
  have hreads : s.readsAs m = true := readsAs_of_tested h
  simpa [Scientific.readsAs] using hreads

theorem ofDecimal?_stripZeros (fuel : Nat) (s : Scientific) :
    ofDecimal? (s.stripZeros fuel).digits (s.stripZeros fuel).exponent =
      ofDecimal? s.digits s.exponent := by
  induction fuel generalizing s with
  | zero => rfl
  | succ fuel ih =>
      rw [Scientific.stripZeros]
      by_cases hten : s.digits % 10 = 0
      · have hdigits : s.digits / 10 * 10 ^ 1 = s.digits := by omega
        rw [if_pos hten, ih, ← hdigits, ofDecimal?_mul_pow, hdigits]
        rfl
      · rw [if_neg hten]

/-- **The shortest decimal of a magnitude reads back as the magnitude.** -/
theorem ofDecimal?_shortest (m : Magnitude) :
    ofDecimal? m.shortest.digits m.shortest.exponent = some m := by
  have hfound : ∀ found : Option Scientific,
      (∀ s ∈ found, ofDecimal? s.digits s.exponent = some m) →
        ofDecimal? (found.getD m.exact).digits (found.getD m.exact).exponent = some m := by
    intro found h
    cases found with
    | none =>
        rw [Option.getD_none]
        exact m.ofDecimal?_exact
    | some s => exact h s rfl
  rw [shortest, ofDecimal?_stripZeros]
  refine hfound _ fun s hs => ?_
  obtain ⟨n, -, hgrid⟩ := List.exists_of_findSome?_eq_some hs
  exact ofDecimal?_of_onGrid? hgrid

/-- So its digits are not zero, unless the magnitude is. -/
theorem shortest_digits_ne_zero {m : Magnitude} (h : m.significand ≠ 0) :
    m.shortest.digits ≠ 0 := by
  intro hzero
  have hread := m.ofDecimal?_shortest
  rw [hzero, ofDecimal?_zero, Option.some.injEq] at hread
  exact h (hread ▸ rfl)

end Magnitude

end CommandBar
