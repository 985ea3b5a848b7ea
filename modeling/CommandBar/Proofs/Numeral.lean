/-
Numbers read back from their text.

A numeral is what a number without its sign is made of: the digits before the point,
those after it, and the sign and digits of an exponent.  Reading takes exactly these
parts off the front of a text, as long as nothing follows that would lengthen the
last of them, so what is left to say of each layout is which numeral it writes and
that this numeral stands for the same decimal.
-/
import CommandBar.Json.Reader
import CommandBar.Json.Writer
import CommandBar.Proofs.Shortest
import Mathlib.Data.List.TakeDrop

namespace CommandBar

/-! ### The digits of a number -/

theorem toDigits_isDigit (n : Nat) : ∀ c ∈ Nat.toDigits 10 n, c.isDigit = true :=
  fun _ hc => Nat.isDigit_of_mem_toDigits (by decide) (by decide) hc

theorem digitChar_ne_zero : ∀ d < 10, d ≠ 0 → some (Nat.digitChar d) ≠ some '0' := by
  decide

/-- No number but zero begins with a zero. -/
theorem toDigits_head? {n : Nat} (hn : n ≠ 0) : (Nat.toDigits 10 n).head? ≠ some '0' := by
  induction n using Nat.strongRecOn with
  | ind n ih =>
      by_cases hlt : n < 10
      · rw [Nat.toDigits_of_lt_base hlt]
        exact digitChar_ne_zero n hlt hn
      · have hle : 10 ≤ n := Nat.le_of_not_lt hlt
        rw [Nat.toDigits_of_base_le (by decide) hle,
          List.head?_append]
        intro hhead
        refine ih (n / 10) (by omega) (by omega) ?_
        cases hdigits : Nat.toDigits 10 (n / 10) with
        | nil => exact absurd hdigits Nat.toDigits_ne_nil
        | cons d ds => simpa [hdigits] using hhead

/-- The digits spell a positive number. -/
structure Spells (ds : List Char) (n : Nat) : Prop where
  isDigit : ∀ c ∈ ds, c.isDigit = true
  ne_nil : ds ≠ []
  lead : ds.head? ≠ some '0'
  value : Nat.ofDigitChars 10 ds 0 = n

theorem spells_toDigits {n : Nat} (hn : n ≠ 0) : Spells (Nat.toDigits 10 n) n where
  isDigit := toDigits_isDigit n
  ne_nil := Nat.toDigits_ne_nil
  lead := toDigits_head? hn
  value := Nat.ofDigitChars_ten_toDigits

theorem ofDigitChars_zeros (k : Nat) (ds : List Char) :
    Nat.ofDigitChars 10 (List.replicate k '0' ++ ds) 0 = Nat.ofDigitChars 10 ds 0 := by
  rw [Nat.ofDigitChars_append, Nat.ofDigitChars_replicate_zero, Nat.mul_zero]

namespace Json

/-- The text of a number with its sign. -/
def signed (negative : Bool) (cs : List Char) : List Char :=
  if negative then '-' :: cs else cs

/-- What may follow a value in a text: nothing, or what ends the value. -/
def Ends (rest : List Char) : Prop :=
  ∀ c ∈ rest.head?, c = ',' ∨ c = ']' ∨ c = '}'

/-- The parts of a number without its sign. -/
structure Numeral where
  whole : List Char
  places : List Char := []
  /-- Whether the exponent is negative, and its digits. -/
  power : Option (Bool × List Char) := none
  whole_isDigit : ∀ c ∈ whole, c.isDigit = true
  whole_ne_nil : whole ≠ []
  /-- A zero at the front stands alone. -/
  whole_lead : whole = ['0'] ∨ whole.head? ≠ some '0'
  places_isDigit : ∀ c ∈ places, c.isDigit = true
  power_isDigit : ∀ entry ∈ power, entry.2 ≠ [] ∧ ∀ c ∈ entry.2, c.isDigit = true

namespace Numeral

/-- The digits after the point, with the point if there are any. -/
def fraction (n : Numeral) : List Char :=
  if n.places = [] then [] else '.' :: n.places

/-- The exponent with its mark and its sign. -/
def scale (n : Numeral) : List Char :=
  match n.power with
  | none => []
  | some (negative, ds) => 'e' :: (if negative then '-' else '+') :: ds

def text (n : Numeral) : List Char :=
  n.whole ++ (n.fraction ++ n.scale)

/-- All digits but those of the exponent. -/
def digits (n : Numeral) : Nat :=
  Nat.ofDigitChars 10 (n.whole ++ n.places) 0

/-- The value of the exponent. -/
def powerValue (n : Numeral) : Int :=
  match n.power with
  | none => 0
  | some (negative, ds) =>
    let value : Int := Nat.ofDigitChars 10 ds 0
    if negative then -value else value

/-- The power of ten of the last digit. -/
def exponent (n : Numeral) : Int :=
  n.powerValue - n.places.length

end Numeral

/-! ### Taking the parts off a text -/

section Parts

variable {ds rest : List Char}

theorem span_isDigit (hds : ∀ c ∈ ds, c.isDigit = true)
    (hrest : ∀ c ∈ rest.head?, c.isDigit = false) :
    (ds ++ rest).span Char.isDigit = (ds, rest) := by
  rw [List.span_eq_takeWhile_dropWhile, List.takeWhile_append_of_pos hds,
    List.dropWhile_append_of_pos hds]
  cases rest with
  | nil => simp
  | cons c rest =>
      have hc : c.isDigit = false := hrest c rfl
      simp [hc]

theorem wholeDigits_append (hds : ∀ c ∈ ds, c.isDigit = true) (hne : ds ≠ [])
    (hlead : ds = ['0'] ∨ ds.head? ≠ some '0') (hrest : ∀ c ∈ rest.head?, c.isDigit = false) :
    wholeDigits (ds ++ rest) = (ds, rest) := by
  rcases hlead with hzero | hlead
  · rw [hzero]
    rfl
  · cases ds with
    | nil => exact absurd rfl hne
    | cons d ds =>
        have hd : d ≠ '0' := by simpa using hlead
        show wholeDigits (d :: (ds ++ rest)) = (d :: ds, rest)
        rw [wholeDigits]
        · exact span_isDigit hds hrest
        · intro tail heq
          exact hd (List.cons.inj heq).1

theorem fractionDigits_point (hds : ∀ c ∈ ds, c.isDigit = true) (hne : ds ≠ [])
    (hrest : ∀ c ∈ rest.head?, c.isDigit = false) :
    fractionDigits ('.' :: (ds ++ rest)) = (ds, rest) := by
  cases ds with
  | nil => exact absurd rfl hne
  | cons d ds =>
      rw [fractionDigits, span_isDigit hds hrest]

theorem fractionDigits_none (hrest : rest.head? ≠ some '.') :
    fractionDigits rest = ([], rest) := by
  cases rest with
  | nil => rfl
  | cons c rest =>
      have hc : c ≠ '.' := by simpa using hrest
      simp [fractionDigits, hc]

theorem exponentValue?_mark (negative : Bool) (hds : ∀ c ∈ ds, c.isDigit = true) (hne : ds ≠ [])
    (hrest : ∀ c ∈ rest.head?, c.isDigit = false) :
    exponentValue? ('e' :: (if negative then '-' else '+') :: (ds ++ rest)) =
      some (if negative then -(Nat.ofDigitChars 10 ds 0 : Int) else Nat.ofDigitChars 10 ds 0,
        rest) := by
  have hspan := span_isDigit hds hrest
  cases ds with
  | nil => exact absurd rfl hne
  | cons d ds =>
      cases negative <;>
        simp only [exponentValue?, hspan, true_or, if_true, Bool.false_eq_true, if_false]

theorem exponentValue?_none (hrest : ∀ c ∈ rest.head?, c ≠ 'e' ∧ c ≠ 'E') :
    exponentValue? rest = none := by
  cases rest with
  | nil => rfl
  | cons c rest =>
      obtain ⟨he, hE⟩ := hrest c rfl
      simp [exponentValue?, he, hE]

end Parts

/-! ### Reading a numeral -/

namespace Ends

variable {rest : List Char}

theorem nil : Ends [] := by
  intro c hc
  simp at hc

theorem isDigit (h : Ends rest) : ∀ c ∈ rest.head?, c.isDigit = false := by
  intro c hc
  rcases h c hc with rfl | rfl | rfl <;> rfl

theorem ne_point (h : Ends rest) : rest.head? ≠ some '.' := by
  intro hc
  rcases h '.' hc with h | h | h <;> exact absurd h (by decide)

theorem ne_mark (h : Ends rest) : ∀ c ∈ rest.head?, c ≠ 'e' ∧ c ≠ 'E' := by
  intro c hc
  rcases h c hc with rfl | rfl | rfl <;> decide

end Ends

namespace Numeral

variable {n : Numeral} {rest : List Char}

theorem scale_head? (n : Numeral) (hrest : Ends rest) :
    ∀ c ∈ (n.scale ++ rest).head?, c.isDigit = false ∧ c ≠ '.' := by
  intro c hc
  unfold scale at hc
  cases hpower : n.power with
  | none =>
      rw [hpower] at hc
      refine ⟨hrest.isDigit c hc, ?_⟩
      rintro rfl
      exact hrest.ne_point hc
  | some entry =>
      rw [hpower] at hc
      obtain rfl : 'e' = c := by simpa using hc
      decide

theorem fraction_head? (n : Numeral) (hrest : Ends rest) :
    ∀ c ∈ (n.fraction ++ (n.scale ++ rest)).head?, c.isDigit = false := by
  intro c hc
  unfold fraction at hc
  by_cases hplaces : n.places = []
  · rw [if_pos hplaces] at hc
    exact (n.scale_head? hrest c hc).1
  · rw [if_neg hplaces] at hc
    obtain rfl : '.' = c := by simpa using hc
    rfl

theorem text_append (n : Numeral) (rest : List Char) :
    n.text ++ rest = n.whole ++ (n.fraction ++ (n.scale ++ rest)) := by
  simp only [text, List.append_assoc]

theorem wholeDigits_text (n : Numeral) (hrest : Ends rest) :
    wholeDigits (n.text ++ rest) = (n.whole, n.fraction ++ (n.scale ++ rest)) := by
  rw [text_append]
  exact wholeDigits_append n.whole_isDigit n.whole_ne_nil n.whole_lead (n.fraction_head? hrest)

theorem fractionDigits_text (n : Numeral) (hrest : Ends rest) :
    fractionDigits (n.fraction ++ (n.scale ++ rest)) = (n.places, n.scale ++ rest) := by
  have hscale := n.scale_head? hrest
  unfold fraction
  by_cases hplaces : n.places = []
  · rw [if_pos hplaces, hplaces, List.nil_append]
    refine fractionDigits_none fun hc => ?_
    exact (hscale _ hc).2 rfl
  · rw [if_neg hplaces]
    exact fractionDigits_point n.places_isDigit hplaces fun c hc => (hscale c hc).1

theorem exponentValue?_text (n : Numeral) (hrest : Ends rest) :
    exponentValue? (n.scale ++ rest) = n.power.map fun _ => (n.powerValue, rest) := by
  have hdigits := n.power_isDigit
  unfold scale powerValue
  cases hpower : n.power with
  | none => exact exponentValue?_none hrest.ne_mark
  | some entry =>
      obtain ⟨hne, hds⟩ := hdigits entry hpower
      exact exponentValue?_mark entry.1 hds hne hrest.isDigit

/-- A numeral begins with a digit. -/
theorem exists_text (n : Numeral) (rest : List Char) :
    ∃ d ds, d.isDigit = true ∧ n.whole = d :: ds ∧
      n.text ++ rest = d :: (ds ++ (n.fraction ++ (n.scale ++ rest))) := by
  obtain ⟨d, ds, hds⟩ := List.exists_cons_of_ne_nil n.whole_ne_nil
  have hd : d.isDigit = true := n.whole_isDigit d (by simp [hds])
  exact ⟨d, ds, hd, hds, by rw [text_append, hds, List.cons_append]⟩

/-- **Reading takes a numeral apart into its parts.** -/
theorem readNumber_signed (n : Numeral) (negative : Bool) (hrest : Ends rest) :
    readNumber (signed negative (n.text ++ rest)) =
      match n.power with
      | some _ => .ok (.float (.ofDecimal negative n.digits n.exponent), rest)
      | none =>
        if n.places ≠ [] then .ok (.float (.ofDecimal negative n.digits n.exponent), rest)
        else if digitLimit < n.whole.length then .error (.tooManyDigits n.whole.length)
        else .ok (.int (if negative then -(n.digits : Int) else n.digits), rest) := by
  have hwhole := n.wholeDigits_text hrest
  have hplaces := n.fractionDigits_text hrest
  have hpower := n.exponentValue?_text hrest
  obtain ⟨d, ds, hd, hds, htext⟩ := n.exists_text rest
  have hminus : d ≠ '-' := by
    rintro rfl
    exact absurd hd (by decide)
  rw [htext, hds] at hwhole
  rw [htext]
  cases hn : n.power with
  | some entry =>
      cases negative <;>
        simp [signed, readNumber, hwhole, hplaces, hpower, hminus, hn, hds, digits, exponent]
  | none =>
      have hscale : n.scale = [] := by rw [scale, hn]
      have hvalue : n.powerValue = 0 := by rw [powerValue, hn]
      rw [hscale, List.nil_append] at hwhole hplaces hpower ⊢
      cases negative <;>
        simp [signed, readNumber, hwhole, hplaces, hpower, hminus, hn, hds, digits, exponent,
          hvalue]

/-! ### The layouts -/

/-- The numeral has a point or an exponent, and stands for that decimal. -/
structure Writes (n : Numeral) (s : Scientific) : Prop where
  text_eq : s.text = n.text
  point_or_power : n.places ≠ [] ∨ n.power ≠ none
  reads : Magnitude.ofDecimal? n.digits n.exponent = Magnitude.ofDecimal? s.digits s.exponent

section Layout

variable {s : Scientific} {ds : List Char} {point : Int}

/-- Zeros stand between the point and the digits. -/
theorem exists_writes_below (h : Spells ds s.digits) (hds : ds = Nat.toDigits 10 s.digits)
    (hpoint : point = ds.length + s.exponent) (hlow : -4 < point) (hhigh : point ≤ 0) :
    ∃ n : Numeral, n.Writes s := by
  let n : Numeral := {
    whole := ['0']
    places := List.replicate (-point).toNat '0' ++ ds
    whole_isDigit := List.all_eq_true.mp rfl
    whole_ne_nil := by decide
    whole_lead := Or.inl rfl
    places_isDigit := by
      intro c hc
      rcases List.mem_append.mp hc with hc | hc
      · rw [(List.mem_replicate.mp hc).2]
        rfl
      · exact h.isDigit c hc
    power_isDigit := by simp }
  have hplaces : n.places ≠ [] := by simp [n, h.ne_nil]
  have hdigits : n.digits = s.digits := by
    show Nat.ofDigitChars 10 (List.replicate 1 '0' ++ (List.replicate (-point).toNat '0' ++ ds)) 0 =
      s.digits
    rw [ofDigitChars_zeros, ofDigitChars_zeros, h.value]
  have hexponent : n.exponent = s.exponent := by
    simp only [n, exponent, powerValue, List.length_append, List.length_replicate]
    omega
  refine ⟨n, ?_, Or.inl hplaces, by rw [hdigits, hexponent]⟩
  rw [text, fraction, if_neg hplaces, Scientific.text, ← hds, ← hpoint]
  simp [n, scale, hlow, hhigh, show point ≤ 16 by omega]

/-- Zeros stand between the digits and the point. -/
theorem exists_writes_above (h : Spells ds s.digits) (hds : ds = Nat.toDigits 10 s.digits)
    (hpoint : point = ds.length + s.exponent) (hlow : 0 < point) (hhigh : point ≤ 16)
    (hlen : (ds.length : Int) ≤ point) : ∃ n : Numeral, n.Writes s := by
  let n : Numeral := {
    whole := ds ++ List.replicate (point.toNat - ds.length) '0'
    places := ['0']
    whole_isDigit := by
      intro c hc
      rcases List.mem_append.mp hc with hc | hc
      · exact h.isDigit c hc
      · rw [(List.mem_replicate.mp hc).2]
        rfl
    whole_ne_nil := by simp [h.ne_nil]
    whole_lead := by
      obtain ⟨d, tail, rfl⟩ := List.exists_cons_of_ne_nil h.ne_nil
      exact Or.inr (by simpa using h.lead)
    places_isDigit := List.all_eq_true.mp rfl
    power_isDigit := by simp }
  have hdigits : n.digits = s.digits * 10 ^ (point.toNat - ds.length + 1) := by
    show Nat.ofDigitChars 10
      (ds ++ List.replicate (point.toNat - ds.length) '0' ++ List.replicate 1 '0') 0 = _
    rw [Nat.ofDigitChars_append, Nat.ofDigitChars_append, Nat.ofDigitChars_replicate_zero,
      Nat.ofDigitChars_replicate_zero, h.value, Nat.pow_add]
    ac_rfl
  have hexponent : n.exponent + (point.toNat - ds.length + 1 : Nat) = s.exponent := by
    simp only [n, exponent, powerValue, List.length_singleton]
    omega
  refine ⟨n, ?_, Or.inl (by simp [n]), ?_⟩
  · rw [text, fraction, if_neg (by simp [n]), Scientific.text, ← hds, ← hpoint]
    simp [n, scale, hhigh, hlen, show -4 < point by omega, show ¬ point ≤ 0 by omega]
  · rw [hdigits, Magnitude.ofDecimal?_mul_pow, hexponent]

/-- The point stands among the digits. -/
theorem exists_writes_among (h : Spells ds s.digits) (hds : ds = Nat.toDigits 10 s.digits)
    (hpoint : point = ds.length + s.exponent) (hlow : 0 < point) (hhigh : point ≤ 16)
    (hlen : point < ds.length) : ∃ n : Numeral, n.Writes s := by
  have hpos : 0 < point.toNat := by omega
  let n : Numeral := {
    whole := ds.take point.toNat
    places := ds.drop point.toNat
    whole_isDigit := fun c hc => h.isDigit c (List.mem_of_mem_take hc)
    whole_ne_nil := by
      intro hnone
      have hlength := congrArg List.length hnone
      rw [List.length_take, List.length_nil] at hlength
      omega
    whole_lead := Or.inr (by rw [List.head?_take, if_neg (by omega)]; exact h.lead)
    places_isDigit := fun c hc => h.isDigit c (List.mem_of_mem_drop hc)
    power_isDigit := by simp }
  have hplaces : n.places ≠ [] := by
    intro hnone
    have hlength := congrArg List.length hnone
    rw [List.length_drop, List.length_nil] at hlength
    omega
  have hdigits : n.digits = s.digits := by
    show Nat.ofDigitChars 10 (ds.take point.toNat ++ ds.drop point.toNat) 0 = s.digits
    rw [List.take_append_drop, h.value]
  have hexponent : n.exponent = s.exponent := by
    simp only [n, exponent, powerValue, List.length_drop]
    omega
  refine ⟨n, ?_, Or.inl hplaces, by rw [hdigits, hexponent]⟩
  rw [text, fraction, if_neg hplaces, Scientific.text, ← hds, ← hpoint]
  simp [n, scale, hhigh, show -4 < point by omega, show ¬ point ≤ 0 by omega,
    show ¬ (ds.length : Int) ≤ point by omega]

theorem exponentDigits_isDigit (k : Nat) : ∀ c ∈ exponentDigits k, c.isDigit = true := by
  intro c hc
  unfold exponentDigits at hc
  split at hc
  · rcases List.mem_cons.mp hc with rfl | hc
    · rfl
    · exact toDigits_isDigit k c hc
  · exact toDigits_isDigit k c hc

theorem ofDigitChars_exponentDigits (k : Nat) :
    Nat.ofDigitChars 10 (exponentDigits k) 0 = k := by
  unfold exponentDigits
  split
  · show Nat.ofDigitChars 10 (List.replicate 1 '0' ++ Nat.toDigits 10 k) 0 = k
    rw [ofDigitChars_zeros, Nat.ofDigitChars_ten_toDigits]
  · exact Nat.ofDigitChars_ten_toDigits

/-- One digit stands before the point, and an exponent behind. -/
theorem exists_writes_power (h : Spells ds s.digits) (hds : ds = Nat.toDigits 10 s.digits)
    (hpoint : point = ds.length + s.exponent) (hout : ¬ (-4 < point ∧ point ≤ 16)) :
    ∃ n : Numeral, n.Writes s := by
  have hlength : 0 < ds.length := List.length_pos_iff.mpr h.ne_nil
  let n : Numeral := {
    whole := ds.take 1
    places := ds.drop 1
    power := some (decide (point - 1 < 0), exponentDigits (point - 1).natAbs)
    whole_isDigit := fun c hc => h.isDigit c (List.mem_of_mem_take hc)
    whole_ne_nil := by simp [h.ne_nil]
    whole_lead := Or.inr (by rw [List.head?_take, if_neg (by omega)]; exact h.lead)
    places_isDigit := fun c hc => h.isDigit c (List.mem_of_mem_drop hc)
    power_isDigit := by
      intro entry hentry
      obtain rfl := Option.some.inj hentry
      refine ⟨?_, exponentDigits_isDigit _⟩
      unfold exponentDigits
      split <;> simp }
  have hdigits : n.digits = s.digits := by
    show Nat.ofDigitChars 10 (ds.take 1 ++ ds.drop 1) 0 = s.digits
    rw [List.take_append_drop, h.value]
  have hexponent : n.exponent = s.exponent := by
    simp only [n, exponent, powerValue, List.length_drop, ofDigitChars_exponentDigits,
      decide_eq_true_eq]
    split <;> omega
  refine ⟨n, ?_, Or.inr (by simp [n]), by rw [hdigits, hexponent]⟩
  have hfraction : n.fraction = if ds.length = 1 then [] else '.' :: ds.drop 1 := by
    have hiff : ds.drop 1 = [] ↔ ds.length = 1 := by
      rw [List.drop_eq_nil_iff]
      omega
    simp only [n, fraction, hiff]
  rw [text, hfraction, Scientific.text, ← hds, ← hpoint, if_neg hout]
  by_cases hneg : point - 1 < 0 <;> simp [n, scale, hneg]

/-- **The text of a decimal is a numeral that stands for it.** -/
theorem exists_writes (hs : s.digits ≠ 0) : ∃ n : Numeral, n.Writes s := by
  obtain ⟨ds, hds⟩ : ∃ ds, ds = Nat.toDigits 10 s.digits := ⟨_, rfl⟩
  obtain ⟨point, hpoint⟩ : ∃ point : Int, point = ds.length + s.exponent := ⟨_, rfl⟩
  have h : Spells ds s.digits := hds ▸ spells_toDigits hs
  by_cases hpositional : -4 < point ∧ point ≤ 16
  · obtain ⟨hlow, hhigh⟩ := hpositional
    by_cases hbelow : point ≤ 0
    · exact exists_writes_below h hds hpoint hlow hbelow
    · by_cases habove : (ds.length : Int) ≤ point
      · exact exists_writes_above h hds hpoint (by omega) hhigh habove
      · exact exists_writes_among h hds hpoint (by omega) hhigh (by omega)
  · exact exists_writes_power h hds hpoint hpositional

end Layout

end Numeral

/-! ### Numbers -/

section Numbers

variable {rest : List Char}

/-- The text of a magnitude is a numeral that reads as the magnitude. -/
theorem exists_numeral (m : Magnitude) :
    ∃ n : Numeral, m.text = n.text ∧ (n.places ≠ [] ∨ n.power ≠ none) ∧
      Magnitude.ofDecimal? n.digits n.exponent = some m := by
  by_cases hzero : m.significand = 0
  · let n : Numeral := {
      whole := ['0']
      places := ['0']
      whole_isDigit := List.all_eq_true.mp rfl
      whole_ne_nil := by decide
      whole_lead := Or.inl rfl
      places_isDigit := List.all_eq_true.mp rfl
      power_isDigit := by simp }
    have hexponent : m.exponent = 0 := by
      by_contra hne
      have hnormal := m.normal (Nat.pos_of_ne_zero hne)
      rw [hzero] at hnormal
      exact absurd hnormal (by decide)
    have hnothing : Magnitude.nothing = m := by
      cases m
      cases hzero
      cases hexponent
      rfl
    refine ⟨n, by rw [Magnitude.text, if_pos hzero]; rfl, Or.inl (by decide), ?_⟩
    rw [← hnothing]
    exact Magnitude.ofDecimal?_zero n.exponent
  · obtain ⟨n, hn⟩ := Numeral.exists_writes (Magnitude.shortest_digits_ne_zero hzero)
    refine ⟨n, ?_, hn.point_or_power, ?_⟩
    · rw [Magnitude.text, if_neg hzero, hn.text_eq]
    · rw [hn.reads, Magnitude.ofDecimal?_shortest]

theorem signed_append (negative : Bool) (cs : List Char) :
    signed negative cs ++ rest = signed negative (cs ++ rest) := by
  cases negative <;> rfl

/-- **A finite double reads back from its text.** -/
theorem readNumber_finite (spelling : Spelling) (negative : Bool) (m : Magnitude)
    (hrest : Ends rest) :
    readNumber (Double.text spelling (.finite negative m) ++ rest) =
      .ok (.float (.finite negative m), rest) := by
  obtain ⟨n, htext, hform, hreads⟩ := exists_numeral m
  have hfloat : Double.ofDecimal negative n.digits n.exponent = .finite negative m := by
    rw [Double.ofDecimal, hreads]
    rfl
  show readNumber (signed negative m.text ++ rest) = _
  rw [signed_append, htext, n.readNumber_signed negative hrest, hfloat]
  cases hpower : n.power with
  | some entry => rfl
  | none =>
      rcases hform with hplaces | hsome
      · simp only [if_pos hplaces]
      · exact absurd hpower hsome

/-- The numeral of a natural number: nothing but its digits. -/
def Numeral.ofNat (k : Nat) : Numeral where
  whole := Nat.toDigits 10 k
  whole_isDigit := toDigits_isDigit k
  whole_ne_nil := Nat.toDigits_ne_nil
  whole_lead := by
    by_cases h : k = 0
    · exact Or.inl (by rw [h, Nat.toDigits_zero])
    · exact Or.inr (toDigits_head? h)
  places_isDigit := by simp
  power_isDigit := by simp

theorem Numeral.digits_ofNat (k : Nat) : (Numeral.ofNat k).digits = k := by
  show Nat.ofDigitChars 10 (Nat.toDigits 10 k ++ []) 0 = k
  rw [List.append_nil, Nat.ofDigitChars_ten_toDigits]

theorem intText_eq_signed (k : Int) :
    intText k = signed (decide (k < 0)) (Numeral.ofNat k.natAbs).text := by
  simp [intText, signed, Numeral.ofNat, Numeral.text, Numeral.fraction, Numeral.scale]

/-- **An integer reads back from its text**, unless it has too many digits. -/
theorem readNumber_int (k : Int) (hlimit : (Nat.toDigits 10 k.natAbs).length ≤ digitLimit)
    (hrest : Ends rest) : readNumber (intText k ++ rest) = .ok (.int k, rest) := by
  have hvalue : (if decide (k < 0) then -((Numeral.ofNat k.natAbs).digits : Int)
      else (Numeral.ofNat k.natAbs).digits) = k := by
    rw [Numeral.digits_ofNat]
    by_cases hneg : k < 0
    · rw [decide_eq_true hneg, if_pos rfl]
      omega
    · rw [decide_eq_false hneg, if_neg Bool.false_ne_true]
      omega
  rw [intText_eq_signed, signed_append, Numeral.readNumber_signed _ _ hrest, hvalue]
  exact if_neg (Nat.not_lt.mpr hlimit)

end Numbers

/-! ### The characters of a number -/

/-- Nothing but digits, and what may stand before and between them. -/
def Numeric (cs : List Char) : Prop :=
  ∀ c ∈ cs, c.isDigit = true ∨ c ∈ ['.', 'e', '+', '-']

namespace Numeric

variable {cs ds : List Char}

theorem of_digits (h : ∀ c ∈ cs, c.isDigit = true) : Numeric cs :=
  fun c hc => Or.inl (h c hc)

theorem cons {c : Char} (hc : c ∈ ['.', 'e', '+', '-']) (h : Numeric cs) : Numeric (c :: cs) :=
  List.forall_mem_cons.mpr ⟨Or.inr hc, h⟩

theorem append (h : Numeric cs) (h' : Numeric ds) : Numeric (cs ++ ds) :=
  List.forall_mem_append.mpr ⟨h, h'⟩

/-- What holds of the digits and of the four marks holds of every character. -/
theorem forall_mem {P : Char → Prop} (h : Numeric cs) (hdigits : ∀ c, c.isDigit = true → P c)
    (hmarks : P '.' ∧ P 'e' ∧ P '+' ∧ P '-') : ∀ c ∈ cs, P c := by
  obtain ⟨hpoint, hpower, hplus, hminus⟩ := hmarks
  intro c hc
  rcases h c hc with hdigit | hmark
  · exact hdigits c hdigit
  · simp only [List.mem_cons, List.not_mem_nil, or_false] at hmark
    rcases hmark with rfl | rfl | rfl | rfl
    · exact hpoint
    · exact hpower
    · exact hplus
    · exact hminus

theorem signed (negative : Bool) (h : Numeric cs) : Numeric (signed negative cs) := by
  cases negative with
  | true => exact .cons (by decide) h
  | false => exact h

end Numeric

theorem Numeral.text_numeric (n : Numeral) : Numeric n.text := by
  refine .append (.of_digits n.whole_isDigit) (.append ?_ ?_)
  · unfold fraction
    split
    · exact .of_digits (by simp)
    · exact .cons (by decide) (.of_digits n.places_isDigit)
  · unfold scale
    split
    · exact .of_digits (by simp)
    · next negative ds hpower =>
        have hdigits := (n.power_isDigit _ hpower).2
        exact .cons (by decide) (.cons (by cases negative <;> decide) (.of_digits hdigits))

theorem numeric_finite (spelling : Spelling) (negative : Bool) (m : Magnitude) :
    Numeric (Double.text spelling (.finite negative m)) := by
  obtain ⟨n, htext, -⟩ := exists_numeral m
  have hsigned : Numeric (signed negative m.text) := (htext ▸ n.text_numeric).signed negative
  exact hsigned

theorem numeric_intText (k : Int) : Numeric (intText k) := by
  unfold intText
  split
  · exact .cons (by decide) (.of_digits (toDigits_isDigit _))
  · exact .of_digits (toDigits_isDigit _)

end Json

end CommandBar
