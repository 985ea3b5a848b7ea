/-
Typed numbers and the numbers of JSON text.

JSON text spells a number in a few ways of many, and whoever reads typed numbers reads
all of them.  Nothing in such a numeral is padding, a foreign digit or an underscore, so
it arrives at the parts of a number as it was written, and these parts are the ones that
it was made of.  A double therefore comes back as it was.  An integer does not: what is
typed is rounded to a double, so it comes back as the nearest one, or as an infinity.
-/
import CommandBar.Decimal.Reading
import CommandBar.Proofs.Numeral
import CommandBar.Proofs.Trim

namespace CommandBar

open Json

namespace Typed

/-! ### The characters of a numeral -/

section Characters

variable {c : Char} {cs : List Char}

theorem plain_of_isDigit (h : c.isDigit = true) : plain c = c := by
  obtain ⟨hlow, hhigh⟩ := Text.toNat_of_isDigit h
  have hvalue : Text.digitValue? c = some (c.toNat - 0x30) := by
    simp only [Text.digitValue?, Text.zeroDigits, Text.digitAmong]
    rw [if_neg (by omega), if_pos (by omega)]
  simp only [plain, hvalue]
  rw [Nat.add_sub_cancel' hlow, Char.ofNat_toNat]

theorem isPadding_of_isDigit (h : c.isDigit = true) : isPadding c = false := by
  obtain ⟨hlow, hhigh⟩ := Text.toNat_of_isDigit h
  simp only [isPadding, Text.isBlank, Bool.and_eq_false_iff]
  left
  simp only [Bool.or_eq_false_iff, Bool.and_eq_false_iff, decide_eq_false_iff_not,
    beq_eq_false_iff_ne]
  omega

theorem toLower_of_isDigit (h : c.isDigit = true) : c.toLower = c := by
  have hhigh := (Text.toNat_of_isDigit h).2
  refine dif_neg ?_
  rintro ⟨hupper, -⟩
  have hlow : 0x41 ≤ c.toNat := UInt32.le_iff_toNat_le.mp hupper
  omega

theorem plain_of_numeric (h : Numeric cs) : ∀ c ∈ cs, plain c = c :=
  h.forall_mem (fun _ => plain_of_isDigit) (by decide +kernel)

theorem isPadding_of_numeric (h : Numeric cs) : ∀ c ∈ cs, isPadding c = false :=
  h.forall_mem (fun _ => isPadding_of_isDigit) (by decide +kernel)

/-- Without underscores there is nothing to join. -/
theorem joinDigits?_of_numeric (h : Numeric cs) (afterDigit : Bool) :
    joinDigits? afterDigit cs = some cs := by
  have hplain : ∀ c ∈ cs, c ≠ '_' :=
    h.forall_mem (fun c hc hline => by rw [hline] at hc; exact absurd hc (by decide)) (by decide)
  clear h
  induction cs generalizing afterDigit with
  | nil => simp [joinDigits?]
  | cons c rest ih =>
      obtain ⟨hc, hrest⟩ := List.forall_mem_cons.mp hplain
      rw [joinDigits?]
      · rw [ih _ hrest, Option.map_some]
      · exact hc

/-- Without padding there is nothing to trim. -/
theorem trimWhile_of_numeric (h : Numeric cs) : Text.trimWhile isPadding cs = cs :=
  Text.trimWhile_eq_self (fun c hc => isPadding_of_numeric h c (List.mem_of_mem_head? hc))
    fun c hc => isPadding_of_numeric h c (List.mem_of_getLast? hc)

end Characters

/-! ### The parts of a numeral -/

section Parts

variable (n : Numeral) (negative : Bool)

theorem sign_signed : sign (signed negative n.text) = (negative, n.text) := by
  obtain ⟨d, ds, hd, -, htext⟩ := n.exists_text []
  rw [List.append_nil] at htext
  cases negative with
  | true => rfl
  | false =>
      rw [signed, if_neg Bool.false_ne_true, htext, sign]
      · rintro rest heq
        obtain rfl := (List.cons.inj heq).1
        exact absurd hd (by decide)
      · rintro rest heq
        obtain rfl := (List.cons.inj heq).1
        exact absurd hd (by decide)

theorem word?_text : word? negative n.text = none := by
  obtain ⟨d, ds, hd, -, htext⟩ := n.exists_text []
  rw [List.append_nil] at htext
  have hi : d ≠ 'i' := by rintro rfl; exact absurd hd (by decide)
  have hn : d ≠ 'n' := by rintro rfl; exact absurd hd (by decide)
  simp [word?, htext, toLower_of_isDigit hd, hi, hn]

theorem fraction_text : fraction (n.fraction ++ n.scale) = (n.places, n.scale) := by
  have hscale := n.scale_head? Ends.nil
  rw [List.append_nil] at hscale
  unfold Numeral.fraction
  split
  · next hplaces =>
      rw [List.nil_append, hplaces]
      cases htext : n.scale with
      | nil => rfl
      | cons c rest =>
          rw [htext] at hscale
          rw [fraction]
          rintro rest' heq
          exact (hscale c rfl).2 (List.cons.inj heq).1
  · rw [List.cons_append, fraction]
    exact span_isDigit n.places_isDigit fun c hc => (hscale c hc).1

theorem exponent?_scale : exponent? n.scale = some n.powerValue := by
  unfold Numeral.scale Numeral.powerValue
  cases hpower : n.power with
  | none => rfl
  | some entry =>
      obtain ⟨down, ds⟩ := entry
      obtain ⟨hne, hds⟩ := n.power_isDigit _ hpower
      have hall : ds.all Char.isDigit = true := List.all_eq_true.mpr hds
      cases down <;> simp [exponent?, sign, hne, hall]

theorem magnitude?_text :
    magnitude? negative n.text = some (.ofDecimal negative n.digits n.exponent) := by
  have hfraction := n.fraction_head? Ends.nil
  have hwhole : n.text.span Char.isDigit = (n.whole, n.fraction ++ n.scale) := by
    rw [List.append_nil] at hfraction
    exact span_isDigit n.whole_isDigit hfraction
  rw [magnitude?, hwhole]
  simp only [fraction_text, exponent?_scale, n.whole_ne_nil, false_and, if_false]
  rfl

/-- **A numeral is a typed number**, and stands for the same decimal. -/
theorem number?_signed :
    number? (String.ofList (signed negative n.text)) =
      some (.ofDecimal negative n.digits n.exponent) := by
  have hnumeric : Numeric (signed negative n.text) := n.text_numeric.signed negative
  have hplain : (signed negative n.text).map plain = signed negative n.text :=
    (List.map_congr_left (plain_of_numeric hnumeric)).trans (List.map_id _)
  rw [number?, String.toList_ofList, trimWhile_of_numeric hnumeric, hplain,
    joinDigits?_of_numeric hnumeric]
  simp [sign_signed, word?_text, magnitude?_text]

end Parts

/-! ### Numbers in JSON text -/

/-- **A double comes back from its JSON text**, infinities and what is no number included. -/
theorem number?_render_float (x : Double) : number? (render (.float x)) = some x := by
  cases x with
  | nan => decide +kernel
  | infinite negative => cases negative <;> decide +kernel
  | finite negative m =>
      obtain ⟨n, htext, -, hreads⟩ := exists_numeral m
      have hdecimal : Double.ofDecimal negative n.digits n.exponent = .finite negative m := by
        rw [Double.ofDecimal, hreads]
        rfl
      show number? (String.ofList (signed negative m.text)) = _
      rw [htext, number?_signed, hdecimal]

/-- **An integer comes back from its JSON text as the nearest double.** -/
theorem number?_render_int (k : Int) :
    number? (render (.int k)) =
      some (.ofMagnitude? (decide (k < 0)) (Magnitude.nearest? k.natAbs 1)) := by
  have hdecimal : Magnitude.ofDecimal? k.natAbs 0 = Magnitude.nearest? k.natAbs 1 := by
    have h := Magnitude.ofDecimal?_eq_nearest k.natAbs 0 0
    simpa using h
  show number? (String.ofList (intText k)) = _
  rw [intText_eq_signed, number?_signed, Numeral.digits_ofNat]
  show some (Double.ofMagnitude? (decide (k < 0)) (Magnitude.ofDecimal? k.natAbs 0)) = _
  rw [hdecimal]

end Typed

end CommandBar
