/-
Which choices are binding.

Choices are looked at in one place, behind the question what kind of setting it is.  A
switch and a number have been dealt with by then, so what they list is told to the oracle
and read by nobody else: a switch takes both its values, and a number every number.  All
other settings take nothing but a choice, or null where that is the default.

So the choices of a switch bind if they happen to be both its values, and those of a number
if they happen to be all numbers.  There are too many of these for any list that could be
written down.
-/
import CommandBar.Proofs.Settled
import Mathlib.Data.Finset.Card
import Mathlib.Data.Finset.Range

namespace CommandBar

open Json

/-! ### What is taken without a look at the choices -/

/-- The values that a switch or a number takes, whatever its choices are. -/
def SettingInfo.Takes (info : SettingInfo) (value : Value) : Prop :=
  match info.default, value with
  | .bool _, .bool _ => True
  | .int _, .int n | .float _, .int n => n.natAbs < Double.beyond
  | .int _, .float x => x.isFinite = true ∧ x.toInt? = none
  | .float _, .float x => x.isFinite = true
  | _, _ => False

/-- The value is a choice when it is put as a text, or it is null where that is the default. -/
def SettingInfo.Offers (info : SettingInfo) (value : Value) : Prop :=
  plain value ∈ info.choices ∨ value = .null ∧ info.default = .null

instance (info : SettingInfo) (value : Value) : Decidable (info.Offers value) :=
  inferInstanceAs (Decidable (_ ∨ _))

namespace Setting

variable {b : Blueprint} {name : String} {info : SettingInfo} {value converted : Value}

/-- Whatever a check accepts for the setting is one of its choices. -/
def Binds (b : Blueprint) (name : String) (info : SettingInfo) : Prop :=
  ∀ patch checked value, check b patch = .ok checked → (name, value) ∈ checked → info.Offers value

section Number

variable {bad : Value → Except Fault Value} {wantsInt : Bool}

theorem ofInteger_eq_ok_iff {n : Int} :
    ofInteger n = .ok value ↔ value = .int n ∧ n.natAbs < Double.beyond := by
  have hlost := Double.ofInt?_eq_none_iff n
  unfold ofInteger
  cases hheld : Double.ofInt? n with
  | none => simp [Nat.not_lt.mpr (hlost.mp hheld)]
  | some x =>
      have hsmall : n.natAbs < Double.beyond := by
        rw [← Nat.not_le, ← hlost, hheld]
        exact Option.some_ne_none x
      simp [hsmall, eq_comm]

theorem ofFinite_float_iff (hbad : ∀ found value, bad found ≠ .ok value) {x : Double} :
    ofFinite bad wantsInt x = .ok (.float x) ↔
      x.isFinite = true ∧ (wantsInt = true → x.toInt? = none) := by
  unfold ofFinite ofDouble
  by_cases hfinite : x.isFinite = true
  · rw [if_pos hfinite]
    cases hwhole : x.toInt? with
    | none => simp [hfinite]
    | some n => cases wantsInt <;> simp [hfinite]
  · simp [hbad, hfinite]

/-- The numbers that a number setting leaves as they are. -/
theorem number_eq_self_iff (hbad : ∀ found value, bad found ≠ .ok value) :
    number bad wantsInt value = .ok value ↔
      (∃ n, value = .int n ∧ n.natAbs < Double.beyond) ∨
        ∃ x, value = .float x ∧ x.isFinite = true ∧ (wantsInt = true → x.toInt? = none) := by
  cases value with
  | int n => simp [number, ofInteger_eq_ok_iff]
  | float x => simp [number, ofFinite_float_iff hbad]
  | str s =>
      -- a text becomes a number or is refused
      simp only [reduceCtorEq, false_and, exists_false, or_false, iff_false]
      intro h
      rcases number_ok hbad h with ⟨n, hn⟩ | ⟨x, hx, -⟩
      · cases hn
      · cases hx
  | null | bool _ | arr _ | obj _ => simp [number, hbad]

end Number

/-- What a switch or a number takes comes out as it went in. -/
theorem convert_eq_self_iff (hkind : info.isNumeric = true ∨ ∃ on, info.default = .bool on) :
    convert b name info value = .ok value ↔ info.Takes value := by
  have hbad : ∀ found value,
      ((Refusal.badValue b name found []).raise : Except Fault Value) ≠ .ok value :=
    fun found value => Refusal.raise_ne_ok _ value
  unfold convert SettingInfo.Takes
  cases hdefault : info.default with
  | bool on =>
      cases value with
      | bool b => simp [switch?]
      | str s =>
          dsimp only
          split <;> simp
      | null | int _ | float _ | arr _ | obj _ => simp [switch?]
  | int n =>
      dsimp only
      rw [number_eq_self_iff hbad]
      cases value <;> simp
  | float x =>
      dsimp only
      rw [number_eq_self_iff hbad]
      cases value <;> simp
  | null | str _ | arr _ | obj _ => simp [SettingInfo.isNumeric, hdefault] at hkind

/-- The choices of a switch or a number are not looked at. -/
theorem convert_unlisted (choices : List String)
    (hkind : info.isNumeric = true ∨ ∃ on, info.default = .bool on) :
    convert b name { info with choices } value = convert b name info value := by
  unfold convert
  cases hdefault : info.default with
  | bool _ | int _ | float _ => rfl
  | null | str _ | arr _ | obj _ => simp [SettingInfo.isNumeric, hdefault] at hkind

/-- Whatever comes out of a switch or a number is what it takes. -/
theorem takes_of_convert (hkind : info.isNumeric = true ∨ ∃ on, info.default = .bool on)
    (h : convert b name info value = .ok converted) : info.Takes converted := by
  rw [← convert_unlisted [] hkind] at h
  have hsettled := convert_settles (by simp) h
  rwa [convert_unlisted [] hkind, convert_eq_self_iff hkind] at hsettled

/-- Whatever comes out of any other setting with choices is one of them, or null by default. -/
theorem offers_of_convert (hchoices : info.choices ≠ []) (hnumeric : info.isNumeric = false)
    (hswitch : ∀ on, info.default ≠ .bool on) (h : convert b name info value = .ok converted) :
    info.Offers converted := by
  have hadmits := convert_admits h
  cases hdefault : info.default with
  | bool on => exact absurd hdefault (hswitch on)
  | int _ | float _ => simp [SettingInfo.isNumeric, hdefault] at hnumeric
  | null | str _ | arr _ | obj _ =>
      cases converted with
      | str s =>
          have hlisted : info.choices = [] ∨ s ∈ info.choices := by
            simpa only [SettingInfo.Admits, hdefault] using hadmits
          exact Or.inl (hlisted.resolve_left hchoices)
      | null => simp_all [SettingInfo.Offers, SettingInfo.Admits]
      | bool _ | int _ | float _ | arr _ | obj _ =>
          simp [SettingInfo.Admits, hdefault] at hadmits

/-! ### Patches -/

/-- What a checked patch sets a setting to has come out of it. -/
theorem exists_convert_of_check {patch checked : Fields Value} (h : check b patch = .ok checked)
    (hmem : (name, converted) ∈ checked) :
    ∃ info value, Fields.get? name b.settings = some info ∧
      convert b name info value = .ok converted := by
  induction patch generalizing checked with
  | nil =>
      simp only [check, Except.ok.injEq] at h
      simp [← h] at hmem
  | cons entry rest ih =>
      obtain ⟨other, value⟩ := entry
      unfold check at h
      split at h
      · exact absurd h (Refusal.raise_ne_ok _ _)
      · next info hinfo =>
          obtain ⟨first, hfirst, h⟩ := bind_eq_ok_iff.mp h
          obtain ⟨tail, htail, h⟩ := bind_eq_ok_iff.mp h
          rw [Except.ok.injEq] at h
          rw [← h, List.mem_cons] at hmem
          rcases hmem with hsame | hlater
          · rw [Prod.mk.injEq] at hsame
            obtain ⟨rfl, rfl⟩ := hsame
            exact ⟨info, value, hinfo, hfirst⟩
          · exact ih htail hlater

/-- A patch of one setting is checked as its value is converted. -/
theorem check_singleton (hinfo : Fields.get? name b.settings = some info)
    (h : convert b name info value = .ok converted) :
    check b [(name, value)] = .ok [(name, converted)] := by
  simp only [check, hinfo, h]
  rfl

/-- The choices bind if whatever comes out of the setting is one of them. -/
theorem binds_iff_convert (hinfo : Fields.get? name b.settings = some info) :
    Binds b name info ↔
      ∀ value converted, convert b name info value = .ok converted → info.Offers converted := by
  constructor
  · intro hbinds value converted hconvert
    exact hbinds _ _ converted (check_singleton hinfo hconvert) List.mem_cons_self
  · intro hoffers patch checked converted hcheck hmem
    obtain ⟨found, value, hfound, hconvert⟩ := exists_convert_of_check hcheck hmem
    obtain rfl : info = found := by simpa [hinfo] using hfound
    exact hoffers value converted hconvert

/-- The choices of a switch or a number bind if they list all that it takes. -/
theorem binds_iff_takes (hinfo : Fields.get? name b.settings = some info)
    (hkind : info.isNumeric = true ∨ ∃ on, info.default = .bool on) :
    Binds b name info ↔ ∀ value, info.Takes value → plain value ∈ info.choices := by
  rw [binds_iff_convert hinfo]
  constructor
  · intro hoffers value htakes
    rcases hoffers value value ((convert_eq_self_iff hkind).mpr htakes) with hlisted | ⟨-, hnull⟩
    · exact hlisted
    · simp [SettingInfo.isNumeric, hnull] at hkind
  · intro hlisted value converted hconvert
    exact Or.inl (hlisted converted (takes_of_convert hkind hconvert))

/-! ### Lists that would bind -/

/-- Natural numbers with the same text are the same. -/
theorem plain_natCast_injective : Function.Injective fun n : Nat => plain (.int n) := by
  intro m n h
  have htext : ∀ k : Nat, plain (.int k) = String.ofList (Nat.toDigits 10 k) := by
    intro k
    have hsign : ¬ (k : Int) < 0 := Int.not_lt.mpr (Int.natCast_nonneg k)
    rw [plain, literal, literalChars, intText, if_neg hsign, Int.natAbs_natCast]
    nofun
  have hdigits : Nat.toDigits 10 m = Nat.toDigits 10 n := by
    simpa [htext, ← String.toList_inj] using h
  have hvalue := congrArg (Nat.ofDigitChars 10 · 0) hdigits
  simpa [Nat.ofDigitChars_ten_toDigits] using hvalue

/-- A list that names every natural number below a bound is at least as long as the bound. -/
theorem le_length_of_listed {choices : List String} {bound : Nat}
    (h : ∀ n : Nat, n < bound → plain (.int n) ∈ choices) : bound ≤ choices.length :=
  calc bound = (Finset.range bound).card := (Finset.card_range bound).symm
    _ ≤ choices.toFinset.card :=
        Finset.card_le_card_of_injOn (fun n : Nat => plain (.int n))
          (fun n hn => List.mem_toFinset.mpr (h n (Finset.mem_range.mp hn)))
          plain_natCast_injective.injOn
    _ ≤ choices.length := List.toFinset_card_le choices

/-- **Choices bind where the setting is neither a switch nor a number.**  Those of a switch bind
exactly if both its values are among them, those of a number exactly if every number is that a
double can hold; these are at least 2^1024 - 2^970. -/
theorem choices_bind_iff (hinfo : Fields.get? name b.settings = some info)
    (hchoices : info.choices ≠ []) :
    (info.isNumeric = false → (∀ on, info.default ≠ .bool on) → Binds b name info) ∧
    (∀ on, info.default = .bool on →
      (Binds b name info ↔ "True" ∈ info.choices ∧ "False" ∈ info.choices)) ∧
    (info.isNumeric = true →
      (Binds b name info ↔ ∀ value, info.Takes value → plain value ∈ info.choices) ∧
        (Binds b name info → Double.beyond ≤ info.choices.length)) := by
  refine ⟨?_, ?_, ?_⟩
  · intro hnumeric hswitch
    rw [binds_iff_convert hinfo]
    exact fun value converted => offers_of_convert hchoices hnumeric hswitch
  · intro on hdefault
    have hlisted : (∀ value, info.Takes value → plain value ∈ info.choices) ↔
        ∀ on, plain (.bool on) ∈ info.choices := by
      constructor
      · exact fun h on => h (.bool on) (by simp [SettingInfo.Takes, hdefault])
      · intro h value htakes
        cases value with
        | bool on => exact h on
        | null | int _ | float _ | str _ | arr _ | obj _ =>
            simp [SettingInfo.Takes, hdefault] at htakes
    rw [binds_iff_takes hinfo (Or.inr ⟨on, hdefault⟩), hlisted, Bool.forall_bool, and_comm]
    rfl
  · intro hnumeric
    have hbinds := binds_iff_takes hinfo (Or.inl hnumeric)
    refine ⟨hbinds, fun h => le_length_of_listed fun n hn => hbinds.mp h (.int n) ?_⟩
    unfold SettingInfo.Takes
    cases hdefault : info.default with
    | int _ | float _ => simpa using hn
    | null | bool _ | str _ | arr _ | obj _ => simp [SettingInfo.isNumeric, hdefault] at hnumeric

/-- A lamp with a setting of each kind, all of them with choices. -/
def lamp : Blueprint where
  type := "lamp"
  displayName := "Lamp"
  defaultTitle := "New Lamp"
  description := "Light for the room."
  settings := [
    ("colour", { default := .str "white", choices := ["white", "amber"] }),
    ("level", { default := .int 1, choices := ["1", "2", "3"] }),
    ("dimmed", { default := .bool false, choices := ["True"] })]

/-- The choices of the colour bind, those of the other two do not. -/
theorem choices_bind_iff_lamp :
    Fields.get? "colour" lamp.settings =
        some { default := .str "white", choices := ["white", "amber"] } ∧
      Binds lamp "colour" { default := .str "white", choices := ["white", "amber"] } ∧
      ¬ Binds lamp "level" { default := .int 1, choices := ["1", "2", "3"] } ∧
      ¬ Binds lamp "dimmed" { default := .bool false, choices := ["True"] } := by
  refine ⟨rfl, (choices_bind_iff rfl (by simp)).1 rfl (by simp), ?_, ?_⟩
  · rw [((choices_bind_iff rfl (by simp)).2.2 rfl).1]
    intro hlisted
    have htakes : SettingInfo.Takes { default := .int 1, choices := ["1", "2", "3"] } (.int 7) :=
      (@convert_eq_self_iff lamp "level" _ _ (Or.inl rfl)).mp (by decide +kernel)
    exact absurd (hlisted (.int 7) htakes) (by decide +kernel)
  · rw [(choices_bind_iff rfl (by simp)).2.1 false rfl]
    decide

/-- A level that is not among the choices is accepted as it is. -/
theorem choices_unread :
    Fields.get? "level" lamp.settings = some { default := .int 1, choices := ["1", "2", "3"] } ∧
      check lamp [("level", .int 7)] = .ok [("level", .int 7)] ∧
      ¬ SettingInfo.Offers { default := .int 1, choices := ["1", "2", "3"] } (.int 7) := by
  decide +kernel

end Setting

end CommandBar
