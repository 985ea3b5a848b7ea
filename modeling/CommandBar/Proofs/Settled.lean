/-
Checked settings stay as they are.

Checking brings a value into the form that its setting wants, and every form is one
that checking leaves alone: a switch that is on or off, a text without choices, a
number that is whole where it can be.  Two of them need an argument.  An integer that
comes from a double is still small enough for a double, since it is one.  A choice that
was taken is taken again, although a choice before it may be equal to it up to case,
because both times it is the first one that is equal to the same text.

So a patch that was checked once can be checked again, by whoever receives it, and
comes out as it went in.
-/
import CommandBar.Proofs.Setting
import CommandBar.Proofs.Trim
import CommandBar.Proofs.Whole

namespace CommandBar

open Json

namespace Setting

/-! ### One value -/

section Number

variable {bad : Value → Except Fault Value} {wantsInt : Bool} {value converted : Value}

/-- What a double becomes is a number that stays. -/
theorem number_ofDouble {x : Double} (hfinite : x.isFinite = true) :
    number bad wantsInt (ofDouble wantsInt x) = .ok (ofDouble wantsInt x) := by
  have hfloat : number bad wantsInt (.float x) = .ok (ofDouble wantsInt x) := if_pos hfinite
  cases hwhole : x.toInt? with
  | none =>
      have hkept : ofDouble wantsInt x = .float x := by simp only [ofDouble, hwhole]
      rw [hkept] at hfloat ⊢
      exact hfloat
  | some n =>
      cases wantsInt with
      | false =>
          have hkept : ofDouble false x = .float x := by simp [ofDouble, hwhole]
          rw [hkept] at hfloat ⊢
          exact hfloat
      | true =>
          have hint : ofDouble true x = .int n := by simp [ofDouble, hwhole]
          obtain ⟨y, hy, -⟩ := Double.exists_ofInt?_of_toInt? hwhole
          rw [hint]
          exact if_pos (by rw [hy]; rfl)

theorem ofFinite_settles (hbad : ∀ found value, bad found ≠ .ok value) {x : Double}
    (h : ofFinite bad wantsInt x = .ok converted) :
    number bad wantsInt converted = .ok converted := by
  unfold ofFinite at h
  split at h
  · next hfinite =>
      rw [Except.ok.injEq] at h
      exact h ▸ number_ofDouble hfinite
  · exact absurd h (hbad _ _)

theorem number_settles (hbad : ∀ found value, bad found ≠ .ok value)
    (h : number bad wantsInt value = .ok converted) :
    number bad wantsInt converted = .ok converted := by
  have hnumber := h
  unfold number at h
  split at h
  · split at h
    · exact ofFinite_settles hbad h
    · exact absurd h (hbad _ _)
  · next n =>
      have hsame : converted = .int n := by
        unfold ofInteger at h
        split at h
        · exact (Except.ok.inj h).symm
        · exact absurd h (by simp)
      rw [hsame] at hnumber ⊢
      exact hnumber
  · exact ofFinite_settles hbad h
  · exact absurd h (hbad _ _)

end Number

/-- A choice that is taken for a text is taken for itself. -/
theorem choose?_settles {choices : List String} {s choice : String}
    (h : choose? choices s = some choice) (htrim : Text.Trimmed choice.toList) :
    choose? choices choice = some choice := by
  have hfold : Text.fold (Text.trim s) = Text.fold choice := by
    simpa using List.find?_some h
  unfold choose? at h ⊢
  rwa [Text.trim_eq_self_iff.mpr htrim, ← hfold]

section Convert

variable {b : Blueprint} {name : String} {info : SettingInfo} {value converted : Value}

/-- A text setting leaves null where it is the default. -/
theorem convert_null (hdefault : info.default = .null) :
    convert b name info .null = .ok .null := by
  simp [convert, hdefault]

/-- A text setting leaves a text that its choices take as it is, and any text without choices. -/
theorem convert_str {s : String} (hswitch : ∀ on, info.default ≠ .bool on)
    (hint : ∀ n, info.default ≠ .int n) (hfloat : ∀ x, info.default ≠ .float x)
    (hfits : info.choices = [] ∨ choose? info.choices s = some s) :
    convert b name info (.str s) = .ok (.str s) := by
  unfold convert
  split
  · next on hdefault => exact absurd hdefault (hswitch on)
  · next n hdefault => exact absurd hdefault (hint n)
  · next x hdefault => exact absurd hdefault (hfloat x)
  · rcases hfits with hfree | hchosen
    · simp [text?, hfree]
    · simp [text?, hchosen]

/-- A converted value is not converted any further. -/
theorem convert_settles (htrim : ∀ choice ∈ info.choices, Text.Trimmed choice.toList)
    (h : convert b name info value = .ok converted) :
    convert b name info converted = .ok converted := by
  have hbad : ∀ found value,
      ((Refusal.badValue b name found []).raise : Except Fault Value) ≠ .ok value :=
    fun found value => Refusal.raise_ne_ok _ value
  unfold convert at h
  split at h
  · next on hdefault =>
      split at h
      · rw [Except.ok.injEq] at h
        subst h
        simp [convert, hdefault, switch?]
      · exact absurd h (hbad _ _)
  · next n hdefault =>
      have hsettled := number_settles hbad h
      simpa only [convert, hdefault] using hsettled
  · next x hdefault =>
      have hsettled := number_settles hbad h
      simpa only [convert, hdefault] using hsettled
  · next hswitch hint hfloat =>
      split at h
      · next hnull =>
          rw [Except.ok.injEq] at h
          exact h ▸ convert_null hnull.1
      · split at h
        · exact absurd h (hbad _ _)
        · split at h
          · next hfree =>
              rw [Except.ok.injEq] at h
              exact h ▸ convert_str hswitch hint hfloat (Or.inl hfree)
          · split at h
            · next choice hchosen =>
                rw [Except.ok.injEq] at h
                have hmem : choice ∈ info.choices := List.mem_of_find?_eq_some hchosen
                have hagain := choose?_settles hchosen (htrim choice hmem)
                exact h ▸ convert_str hswitch hint hfloat (Or.inr hagain)
            · exact absurd h (Refusal.raise_ne_ok _ _)

end Convert

/-! ### A patch -/

/-- A patch that was checked passes as it is. -/
theorem check_again {b : Blueprint} {patch checked : Fields Value}
    (hb : ∀ entry ∈ b.settings, ∀ choice ∈ entry.2.choices, Text.Trimmed choice.toList)
    (h : check b patch = .ok checked) : check b checked = .ok checked := by
  induction patch generalizing checked with
  | nil =>
      simp only [check, Except.ok.injEq] at h
      exact h ▸ rfl
  | cons entry rest ih =>
      obtain ⟨name, value⟩ := entry
      unfold check at h
      split at h
      · exact absurd h (Refusal.raise_ne_ok _ _)
      · next info hinfo =>
          obtain ⟨converted, hconvert, h⟩ := bind_eq_ok_iff.mp h
          obtain ⟨tail, htail, h⟩ := bind_eq_ok_iff.mp h
          rw [Except.ok.injEq] at h
          have hsettled := convert_settles (hb _ (Fields.mem_of_get?_eq_some hinfo)) hconvert
          rw [← h, check, hinfo]
          exact bind_eq_ok_iff.mpr ⟨_, hsettled, bind_eq_ok_iff.mpr ⟨_, ih htail, rfl⟩⟩

/-- **Checking settles a patch.**  What it accepts comes out under the same names in the same
order, all of them settings of the blueprint, with values that these settings can hold, and
checking it again changes nothing. -/
theorem check_settles {b : Blueprint} {patch checked : Fields Value}
    (hb : ∀ entry ∈ b.settings, ∀ choice ∈ entry.2.choices, Text.Trimmed choice.toList)
    (h : check b patch = .ok checked) :
    checked.names = patch.names ∧ b.AdmitsPatch checked ∧ check b checked = .ok checked := by
  obtain ⟨hnames, hadmits⟩ := check_ok h
  exact ⟨hnames, hadmits, check_again hb h⟩

/-- A blueprint with a setting of each kind, and two choices that are equal up to case. -/
def shelf : Blueprint where
  type := "shelf"
  displayName := "Shelf"
  defaultTitle := "New Shelf"
  description := "Books in a row."
  settings := [
    ("lit", { default := .bool false }),
    ("rows", { default := .int 3 }),
    ("order", { default := .str "Title", choices := ["Title", "TITLE", "Author"] }),
    ("label", { default := .null })]

/-- A patch in which no value has the form that its setting wants. -/
def shelfPatch : Fields Value :=
  [("order", .str " TITLE "), ("rows", .str "4.0"), ("label", .int 24), ("lit", .str "On")]

/-- The same patch with every value in its form. -/
def shelfChecked : Fields Value :=
  [("order", .str "Title"), ("rows", .int 4), ("label", .str "24"), ("lit", .bool true)]

theorem check_settles_shelf :
    (∀ entry ∈ shelf.settings, ∀ choice ∈ entry.2.choices, Text.Trimmed choice.toList) ∧
      check shelf shelfPatch = .ok shelfChecked ∧ shelfChecked.names = shelfPatch.names ∧
      shelf.AdmitsPatch shelfChecked ∧ check shelf shelfChecked = .ok shelfChecked := by
  have htrim : ∀ entry ∈ shelf.settings, ∀ choice ∈ entry.2.choices,
      Text.Trimmed choice.toList := by
    simp only [← Text.trim_eq_self_iff]
    decide +kernel
  have hcheck : check shelf shelfPatch = .ok shelfChecked := by
    decide +kernel
  exact ⟨htrim, hcheck, check_settles htrim hcheck⟩

end Setting

end CommandBar
