/-
What a checked patch holds.

`SettingInfo.Admits` says, by the default of a setting, which values it can hold,
and knows nothing of how a value is found.  Checking a patch against a blueprint is
sound for it: the checked patch has the names of the patch, each of them a setting
of the blueprint, and only values that these settings admit.

A value is converted or refused, with one exception.  An integer that no double can
hold stops the check of a number setting with a fault of its own, and `Overflows`
says exactly when a patch comes to that: everything before the integer has been
accepted, so nothing has been refused yet.
-/
import CommandBar.Catalog.Standard
import CommandBar.Proofs.Double
import CommandBar.Proofs.Fields
import CommandBar.Proofs.Refusal
import CommandBar.Validation.Setting

namespace CommandBar

open Json

/-! ### The values that a setting can hold -/

namespace SettingInfo

/-- Whether the setting takes numbers. -/
def isNumeric (info : SettingInfo) : Bool :=
  match info.default with
  | .int _ | .float _ => true
  | _ => false

/-- The values that a setting can hold.  A switch holds booleans.  A number is finite, and where
the default is an integer an integral number is an integer.  Anything else is a text, one of the
choices if there are any; null occurs only where it is the default. -/
def Admits (info : SettingInfo) (value : Value) : Prop :=
  match info.default, value with
  | .bool _, .bool _ => True
  | .int _, .int _ => True
  | .int _, .float x => x.isFinite = true ∧ x.toInt? = none
  | .float _, .int _ => True
  | .float _, .float x => x.isFinite = true
  | .bool _, _ | .int _, _ | .float _, _ => False
  | _, .str s => info.choices = [] ∨ s ∈ info.choices
  | default, .null => default = .null
  | _, _ => False

theorem admits_null {info : SettingInfo} (h : info.default = .null) : info.Admits .null := by
  simp [Admits, h]

theorem admits_str {info : SettingInfo} {s : String} (hswitch : ∀ b, info.default ≠ .bool b)
    (hint : ∀ n, info.default ≠ .int n) (hfloat : ∀ x, info.default ≠ .float x)
    (hs : info.choices = [] ∨ s ∈ info.choices) : info.Admits (.str s) := by
  unfold Admits
  cases hdefault : info.default with
  | bool b => exact absurd hdefault (hswitch b)
  | int n => exact absurd hdefault (hint n)
  | float x => exact absurd hdefault (hfloat x)
  | null | str _ | arr _ | obj _ => exact hs

instance (info : SettingInfo) (value : Value) : Decidable (info.Admits value) := by
  unfold Admits
  split <;> infer_instance

end SettingInfo

namespace Blueprint

/-- Every entry of the patch is a setting of the blueprint with a value that it admits. -/
def AdmitsPatch (b : Blueprint) (patch : Fields Value) : Prop :=
  ∀ entry ∈ patch, ∃ info, Fields.get? entry.1 b.settings = some info ∧ info.Admits entry.2

/-- The settings are those of the blueprint, each with a value that it admits. -/
structure Admits (b : Blueprint) (settings : Fields Value) : Prop where
  /-- The names are those of the blueprint, in its order. -/
  names : settings.names = b.settings.names
  /-- The values fit. -/
  values : b.AdmitsPatch settings

/-- A blueprint that is sound in itself: no name twice, and every default fits its own setting. -/
structure Sound (b : Blueprint) : Prop where
  nodup : b.settings.names.Nodup
  defaults : ∀ entry ∈ b.settings, entry.2.Admits entry.2.default

theorem admits_defaults {b : Blueprint} (hb : b.Sound) : b.Admits b.defaults := by
  refine ⟨by simp [defaults, Fields.names], ?_⟩
  intro entry hentry
  obtain ⟨setting, hsetting, rfl⟩ := List.mem_map.mp hentry
  exact ⟨setting.2, Fields.get?_eq_some_of_mem hb.nodup hsetting, hb.defaults setting hsetting⟩

/-- A patch that fits can be applied to settings that fit. -/
theorem admits_override {b : Blueprint} {settings patch : Fields Value} (hs : b.Admits settings)
    (hp : b.AdmitsPatch patch) : b.Admits (settings.override patch) := by
  have hsub : ∀ name ∈ patch.names, name ∈ settings.names := by
    intro name hname
    obtain ⟨entry, hentry, rfl⟩ := List.mem_map.mp hname
    obtain ⟨info, hinfo, -⟩ := hp entry hentry
    rw [hs.names]
    exact Fields.mem_names_of_mem (Fields.mem_of_get?_eq_some hinfo)
  refine ⟨by rw [Fields.names_override_of_subset hsub, hs.names], ?_⟩
  intro entry hentry
  rcases Fields.mem_override hentry with hold | hnew
  · exact hs.values entry hold
  · exact hp entry hnew

end Blueprint

/-- Every blueprint of the standard catalog is sound. -/
theorem Catalog.standard_sound : ∀ b ∈ Catalog.standard, b.Sound := by
  have hall : ∀ b ∈ Catalog.standard, b.settings.names.Nodup ∧
      ∀ entry ∈ b.settings, entry.2.Admits entry.2.default := by
    decide
  intro b hb
  exact ⟨(hall b hb).1, (hall b hb).2⟩

namespace Setting

/-! ### Converting one value -/

section Number

variable {bad : Value → Except Fault Value} {wantsInt : Bool} {value converted : Value}

/-- What a number setting can be set to. -/
def IsNumber (wantsInt : Bool) (value : Value) : Prop :=
  (∃ n, value = .int n) ∨
    ∃ x, value = .float x ∧ x.isFinite = true ∧ (wantsInt = true → x.toInt? = none)

theorem ofFinite_ok (hbad : ∀ found value, bad found ≠ .ok value) {x : Double}
    (h : ofFinite bad wantsInt x = .ok converted) : IsNumber wantsInt converted := by
  unfold ofFinite at h
  by_cases hfin : x.isFinite = true
  · rw [if_pos hfin, Except.ok.injEq] at h
    subst h
    unfold ofDouble
    split
    · next n hn =>
        by_cases hw : wantsInt = true
        · rw [if_pos hw]; exact Or.inl ⟨n, rfl⟩
        · rw [if_neg hw]; exact Or.inr ⟨x, rfl, hfin, fun hc => absurd hc hw⟩
    · next hnone => exact Or.inr ⟨x, rfl, hfin, fun _ => hnone⟩
  · rw [if_neg hfin] at h
    exact absurd h (hbad _ _)

theorem number_ok (hbad : ∀ found value, bad found ≠ .ok value)
    (h : number bad wantsInt value = .ok converted) : IsNumber wantsInt converted := by
  unfold number at h
  split at h
  · split at h
    · exact ofFinite_ok hbad h
    · exact absurd h (hbad _ _)
  · next n =>
      unfold ofInteger at h
      split at h
      · exact Or.inl ⟨n, by simpa using h.symm⟩
      · simp at h
  · exact ofFinite_ok hbad h
  · exact absurd h (hbad _ _)

theorem ofInteger_error {n : Int} {fault : Fault} :
    ofInteger n = .error fault ↔ fault = .numberTooLarge ∧ Double.beyond ≤ n.natAbs := by
  rw [← Double.ofInt?_eq_none_iff]
  unfold ofInteger
  by_cases hn : (Double.ofInt? n).isSome = true
  · rw [if_pos hn]
    have hne : Double.ofInt? n ≠ none := Option.isSome_iff_ne_none.mp hn
    simp [hne]
  · rw [if_neg hn]
    have hnone : Double.ofInt? n = none := by simpa using hn
    simp [hnone, eq_comm]

/-- What stops a number setting is a refusal, but for an integer that no double can hold. -/
theorem number_error (hbad : ∀ found, RefusesAt .command (bad found)) {fault : Fault}
    (h : number bad wantsInt value = .error fault) :
    fault.IsRefusal .command ∨
      fault = .numberTooLarge ∧ ∃ n, value = .int n ∧ Double.beyond ≤ n.natAbs := by
  have hfinite : ∀ x, ofFinite bad wantsInt x = .error fault →
      fault.IsRefusal .command := by
    intro x hx
    unfold ofFinite at hx
    split at hx
    · simp at hx
    · exact hbad _ fault hx
  unfold number at h
  split at h
  · split at h
    · exact Or.inl (hfinite _ h)
    · exact Or.inl (hbad _ fault h)
  · next n =>
      obtain ⟨hfault, hn⟩ := ofInteger_error.mp h
      exact Or.inr ⟨hfault, n, rfl, hn⟩
  · exact Or.inl (hfinite _ h)
  · exact Or.inl (hbad _ fault h)

end Number

section Convert

variable {b : Blueprint} {name : String} {info : SettingInfo} {value converted : Value}

theorem convert_admits (h : convert b name info value = .ok converted) :
    info.Admits converted := by
  have hbad : ∀ found value,
      ((Refusal.badValue b name found []).raise : Except Fault Value) ≠ .ok value :=
    fun found value => Refusal.raise_ne_ok _ value
  unfold convert at h
  unfold SettingInfo.Admits
  split at h
  · next on hdefault =>
      split at h
      · simp only [Except.ok.injEq] at h
        simp [hdefault, ← h]
      · exact absurd h (hbad _ _)
  · next n hdefault =>
      rcases number_ok hbad h with ⟨k, rfl⟩ | ⟨x, rfl, hfin, hint⟩
      · simp [hdefault]
      · simpa [hdefault] using ⟨hfin, hint rfl⟩
  · next y hdefault =>
      rcases number_ok hbad h with ⟨k, rfl⟩ | ⟨x, rfl, hfin, -⟩
      · simp [hdefault]
      · simpa [hdefault] using hfin
  · next default hswitch hint hfloat =>
      split at h
      · next hnull =>
          simp only [Except.ok.injEq] at h
          subst h
          exact SettingInfo.admits_null hnull.1
      · split at h
        · exact absurd h (hbad _ _)
        · next s hs =>
            have hstr : ∀ t, info.choices = [] ∨ t ∈ info.choices → info.Admits (.str t) :=
              fun t ht => SettingInfo.admits_str hswitch hint hfloat ht
            split at h
            · next hfree =>
                simp only [Except.ok.injEq] at h
                exact h ▸ hstr s (Or.inl hfree)
            · split at h
              · next choice hchoice =>
                  simp only [Except.ok.injEq] at h
                  exact h ▸ hstr choice (Or.inr (List.mem_of_find?_eq_some hchoice))
              · exact absurd h (Refusal.raise_ne_ok _ _)

/-- What stops a value is a refusal, but for an integer that no double can hold. -/
theorem convert_error {fault : Fault} (h : convert b name info value = .error fault) :
    fault.IsRefusal .command ∨
      fault = .numberTooLarge ∧ info.isNumeric = true ∧
        ∃ n, value = .int n ∧ Double.beyond ≤ n.natAbs := by
  have hbad : ∀ found,
      RefusesAt .command ((Refusal.badValue b name found []).raise : Except Fault Value) :=
    fun found => RefusesAt.raise _
  unfold convert at h
  split at h
  · split at h
    · simp at h
    · exact Or.inl (hbad _ fault h)
  · next n hdefault =>
      rcases number_error hbad h with hr | ⟨hfault, hlarge⟩
      · exact Or.inl hr
      · exact Or.inr ⟨hfault, by simp [SettingInfo.isNumeric, hdefault], hlarge⟩
  · next x hdefault =>
      rcases number_error hbad h with hr | ⟨hfault, hlarge⟩
      · exact Or.inl hr
      · exact Or.inr ⟨hfault, by simp [SettingInfo.isNumeric, hdefault], hlarge⟩
  · split at h
    · simp at h
    · split at h
      · exact Or.inl (hbad _ fault h)
      · split at h
        · simp at h
        · split at h
          · simp at h
          · exact Or.inl (RefusesAt.raise _ fault h)

/-- An integer that no double can hold does stop a number setting. -/
theorem convert_large {n : Int} (hnum : info.isNumeric = true) (hn : Double.beyond ≤ n.natAbs) :
    convert b name info (.int n) = .error .numberTooLarge := by
  have hlost : ofInteger n = .error .numberTooLarge := ofInteger_error.mpr ⟨rfl, hn⟩
  unfold SettingInfo.isNumeric at hnum
  unfold convert
  split at hnum
  · next k hdefault => simpa [hdefault, number] using hlost
  · next x hdefault => simpa [hdefault, number] using hlost
  · simp at hnum

end Convert

/-! ### Checking a patch -/

section Check

variable {b : Blueprint} {patch checked : Fields Value}

/-- A checked patch has the names of the patch, and values that the blueprint admits. -/
theorem check_ok (h : check b patch = .ok checked) :
    checked.names = patch.names ∧ b.AdmitsPatch checked := by
  induction patch generalizing checked with
  | nil =>
      simp only [check, Except.ok.injEq] at h
      subst h
      exact ⟨rfl, by simp [Blueprint.AdmitsPatch]⟩
  | cons entry rest ih =>
      obtain ⟨name, value⟩ := entry
      unfold check at h
      split at h
      · exact absurd h (Refusal.raise_ne_ok _ _)
      · next info hinfo =>
          obtain ⟨converted, hconvert, h⟩ := bind_eq_ok_iff.mp h
          obtain ⟨tail, htail, h⟩ := bind_eq_ok_iff.mp h
          simp only [Except.ok.injEq] at h
          subst h
          obtain ⟨hnames, hvalues⟩ := ih htail
          refine ⟨by simpa [Fields.names] using hnames, ?_⟩
          intro other hother
          rcases List.mem_cons.mp hother with rfl | hmem
          · exact ⟨info, hinfo, convert_admits hconvert⟩
          · exact hvalues other hmem

/-- The patch has an integer that no double can hold for a number setting, and every entry before
it is accepted. -/
inductive Overflows (b : Blueprint) : Fields Value → Prop
  | here {name : String} {n : Int} {rest : Fields Value} {info : SettingInfo}
      (found : Fields.get? name b.settings = some info) (numeric : info.isNumeric = true)
      (large : Double.beyond ≤ n.natAbs) : Overflows b ((name, .int n) :: rest)
  | later {name : String} {value converted : Value} {rest : Fields Value} {info : SettingInfo}
      (found : Fields.get? name b.settings = some info)
      (accepted : convert b name info value = .ok converted) (h : Overflows b rest) :
      Overflows b ((name, value) :: rest)

/-- What stops a check is a refusal, unless the patch overflows. -/
theorem check_error {fault : Fault} (h : check b patch = .error fault) :
    fault.IsRefusal .command ∨ fault = .numberTooLarge ∧ Overflows b patch := by
  induction patch with
  | nil => simp [check] at h
  | cons entry rest ih =>
      obtain ⟨name, value⟩ := entry
      unfold check at h
      split at h
      · exact Or.inl (RefusesAt.raise _ fault h)
      · next info hinfo =>
          rcases bind_eq_error_iff.mp h with hconvert | ⟨converted, hconvert, h⟩
          · rcases convert_error hconvert with hr | ⟨hfault, hnum, n, rfl, hn⟩
            · exact Or.inl hr
            · exact Or.inr ⟨hfault, .here hinfo hnum hn⟩
          · rcases bind_eq_error_iff.mp h with hrest | ⟨tail, -, htail⟩
            · rcases ih hrest with hr | ⟨hfault, hover⟩
              · exact Or.inl hr
              · exact Or.inr ⟨hfault, .later hinfo hconvert hover⟩
            · simp at htail

theorem check_overflows (h : Overflows b patch) : check b patch = .error .numberTooLarge := by
  induction h with
  | here found numeric large =>
      simp only [check, found]
      rw [convert_large numeric large]
      rfl
  | later found accepted _ ih =>
      simp only [check, found]
      rw [accepted, ih]
      rfl

end Check

end Setting

end CommandBar
