/-
The order of settings does not show.

Settings enter the instructions at two places.  The list of what is on the dashboard shows
them in their sorted form, which is one for all orders of the members, at any depth.  The
rules about a key setting show its value as it is, so in there the order of members counts;
but the value is looked up by its name, and where it stands among the settings does not.

`Rearranged` says what may differ, and a widget may differ from another in no more than
that, with the values of the key settings of its type held.
-/
import CommandBar.Proofs.Inventory

namespace CommandBar

open Json

/-! ### What may differ -/

/-- The members differ in their order, and in the order of members within their values, but for
the values of held names, which are the same. -/
inductive Rearranged (held : String → Prop) : Fields Value → Fields Value → Prop
  | refl (members : Fields Value) : Rearranged held members members
  | symm {members others : Fields Value} (h : Rearranged held members others) :
      Rearranged held others members
  | trans {members others more : Fields Value} (h : Rearranged held members others)
      (h' : Rearranged held others more) : Rearranged held members more
  /-- Among the members. -/
  | perm {members others : Fields Value} (h : members.Perm others) :
      Rearranged held members others
  /-- Within the value of one name. -/
  | within (front back : Fields Value) {name : String} {v w : Value} (free : ¬ held name)
      (h : Reordered v w) :
      Rearranged held (front ++ (name, v) :: back) (front ++ (name, w) :: back)

namespace Rearranged

variable {held : String → Prop} {members others : Fields Value}

/-- As objects they are the same but for the order of members. -/
theorem reordered (h : Rearranged held members others) :
    Reordered (.obj members) (.obj others) := by
  induction h with
  | refl members => exact .refl _
  | symm _ ih => exact ih.symm
  | trans _ _ ih ih' => exact ih.trans ih'
  | perm h => exact .perm h
  | within front back _ h => exact .member front back _ h

theorem names_perm (h : Rearranged held members others) :
    (Fields.names members).Perm (Fields.names others) := by
  induction h with
  | refl members => exact .refl _
  | symm _ ih => exact ih.symm
  | trans _ _ ih ih' => exact ih.trans ih'
  | perm h => exact h.map Prod.fst
  | within front back _ _ => simp [Fields.names]

/-- What a held name looks up is the same. -/
theorem get?_eq (h : Rearranged held members others) (hnames : (Fields.names members).Nodup)
    {name : String} (hheld : held name) : Fields.get? name members = Fields.get? name others := by
  induction h with
  | refl members => rfl
  | symm h ih => exact (ih (h.names_perm.nodup_iff.mpr hnames)).symm
  | trans h _ ih ih' => exact (ih hnames).trans (ih' (h.names_perm.nodup_iff.mp hnames))
  | perm h => exact Fields.get?_eq_of_perm hnames h name
  | @within front back other v w free _ =>
      have hne : other ≠ name := fun heq => free (heq ▸ hheld)
      rw [Fields.get?_append_cons_ne hne, Fields.get?_append_cons_ne hne]

end Rearranged

/-- The type has a key setting of that name. -/
def Catalog.IsKey (catalog : Catalog) (type name : String) : Prop :=
  ∃ b ∈ catalog, b.type = type ∧ ∃ key ∈ b.keySetting, key.name = name

instance (catalog : Catalog) (type name : String) : Decidable (catalog.IsKey type name) :=
  inferInstanceAs (Decidable (∃ b ∈ catalog, b.type = type ∧ ∃ key ∈ b.keySetting, key.name = name))

/-- The widgets differ at most in how their settings are arranged. -/
structure Widget.Rearranged (catalog : Catalog) (v w : Widget) : Prop where
  id : v.id = w.id
  type : v.type = w.type
  title : v.title = w.title
  settings : CommandBar.Rearranged (catalog.IsKey v.type) v.settings w.settings

/-! ### What is shown -/

namespace Prompt

section Widgets

variable {vocabulary : Vocabulary} {catalog : Catalog} {v w : Widget} {a b : List Widget}

theorem widgetLine_eq (h : v.Rearranged catalog w) (hv : Distinct (.obj v.settings)) :
    widgetLine v = widgetLine w := by
  have hsettings := h.settings.reordered.sorted_eq hv
  simp only [widgetLine, h.id, h.type, h.title, hsettings]

theorem existingLine_eq (h : v.Rearranged catalog w) (hv : Distinct (.obj v.settings))
    {name : String} (hkey : catalog.IsKey v.type name) :
    existingLine name v = existingLine name w := by
  have hvalue : Value.member v.settings name = Value.member w.settings name := by
    rw [Value.member, h.settings.get?_eq (distinct_obj_iff.mp hv).1 hkey, Value.member]
  simp only [existingLine, h.id, h.title, hvalue]

theorem inventorySection_congr (h : List.Forall₂ (Widget.Rearranged catalog) a b)
    (ha : ∀ w ∈ a, Distinct (.obj w.settings)) : inventorySection a = inventorySection b := by
  have hlines : a.map widgetLine = b.map widgetLine := by
    induction h with
    | nil => rfl
    | cons hfirst _ ih =>
        obtain ⟨hdistinct, ha⟩ := List.forall_mem_cons.mp ha
        rw [List.map_cons, List.map_cons, widgetLine_eq hfirst hdistinct, ih ha]
  cases h with
  | nil => rfl
  | cons hfirst hrest =>
      rw [inventorySection, if_neg (List.cons_ne_nil _ _), hlines, inventorySection,
        if_neg (List.cons_ne_nil _ _)]

theorem existingLines_eq_map (bp : Blueprint) (key : KeySetting) (widgets : List Widget) :
    existingLines bp key widgets =
      match (widgets.filter fun w => w.type == bp.type).map (existingLine key.name) with
      | [] => ["No " ++ bp.displayName ++ " widgets exist yet; 'openOrFocusWidget' will add one."]
      | existing => ("Existing " ++ bp.displayName ++ " widgets:") :: existing := by
  unfold existingLines
  cases widgets.filter fun w => w.type == bp.type with
  | nil => rfl
  | cons w rest => rfl

theorem existingLines_congr (h : List.Forall₂ (Widget.Rearranged catalog) a b)
    (ha : ∀ w ∈ a, Distinct (.obj w.settings)) {bp : Blueprint} (hbp : bp ∈ catalog)
    {key : KeySetting} (hkey : bp.keySetting = some key) :
    existingLines bp key a = existingLines bp key b := by
  have hlines : (a.filter fun w => w.type == bp.type).map (existingLine key.name) =
      (b.filter fun w => w.type == bp.type).map (existingLine key.name) := by
    induction h with
    | nil => rfl
    | @cons v w _ _ hfirst _ ih =>
        obtain ⟨hdistinct, ha⟩ := List.forall_mem_cons.mp ha
        by_cases htype : v.type = bp.type
        · have hline : existingLine key.name v = existingLine key.name w :=
            existingLine_eq hfirst hdistinct ⟨bp, hbp, htype.symm, key, hkey, rfl⟩
          simp [← hfirst.type, htype, hline, ih ha]
        · simp [← hfirst.type, htype, ih ha]
  rw [existingLines_eq_map, existingLines_eq_map, hlines]

/-- **The instructions do not depend on the order of settings.** -/
theorem instructions_rearranged (h : List.Forall₂ (Widget.Rearranged catalog) a b)
    (ha : ∀ w ∈ a, Distinct (.obj w.settings)) :
    instructions a vocabulary catalog = instructions b vocabulary catalog :=
  instructions_congr (inventorySection_congr h ha) fun _ hbp _ hkey =>
    existingLines_congr h ha hbp hkey

/-- A player with a search, and notes laid out in rows and columns. -/
def musicAndPlans : List Widget :=
  [{ id := "youtube-1", type := "youtube", title := "Music"
     settings := [("defaultSearchQuery", .str "lofi"), ("maxResults", .int 5)] },
    { id := "notes-1", type := "notes", title := "Plans"
      settings := [("layout", .obj [("rows", .int 2), ("columns", .int 3)])] }]

/-- The same with the settings the other way round, and so the members of the layout. -/
def musicAndPlansReversed : List Widget :=
  [{ id := "youtube-1", type := "youtube", title := "Music"
     settings := [("maxResults", .int 5), ("defaultSearchQuery", .str "lofi")] },
    { id := "notes-1", type := "notes", title := "Plans"
      settings := [("layout", .obj [("columns", .int 3), ("rows", .int 2)])] }]

theorem instructions_rearranged_music :
    List.Forall₂ (Widget.Rearranged .standard) musicAndPlans musicAndPlansReversed ∧
      (∀ w ∈ musicAndPlans, Distinct (.obj w.settings)) ∧
      instructions musicAndPlans .standard .standard =
        instructions musicAndPlansReversed .standard .standard := by
  have hlayout : ¬ Catalog.standard.IsKey "notes" "layout" := by decide +kernel
  have hsame : List.Forall₂ (Widget.Rearranged .standard) musicAndPlans musicAndPlansReversed :=
    .cons ⟨rfl, rfl, rfl, .perm (.swap _ _ _)⟩
      (.cons ⟨rfl, rfl, rfl, .within [] [] hlayout (.perm (.swap _ _ _))⟩ .nil)
  have hmusic : Distinct (.obj [("defaultSearchQuery", .str "lofi"), ("maxResults", .int 5)]) :=
    .obj (by decide) (by simp [Distinct.str, Distinct.int])
  have hsizes : Distinct (.obj [("rows", .int 2), ("columns", .int 3)]) :=
    .obj (by decide) (by simp [Distinct.int])
  have hplans : Distinct (.obj [("layout", .obj [("rows", .int 2), ("columns", .int 3)])]) :=
    .obj (by decide) (List.forall_mem_singleton.mpr hsizes)
  have hdistinct : ∀ w ∈ musicAndPlans, Distinct (.obj w.settings) :=
    List.forall_mem_cons.mpr ⟨hmusic, List.forall_mem_singleton.mpr hplans⟩
  exact ⟨hsame, hdistinct, instructions_rearranged hsame hdistinct⟩

-- within the value of a key setting the order of members shows
example :
    existingLine "q" ⟨"youtube-1", "youtube", "Music", [("q", .obj [("a", .null), ("b", .null)])]⟩ ≠
      existingLine "q"
        ⟨"youtube-1", "youtube", "Music", [("q", .obj [("b", .null), ("a", .null)])]⟩ := by
  decide +kernel

end Widgets

end Prompt

end CommandBar
