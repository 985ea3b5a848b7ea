/-
What the instructions tell about the dashboard.

The oracle knows the dashboard from a list with a line for each widget.  The id, the
type and the title stand in it between quotes as they are, and only the settings are
written as JSON.  So the list tells the widgets apart as long as none of the three
holds a line break and the first two hold no quote.  A title may hold quotes, even
everything that follows the title in such a line: what stands behind the title is JSON
text from its first character on, and of two ways to read a line one would have JSON
text that ends with the JSON text of the other, behind the words between them.  Behind
these words a scan is inside a string, where the shorter text does not close.

A line break in a title breaks the list.  With the right words around it one widget
makes the lines of two, and nothing in the instructions tells it from the two.
-/
import CommandBar.Proofs.Log
import CommandBar.Proofs.Reordering
import CommandBar.Proofs.Scan
import CommandBar.Prompt
import Mathlib.Data.List.Forall2

namespace CommandBar

open Json

/-! ### Cutting a row at a mark -/

section Cut

variable {α : Type} {x : α} {front front' back back' : List α}

-- `List.append_cons_inj_of_notMem` wants no mark behind the cut either, where the lines have some
/-- A row is cut at its first mark in one way only. -/
theorem append_cons_inj (hfront : x ∉ front) (hfront' : x ∉ front')
    (h : front ++ x :: back = front' ++ x :: back') : front = front' ∧ back = back' := by
  induction front generalizing front' with
  | nil =>
      cases front' with
      | nil => exact ⟨rfl, (List.cons.inj h).2⟩
      | cons y front' => exact absurd (List.cons.inj h).1 fun heq => hfront' (by simp [heq])
  | cons y front ih =>
      cases front' with
      | nil => exact absurd (List.cons.inj h).1 fun heq => hfront (by simp [heq])
      | cons z front' =>
          obtain ⟨rfl, htail⟩ := List.cons.inj h
          rw [List.mem_cons, not_or] at hfront hfront'
          obtain ⟨rfl, hback⟩ := ih hfront.2 hfront'.2 htail
          exact ⟨rfl, hback⟩

/-- So it is at its last. -/
theorem cons_inj_of_append (hback : x ∉ back) (hback' : x ∉ back')
    (h : front ++ x :: back = front' ++ x :: back') : back = back' := by
  have hreverse := congrArg List.reverse h
  simp only [List.reverse_append, List.reverse_cons, List.append_assoc, List.singleton_append]
    at hreverse
  have hsame := (append_cons_inj (by simpa using hback) (by simpa using hback') hreverse).1
  exact List.reverse_injective hsame

end Cut

namespace Prompt

/-! ### The line about a widget -/

/-- What stands between the title and the settings. -/
def delimiter : List Char := "\", settings ".toList

/-- Wherever a scan meets it, the scan is inside a string behind it. -/
theorem follow_delimiter {p q : Place} (h : p.follow delimiter = some q) : q = .inside := by
  have hplaces : ∀ p : Place,
      p.follow delimiter = some .inside ∨ p.follow delimiter = none := by
    intro p
    cases p <;> decide
  rcases hplaces p with hinside | hnone
  · rw [hinside, Option.some.injEq] at h
    exact h.symm
  · simp [hnone] at h

/-- No JSON text ends with the delimiter and JSON text behind it. -/
theorem not_follow_delimiter (before : List Char) {text : List Char}
    (htext : Place.outside.follow text = some .outside) :
    Place.outside.follow (before ++ (delimiter ++ text)) ≠ some .outside := by
  intro h
  rw [Place.follow_append] at h
  obtain ⟨p, -, h⟩ := Option.bind_eq_some_iff.mp h
  rw [Place.follow_append] at h
  obtain ⟨q, hq, h⟩ := Option.bind_eq_some_iff.mp h
  obtain rfl := follow_delimiter hq
  rcases Place.follow_opposite (Or.inl ⟨rfl, rfl⟩) htext h with ⟨-, hinside⟩ | ⟨hinside, -⟩
  · simp at hinside
  · simp at hinside

/-- The delimiter with JSON text behind it does not stand further on in itself. -/
theorem delimiter_once {between text text' : List Char}
    (htext : Place.outside.follow text = some .outside)
    (htext' : Place.outside.follow text' = some .outside)
    (h : delimiter ++ text = between ++ (delimiter ++ text')) : between = [] := by
  rcases List.append_eq_append_iff.mp h with ⟨before, rfl, hsplit⟩ | ⟨rest, hsplit, hrest⟩
  · exact absurd (hsplit ▸ htext) (not_follow_delimiter before htext')
  · -- what is left of the delimiter begins with a quote, and only all of it does
    cases rest with
    | nil =>
        rw [List.nil_append] at hrest
        exact absurd (hrest ▸ htext) (not_follow_delimiter [] htext')
    | cons c rest =>
        obtain rfl : '"' = c := (List.cons.inj hrest).1
        cases between with
        | nil => rfl
        | cons d between =>
            have hmem : '"' ∈ delimiter.tail := by
              rw [hsplit]
              simp
            exact absurd hmem (by decide)

/-- JSON text behind the delimiter is found in one way only. -/
theorem append_delimiter_inj {title title' text text' : List Char}
    (htext : Place.outside.follow text = some .outside)
    (htext' : Place.outside.follow text' = some .outside)
    (h : title ++ (delimiter ++ text) = title' ++ (delimiter ++ text')) :
    title = title' ∧ text = text' := by
  rcases List.append_eq_append_iff.mp h with ⟨between, rfl, hsplit⟩ | ⟨between, rfl, hsplit⟩
  · obtain rfl := delimiter_once htext htext' hsplit
    exact ⟨(List.append_nil _).symm, List.append_cancel_left hsplit⟩
  · obtain rfl := delimiter_once htext' htext hsplit
    exact ⟨List.append_nil _, (List.append_cancel_left hsplit).symm⟩

end Prompt

/-- The widget can be listed: nothing in its id, its type and its title breaks its line, nothing
in the first two ends them before their end, and its settings can be written. -/
structure Widget.Listable (w : Widget) : Prop where
  id : '"' ∉ w.id.toList ∧ '\n' ∉ w.id.toList
  type : '"' ∉ w.type.toList ∧ '\n' ∉ w.type.toList
  title : '\n' ∉ w.title.toList
  settings : Writable (.obj w.settings)

/-- The widgets are the same but for the order of their settings. -/
structure Widget.Alike (v w : Widget) : Prop where
  id : v.id = w.id
  type : v.type = w.type
  title : v.title = w.title
  settings : Reordered (.obj v.settings) (.obj w.settings)

namespace Prompt

theorem widgetLine_toList (w : Widget) :
    (widgetLine w).toList = "- ID \"".toList ++ (w.id.toList ++ '"' :: (", type \"".toList ++
      (w.type.toList ++ '"' :: (", title \"".toList ++ (w.title.toList ++
        (delimiter ++ renderChars (sorted (.obj w.settings)))))))) := by
  have htype : "\", type \"".toList = '"' :: ", type \"".toList := rfl
  have htitle : "\", title \"".toList = '"' :: ", title \"".toList := rfl
  have hjson : (render (sorted (.obj w.settings))).toList =
      renderChars (sorted (.obj w.settings)) := String.toList_ofList
  simp only [widgetLine, String.toList_append, List.append_assoc]
  rw [htype, htitle, hjson]
  rfl

/-- The line about a listable widget is a line. -/
theorem widgetLine_unbroken {w : Widget} (h : w.Listable) : '\n' ∉ (widgetLine w).toList := by
  have hsettings := Place.not_mem_newline (Place.follow_renderChars (sorted (.obj w.settings)))
  rw [widgetLine_toList]
  simp only [List.mem_append, List.mem_cons, not_or]
  exact ⟨by decide, h.id.2, by decide, by decide, h.type.2, by decide, by decide, h.title,
    by decide, hsettings⟩

/-- A listable widget is known from its line. -/
theorem widgetLine_inj {v w : Widget} (hv : v.Listable) (hw : w.Listable)
    (h : widgetLine v = widgetLine w) : v.Alike w := by
  have hchars := congrArg String.toList h
  rw [widgetLine_toList, widgetLine_toList] at hchars
  obtain ⟨hid, hchars⟩ := append_cons_inj hv.id.1 hw.id.1 (List.append_cancel_left hchars)
  obtain ⟨htype, hchars⟩ := append_cons_inj hv.type.1 hw.type.1 (List.append_cancel_left hchars)
  obtain ⟨htitle, htext⟩ := append_delimiter_inj (Place.follow_renderChars _)
    (Place.follow_renderChars _) (List.append_cancel_left hchars)
  have hsorted : sorted (.obj v.settings) = sorted (.obj w.settings) := by
    have hread := readChars_renderChars hv.settings.sorted
    rw [htext, readChars_renderChars hw.settings.sorted, Except.ok.injEq] at hread
    exact hread.symm
  exact ⟨String.toList_inj.mp hid, String.toList_inj.mp htype, String.toList_inj.mp htitle,
    .of_sorted_eq hsorted⟩

/-! ### The list -/

/-- The heading of the list. -/
def heading : String := "--- Current dashboard ---"

/-- The lines of the list. -/
def inventory (widgets : List Widget) : List String :=
  if widgets = [] then ["The dashboard is empty."] else widgets.map widgetLine

theorem inventorySection_eq (widgets : List Widget) :
    inventorySection widgets = lines (heading :: inventory widgets) := by
  unfold inventorySection inventory
  split <;> rfl

theorem inventory_cases {widgets : List Widget} {line : String} (h : line ∈ inventory widgets) :
    line = "The dashboard is empty." ∨ ∃ w ∈ widgets, line = widgetLine w := by
  unfold inventory at h
  split at h
  · exact Or.inl (List.mem_singleton.mp h)
  · obtain ⟨w, hw, rfl⟩ := List.mem_map.mp h
    exact Or.inr ⟨w, hw, rfl⟩

/-- What the line about a widget begins with. -/
theorem widgetLine_begins (w : Widget) : (widgetLine w).toList.take 3 = "- I".toList := by
  rw [widgetLine_toList]
  rfl

theorem heading_not_mem (widgets : List Widget) : heading ∉ inventory widgets := by
  intro hmem
  rcases inventory_cases hmem with hempty | ⟨w, -, hline⟩
  · exact absurd hempty (by decide)
  · have hbegins := widgetLine_begins w
    rw [← hline] at hbegins
    exact absurd hbegins (by decide)

/-- The list is known from its lines. -/
theorem inventory_inj {a b : List Widget} (ha : ∀ w ∈ a, w.Listable) (hb : ∀ w ∈ b, w.Listable)
    (h : inventory a = inventory b) : List.Forall₂ Widget.Alike a b := by
  have hnever : ∀ w, "The dashboard is empty." ≠ widgetLine w := by
    intro w heq
    have hbegins := widgetLine_begins w
    rw [← heq] at hbegins
    exact absurd hbegins (by decide)
  unfold inventory at h
  split at h
  · next hempty =>
      split at h
      · next hempty' =>
          rw [hempty, hempty']
          exact .nil
      · cases b with
        | nil => exact absurd rfl ‹¬ [] = []›
        | cons w b => exact absurd (List.cons.inj h).1 (hnever w)
  · split at h
    · cases a with
      | nil => exact absurd rfl ‹¬ [] = []›
      | cons w a => exact absurd (List.cons.inj h).1.symm (hnever w)
    · have hlines : List.Forall₂ (fun v w => widgetLine v = widgetLine w) a b := by
        rw [← List.forall₂_eq_eq_eq, List.forall₂_map_left_iff, List.forall₂_map_right_iff] at h
        exact h
      refine List.forall₂_iff_zip.mpr ⟨hlines.length_eq, ?_⟩
      intro v w hmem
      have hv : v ∈ a := (List.of_mem_zip hmem).1
      have hw : w ∈ b := (List.of_mem_zip hmem).2
      exact widgetLine_inj (ha v hv) (hb w hw) ((List.forall₂_iff_zip.mp hlines).2 hmem)

/-! ### The instructions -/

/-- Lines that are put together are its lines. -/
theorem lines_lines {ls : List String} (hne : ls ≠ []) (h : ∀ l ∈ ls, '\n' ∉ l.toList) :
    Text.lines (lines ls) = ls := by
  have hbreak : "\n".toList = ['\n'] := rfl
  rw [Text.lines, lines, String.toList_intercalate, hbreak, List.splitOn_intercalate]
  · simp
  · exact List.forall_mem_map.mpr h
  · simpa using hne

section Instructions

variable {vocabulary : Vocabulary} {catalog : Catalog} {widgets : List Widget}

/-- The list is a row of lines in the instructions, and what stands behind it is always the same. -/
theorem lines_instructions (vocabulary : Vocabulary) (catalog : Catalog)
    (h : ∀ w ∈ widgets, w.Listable) :
    ∃ front, Text.lines (instructions widgets vocabulary catalog) =
      front ++ heading :: inventory widgets ++ Text.lines ("\n" ++ responseRules ++ "\n") := by
  let before := [preamble, actionSection vocabulary, catalogSection catalog] ++
    keySections catalog widgets ++ [targetRules]
  have hsections : instructions widgets vocabulary catalog =
      (String.intercalate "\n\n" before ++ "\n") ++ "\n" ++
        (inventorySection widgets ++ "\n" ++ ("\n" ++ responseRules ++ "\n")) := by
    have hbreaks : "\n\n" = "\n" ++ "\n" := rfl
    have hsplit : [preamble, actionSection vocabulary, catalogSection catalog] ++
        keySections catalog widgets ++
        [targetRules, inventorySection widgets, responseRules] =
          before ++ [inventorySection widgets, responseRules] := by
      simp [before]
    rw [instructions, hsplit, String.intercalate_append_of_ne_nil (by simp [before]) (by simp),
      String.intercalate_cons_cons, String.intercalate_singleton]
    simp only [hbreaks, String.append_assoc]
  have hlist : Text.lines (inventorySection widgets) = heading :: inventory widgets := by
    rw [inventorySection_eq]
    refine lines_lines (by simp) (List.forall_mem_cons.mpr ⟨by decide, ?_⟩)
    intro line hline
    rcases inventory_cases hline with rfl | ⟨w, hw, rfl⟩
    · decide
    · exact widgetLine_unbroken (h w hw)
  refine ⟨Text.lines (String.intercalate "\n\n" before ++ "\n"), ?_⟩
  rw [hsections, Text.lines_append, Text.lines_append, hlist, List.append_assoc]

/-- **The instructions tell what is on the dashboard**: listable widgets with the same
instructions are the same, in the same order, but for the order of their settings. -/
theorem instructions_determine {a b : List Widget} (ha : ∀ w ∈ a, w.Listable)
    (hb : ∀ w ∈ b, w.Listable)
    (h : instructions a vocabulary catalog = instructions b vocabulary catalog) :
    List.Forall₂ Widget.Alike a b := by
  obtain ⟨front, hfront⟩ := lines_instructions vocabulary catalog ha
  obtain ⟨front', hfront'⟩ := lines_instructions vocabulary catalog hb
  rw [h, hfront'] at hfront
  have hsame := cons_inj_of_append (heading_not_mem b) (heading_not_mem a)
    (List.append_cancel_right hfront)
  exact inventory_inj ha hb hsame.symm

/-- Beside the list the widgets matter only as far as they are of a type with a key setting. -/
theorem instructions_congr {a b : List Widget} (hlist : inventorySection a = inventorySection b)
    (hkeyed : ∀ bp ∈ catalog, ∀ key ∈ bp.keySetting,
      existingLines bp key a = existingLines bp key b) :
    instructions a vocabulary catalog = instructions b vocabulary catalog := by
  have hkeys : keySections catalog a = keySections catalog b := by
    refine List.filterMap_congr fun bp hbp => ?_
    cases hkey : bp.keySetting with
    | none => rfl
    | some key =>
        have hsame := hkeyed bp hbp key hkey
        simp only [Option.map_some, keySection, hsame]
  simp only [instructions, hkeys, hlist]

/-- A clock whose title holds what stands behind a title, and settings in no order. -/
def quoting : List Widget :=
  [{ id := "clock-1", type := "clock", title := "\", settings \x7b\x7d",
     settings := [("b", .null), ("a", .str "\", settings \x7b\x7d")] }]

/-- The same settings in order. -/
def quotingInOrder : List Widget :=
  [{ id := "clock-1", type := "clock", title := "\", settings \x7b\x7d",
     settings := [("a", .str "\", settings \x7b\x7d"), ("b", .null)] }]

theorem instructions_determine_quoting :
    instructions quoting .standard .standard = instructions quotingInOrder .standard .standard ∧
      (∀ w ∈ quoting, w.Listable) ∧ (∀ w ∈ quotingInOrder, w.Listable) ∧
      List.Forall₂ Widget.Alike quoting quotingInOrder := by
  have hwritable : ∀ members : Fields Value, (Fields.names members).Nodup →
      (∀ member ∈ members, member.2 = .null ∨ member.2 = .str "\", settings \x7b\x7d") →
        Writable (.obj members) := by
    intro members hdistinct heach
    refine .obj hdistinct fun member hmember => ?_
    rcases heach member hmember with hnull | hstr
    · exact hnull ▸ .null
    · exact hstr ▸ .str _
  have hquoting : ∀ w ∈ quoting, w.Listable := by
    refine List.forall_mem_singleton.mpr ⟨by decide, by decide, by decide, ?_⟩
    exact hwritable _ (by decide) (by decide)
  have hordered : ∀ w ∈ quotingInOrder, w.Listable := by
    refine List.forall_mem_singleton.mpr ⟨by decide, by decide, by decide, ?_⟩
    exact hwritable _ (by decide) (by decide)
  have hsame : instructions quoting .standard .standard =
      instructions quotingInOrder .standard .standard :=
    instructions_congr (by decide +kernel) (by decide +kernel)
  exact ⟨hsame, hquoting, hordered, instructions_determine hquoting hordered hsame⟩

/-- Two notes, listed one below the other. -/
def twoNotes : List Widget :=
  [{ id := "notes-1", type := "notes", title := "Plans" },
    { id := "notes-2", type := "notes", title := "Bills" }]

/-- One note under a title that holds the end of its own line and most of another. -/
def forgedNote : List Widget :=
  [{ id := "notes-1", type := "notes",
     title := "Plans\", settings \x7b\x7d\n- ID \"notes-2\", type \"notes\", title \"Bills" }]

/-- A line break in a title can make two widgets of one. -/
theorem instructions_forged :
    instructions forgedNote .standard .standard = instructions twoNotes .standard .standard ∧
      ¬ List.Forall₂ Widget.Alike forgedNote twoNotes := by
  constructor
  · exact instructions_congr (by decide +kernel) (by decide +kernel)
  · intro halike
    exact absurd halike.length_eq (by decide)

end Instructions

end Prompt

end CommandBar
