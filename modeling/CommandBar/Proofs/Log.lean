/-
What the log holds after a row of utterances.

Split at its line breaks, the log is the heading and the verdict of one record after
another (`lines_texts`), but either of them may be split itself.  What a verdict
quotes is printable, and a line break is not.  So an entry has two lines just if
there is no line break in what it repeats as it stands: the time, the origin and the
text of the utterance, and what the user is told of a failure.
-/
import CommandBar.Proofs.Rendering
import CommandBar.Proofs.Run

namespace CommandBar

namespace Text

/-! ### What can be shown -/

/-- Every one of the characters can be shown as it is. -/
def Shown (cs : List Char) : Prop :=
  ∀ c ∈ cs, isPrintable c = true

theorem isPrintable_of_ascii {c : Char} (h : 0x20 ≤ c.toNat ∧ c.toNat < 0x7F) :
    isPrintable c = true := by
  have hspans : unprintableSpans = ⟨0x0, 0x1F⟩ :: ⟨0x7F, 0xA0⟩ :: unprintableSpans.drop 2 := rfl
  rw [isPrintable, hspans, Span.anyHolds, Span.anyHolds]
  simp [show ¬ c.toNat ≤ 0x1F by omega, h.2]

namespace Shown

variable {cs ds : List Char}

theorem nil : Shown [] := by simp [Shown]

theorem cons {c : Char} (hc : isPrintable c = true) (h : Shown cs) : Shown (c :: cs) :=
  List.forall_mem_cons.mpr ⟨hc, h⟩

theorem append (h : Shown cs) (h' : Shown ds) : Shown (cs ++ ds) :=
  List.forall_mem_append.mpr ⟨h, h'⟩

theorem of_all (h : cs.all isPrintable = true) : Shown cs :=
  List.all_eq_true.mp h

theorem of_numeric (h : Json.Numeric cs) : Shown cs := by
  refine h.forall_mem (fun c hdigit => ?_) (by decide)
  have hbounds := toNat_of_isDigit hdigit
  exact isPrintable_of_ascii ⟨by omega, by omega⟩

theorem intercalate {texts : List (List Char)} (hcs : Shown cs) (h : ∀ text ∈ texts, Shown text) :
    Shown (cs.intercalate texts) := by
  induction texts with
  | nil => exact nil
  | cons text rest ih =>
      rw [List.forall_mem_cons] at h
      cases rest with
      | nil => simpa using h.1
      | cons next more =>
          rw [List.intercalate_cons_cons]
          exact (h.1.append hcs).append (ih h.2)

/-- A line break cannot be shown. -/
theorem not_mem_newline (h : Shown cs) : '\n' ∉ cs :=
  fun hmem => absurd (h '\n' hmem) (by decide)

end Shown

theorem hexDigit_printable : ∀ v < 16, isPrintable (hexDigit v) = true := by
  decide

theorem hexDigits_shown (width n : Nat) : Shown (hexDigits width n) := by
  induction width generalizing n with
  | zero => exact .nil
  | succ width ih =>
      exact (ih _).append (.cons (hexDigit_printable _ (Nat.mod_lt _ (by decide))) .nil)

theorem quoteChar_shown {quote : Char} (hquote : isPrintable quote = true) (c : Char) :
    Shown (quoteChar quote c) := by
  have hslash : isPrintable '\\' = true := by decide
  unfold quoteChar
  split
  · next h =>
      refine .cons hslash (.cons ?_ .nil)
      rcases h with rfl | rfl
      · exact hquote
      · exact hslash
  · split
    · exact .of_all (by decide)
    · split
      · exact .of_all (by decide)
      · split
        · exact .of_all (by decide)
        · split
          · next h => exact .cons h .nil
          · dsimp only
            split
            · exact .cons hslash (.cons (by decide) (hexDigits_shown 2 _))
            · split
              · exact .cons hslash (.cons (by decide) (hexDigits_shown 4 _))
              · exact .cons hslash (.cons (by decide) (hexDigits_shown 8 _))

/-- A text in quotes can be shown. -/
theorem quoted_shown (s : String) : Shown (quoted s).toList := by
  have hquote : isPrintable (quoteFor s.toList) = true := by
    unfold quoteFor
    split <;> decide
  rw [quoted, String.toList_ofList]
  refine .append (.cons hquote ?_) (.cons hquote .nil)
  intro d hd
  obtain ⟨c, -, hd⟩ := List.mem_flatMap.mp hd
  exact quoteChar_shown hquote c d hd

/-! ### Lines -/

/-- What stands before, between and behind the line breaks of a text. -/
def lines (s : String) : List String :=
  (s.toList.splitOn '\n').map String.ofList

theorem lines_append (s t : String) : lines (s ++ "\n" ++ t) = lines s ++ lines t := by
  have hbreak : "\n".toList = ['\n'] := rfl
  rw [lines, String.toList_append, String.toList_append, hbreak, List.append_assoc,
    List.singleton_append, List.splitOn_append_cons_self, List.map_append]
  rfl

theorem lines_ne_nil (s : String) : lines s ≠ [] := by
  simp [lines, List.splitOn_ne_nil]

theorem lines_eq_singleton {s : String} (h : '\n' ∉ s.toList) : lines s = [s] := by
  rw [lines, List.splitOn_eq_singleton h, List.map_singleton, String.ofList_toList]

/-- A text is a line of its own just if it holds no line break. -/
theorem length_lines_eq_one_iff {s : String} : (lines s).length = 1 ↔ '\n' ∉ s.toList := by
  refine ⟨fun hone hmem => ?_, fun h => by rw [lines_eq_singleton h]; rfl⟩
  obtain ⟨front, back, hsplit⟩ := List.append_of_mem hmem
  have hfront := List.length_pos_of_ne_nil (List.splitOn_ne_nil '\n' front)
  have hback := List.length_pos_of_ne_nil (List.splitOn_ne_nil '\n' back)
  rw [lines, hsplit, List.length_map, List.splitOn_append_cons_self, List.length_append] at hone
  omega

end Text

/-! ### Values in messages -/

open Text

theorem Double.text_shown (x : Double) : Shown (x.text Json.literalSpelling) := by
  cases x with
  | nan => exact .of_all (by decide)
  | infinite negative => cases negative <;> exact .of_all (by decide)
  | finite negative m => exact .of_numeric (Json.numeric_finite _ negative m)

namespace Json

mutual

/-- A value in a message is printable, whatever its texts are. -/
theorem literalChars_shown : ∀ v : Value, Shown (literalChars v)
  | .null => .of_all (by decide)
  | .bool true => .of_all (by decide)
  | .bool false => .of_all (by decide)
  | .int n => .of_numeric (numeric_intText n)
  | .float x => x.text_shown
  | .str s => quoted_shown s
  | .arr [] => .of_all (by decide)
  | .arr (item :: items) =>
    .cons (by decide) ((literalChars_shown item).append (literalItems_shown items))
  | .obj [] => .of_all (by decide)
  | .obj ((name, value) :: members) =>
    .append (.cons (by decide) ((quoted_shown name).append
      (.cons (by decide) (.cons (by decide) (literalChars_shown value)))))
      (literalMembers_shown members)

theorem literalItems_shown : ∀ items : List Value, Shown (literalItems items)
  | [] => .of_all (by decide)
  | item :: items =>
    .cons (by decide) (.cons (by decide)
      ((literalChars_shown item).append (literalItems_shown items)))

theorem literalMembers_shown : ∀ members : List (String × Value), Shown (literalMembers members)
  | [] => .of_all (by decide)
  | (name, value) :: members =>
    .append (.cons (by decide) (.cons (by decide) ((quoted_shown name).append
      (.cons (by decide) (.cons (by decide) (literalChars_shown value))))))
      (literalMembers_shown members)

end

theorem literal_shown (v : Value) : Shown (literal v).toList := by
  rw [literal, String.toList_ofList]
  exact literalChars_shown v

end Json

/-! ### Records -/

namespace Log

open Json

theorem parts_shown (c : Command) : ∀ part ∈ parts c, Shown part.toList := by
  have hquoted : ∀ (note : String) (v : Value), Shown note.toList →
      ∀ part ∈ [note ++ literal v], Shown part.toList := by
    intro note v hnote
    rw [List.forall_mem_singleton, String.toList_append]
    exact hnote.append (literal_shown v)
  simp only [parts, List.forall_mem_cons, List.forall_mem_append]
  refine ⟨by cases c.action <;> exact .of_all (by decide), ⟨⟨?_, ?_⟩, ?_⟩, ?_⟩
  · split
    · exact hquoted "widgetType=" _ (.of_all (by decide))
    · exact List.forall_mem_nil _
  · split
    · exact hquoted "target=" _ (.of_all (by decide))
    · exact List.forall_mem_nil _
  · split
    · exact List.forall_mem_nil _
    · exact hquoted "settings=" _ (.of_all (by decide))
  · split
    · exact List.forall_mem_nil _
    · exact List.forall_mem_singleton.mpr (.of_all (by decide))

/-- What becomes of a command that is applied or dropped is shown on one line; of one that fails,
just if the user is told so on one line. -/
theorem newline_mem_ending (outcome : Option Outcome) :
    '\n' ∈ (ending outcome).toList ↔
      ∃ kind feedback, outcome = some (.failed kind feedback) ∧ '\n' ∈ feedback.toList := by
  cases outcome with
  | none => exact iff_of_false (by decide) (by simp)
  | some outcome =>
      cases outcome with
      | applied c =>
          refine iff_of_false (Shown.not_mem_newline ?_) (by simp)
          rw [ending, String.toList_append, String.toList_intercalate]
          refine .append (.intercalate (.of_all (by decide)) ?_) (.of_all (by decide))
          exact List.forall_mem_map.mpr (parts_shown c)
      | failed kind feedback =>
          have hkind : '\n' ∉ kind.name.toList := by cases kind <;> decide
          simp [ending, hkind]

/-- A command that came to a result, as the log has it. -/
structure Record where
  time : String
  utterance : Utterance
  outcome : Option Outcome

namespace Record

/-- When it was given, how, and what was said. -/
def heading (r : Record) : String :=
  r.time ++ " [" ++ r.utterance.origin ++ "]  " ++ r.utterance.text

/-- What became of it. -/
def verdict (r : Record) : String :=
  "  -> " ++ ending r.outcome

/-- The entry of the record. -/
def entry (r : Record) : String :=
  Log.entry r.time r.utterance r.outcome

/-- No line break stands in what the entry repeats as it is. -/
structure Unbroken (r : Record) : Prop where
  time : '\n' ∉ r.time.toList
  origin : '\n' ∉ r.utterance.origin.toList
  text : '\n' ∉ r.utterance.text.toList
  feedback : ∀ kind feedback, r.outcome = some (.failed kind feedback) → '\n' ∉ feedback.toList

variable {r : Record}

theorem unbroken_iff :
    r.Unbroken ↔ '\n' ∉ r.heading.toList ∧ '\n' ∉ r.verdict.toList := by
  have harrow : '\n' ∉ ("  -> " : String).toList := by decide
  constructor
  · rintro ⟨htime, horigin, htext, hfeedback⟩
    refine ⟨by simp [heading, htime, horigin, htext], ?_⟩
    rw [verdict, String.toList_append, List.mem_append, not_or, newline_mem_ending]
    exact ⟨harrow, fun ⟨kind, feedback, hfailed, hmem⟩ => hfeedback kind feedback hfailed hmem⟩
  · rintro ⟨hheading, hverdict⟩
    simp only [heading, String.toList_append, List.mem_append, not_or] at hheading
    rw [verdict, String.toList_append, List.mem_append, not_or, newline_mem_ending] at hverdict
    obtain ⟨⟨⟨⟨htime, -⟩, horigin⟩, -⟩, htext⟩ := hheading
    exact ⟨htime, horigin, htext,
      fun kind feedback hfailed hmem => hverdict.2 ⟨kind, feedback, hfailed, hmem⟩⟩

/-- The lines of the entry. -/
def entryLines (r : Record) : List String :=
  lines r.heading ++ lines r.verdict

theorem lines_entry (r : Record) (rest : String) :
    lines (r.entry ++ rest) = r.entryLines ++ lines rest := by
  have hentry : r.entry ++ rest = r.heading ++ "\n" ++ (r.verdict ++ "\n" ++ rest) := by
    have harrow : "\n  -> " = "\n" ++ "  -> " := rfl
    simp only [entry, Log.entry, heading, verdict, harrow, String.append_assoc]
  rw [hentry, lines_append, lines_append, entryLines, List.append_assoc]

theorem two_le_length_entryLines (r : Record) : 2 ≤ r.entryLines.length := by
  have hheading := List.length_pos_of_ne_nil (lines_ne_nil r.heading)
  have hverdict := List.length_pos_of_ne_nil (lines_ne_nil r.verdict)
  rw [entryLines, List.length_append]
  omega

theorem length_entryLines_le_two_iff : r.entryLines.length ≤ 2 ↔ r.Unbroken := by
  have hheading := List.length_pos_of_ne_nil (lines_ne_nil r.heading)
  have hverdict := List.length_pos_of_ne_nil (lines_ne_nil r.verdict)
  rw [unbroken_iff, ← length_lines_eq_one_iff, ← length_lines_eq_one_iff, entryLines,
    List.length_append]
  omega

theorem Unbroken.entryLines_eq (h : r.Unbroken) : r.entryLines = [r.heading, r.verdict] := by
  obtain ⟨hheading, hverdict⟩ := unbroken_iff.mp h
  rw [entryLines, lines_eq_singleton hheading, lines_eq_singleton hverdict]
  rfl

end Record

/-! ### A row of records -/

/-- The entries of some records, one after another. -/
def entries (records : List Record) : String :=
  records.foldr (fun r rest => r.entry ++ rest) ""

/-- Their lines are those of the one and the other, in order. -/
theorem lines_entries (records : List Record) :
    lines (entries records) = records.flatMap Record.entryLines ++ [""] := by
  induction records with
  | nil => rfl
  | cons r rest ih =>
      have hentries : entries (r :: rest) = r.entry ++ entries rest := rfl
      rw [hentries, Record.lines_entry, ih, List.flatMap_cons, List.append_assoc]

theorem two_mul_length_le (records : List Record) :
    2 * records.length ≤ (records.flatMap Record.entryLines).length := by
  induction records with
  | nil => exact Nat.le_refl 0
  | cons r rest ih =>
      have htwo := r.two_le_length_entryLines
      rw [List.flatMap_cons, List.length_append, List.length_cons]
      omega

/-- If there are no more than two lines for each record, every record is unbroken. -/
theorem unbroken_of_length {records : List Record}
    (h : (records.flatMap Record.entryLines).length ≤ 2 * records.length) :
    ∀ r ∈ records, r.Unbroken := by
  induction records with
  | nil => simp
  | cons r rest ih =>
      have htwo := r.two_le_length_entryLines
      have hrest := two_mul_length_le rest
      rw [List.flatMap_cons, List.length_append, List.length_cons] at h
      rw [List.forall_mem_cons]
      exact ⟨Record.length_entryLines_le_two_iff.mp (by omega), ih (by omega)⟩

/-- A line for the heading and one for the verdict of each record is all there is just if every
record is unbroken. -/
theorem lines_entries_iff (records : List Record) :
    lines (entries records) = records.flatMap (fun r => [r.heading, r.verdict]) ++ [""] ↔
      ∀ r ∈ records, r.Unbroken := by
  rw [lines_entries, List.append_left_inj]
  constructor
  · intro hlines
    have hlength : (records.flatMap fun r => [r.heading, r.verdict]).length =
        2 * records.length := by
      simp [List.length_flatMap, Nat.mul_comm]
    exact unbroken_of_length (by rw [hlines, hlength])
  · intro hunbroken
    exact List.flatMap_congr fun r hr => (hunbroken r hr).entryLines_eq

end Log

/-! ### A row of utterances -/

namespace Interpreter

open Log

/-- What a row of utterances, each with its time, leaves in the log. -/
def logged (i : Interpreter) : Host → List (String × Exchange) → String
  | _, [] => ""
  | host, (time, x) :: rest =>
    (i.interpret x.utterance x.live x.oracle host).2.entry time x.utterance ++
      i.logged (i.step host x) rest

/-- The records of those that come to a result, in order. -/
def records (i : Interpreter) : Host → List (String × Exchange) → List Record
  | _, [] => []
  | host, (time, x) :: rest =>
    match (i.interpret x.utterance x.live x.oracle host).2.result with
    | .ok outcome => ⟨time, x.utterance, outcome⟩ :: i.records (i.step host x) rest
    | .error _ => i.records (i.step host x) rest

/-- The log holds the entries of those records and nothing else. -/
theorem logged_eq (i : Interpreter) (row : List (String × Exchange)) :
    ∀ host : Host, i.logged host row = entries (i.records host row) := by
  induction row with
  | nil => exact fun _ => rfl
  | cons first rest ih =>
      intro host
      obtain ⟨time, x⟩ := first
      rw [logged, records, Interpretation.entry, ih]
      cases (i.interpret x.utterance x.live x.oracle host).2.result with
      | ok outcome => rfl
      | error fault => exact String.empty_append

/-- **The log has two lines for each utterance that comes to a result, one for what was said and
one for what became of it, exactly if no line break stands in a time, an origin, a text or the
feedback of a failure.**  Whatever else the oracle replies is quoted and cannot break a line. -/
theorem logged_lines_iff (i : Interpreter) (host : Host) (row : List (String × Exchange)) :
    lines (i.logged host row) =
        (i.records host row).flatMap (fun r => [r.heading, r.verdict]) ++ [""] ↔
      ∀ r ∈ i.records host row, r.Unbroken := by
  rw [logged_eq]
  exact lines_entries_iff _

/-- Something typed, and the reply that nothing is to be done. -/
def idleExchange (text : String) : String × Exchange :=
  ("2026-10-19 10:00:00",
    ⟨⟨text, "typed"⟩, [], fun _ => .sent (.str "\x7b\"action\":\"noop\"\x7d")⟩)

/-- One utterance can leave what two would have left. -/
theorem logged_imitates :
    let imitation := "hello\n  -> noop, ok\n2026-10-19 10:00:00 [typed]  what time is it"
    (standard.records { dashboard := {} } [idleExchange imitation]).length = 1 ∧
      (lines (standard.logged { dashboard := {} } [idleExchange imitation])).length = 5 ∧
      standard.logged { dashboard := {} } [idleExchange imitation] =
        standard.logged { dashboard := {} }
          [idleExchange "hello", idleExchange "what time is it"] := by
  decide +kernel

end Interpreter

end CommandBar
