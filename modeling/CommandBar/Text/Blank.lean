/-
Blank characters and trimming.

Blank are the characters that Unicode calls white space together with the four
information separators.  Zero-width spaces are not blank.  Trimming at one end
drops the longest run of unwanted characters there, so a trimmed text starts (or
ends) with a wanted one, and trimming it again changes nothing.
-/

namespace CommandBar

namespace Text

/-- Whether the character is blank. -/
def isBlank (c : Char) : Bool :=
  let n := c.toNat
  (0x09 ≤ n && n ≤ 0x0D) || (0x1C ≤ n && n ≤ 0x20) || n == 0x85 || n == 0xA0 || n == 0x1680 ||
    (0x2000 ≤ n && n ≤ 0x200A) || n == 0x2028 || n == 0x2029 || n == 0x202F || n == 0x205F ||
    n == 0x3000

/-- The text without the unwanted characters at its end. -/
def dropEndWhile (unwanted : Char → Bool) : List Char → List Char
  | [] => []
  | c :: rest =>
    match dropEndWhile unwanted rest with
    | [] => if unwanted c then [] else [c]
    | kept => c :: kept

/-- The text without the unwanted characters at its two ends. -/
def trimWhile (unwanted : Char → Bool) (cs : List Char) : List Char :=
  dropEndWhile unwanted (cs.dropWhile unwanted)

/-- The text without the blanks at its two ends. -/
def trimChars (cs : List Char) : List Char :=
  trimWhile isBlank cs

/-- The text without the blanks at its two ends. -/
def trim (s : String) : String :=
  String.ofList (trimChars s.toList)

/-- Whether a text holds nothing but blanks. -/
def isAllBlank (s : String) : Bool :=
  s.toList.all isBlank

/-! ### What trimming leaves -/

/-- What is dropped at the end is unwanted throughout. -/
theorem dropEndWhile_append_dropped (p : Char → Bool) (cs : List Char) :
    ∃ dropped, cs = dropEndWhile p cs ++ dropped ∧ ∀ c ∈ dropped, p c = true := by
  induction cs with
  | nil => exact ⟨[], rfl, by simp⟩
  | cons c rest ih =>
    obtain ⟨dropped, hrest, hdropped⟩ := ih
    simp only [dropEndWhile]
    split
    · next h =>
      rw [h, List.nil_append] at hrest
      by_cases hc : p c
      · exact ⟨c :: dropped, by simp [hc, hrest], by simpa [hc] using hdropped⟩
      · exact ⟨dropped, by simp [hc, ← hrest], hdropped⟩
    · exact ⟨dropped, by rw [List.cons_append, ← hrest], hdropped⟩

end Text

end CommandBar
