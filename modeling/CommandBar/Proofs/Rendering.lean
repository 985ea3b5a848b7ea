/-
JSON text reads back as the value that it was rendered from.

Reading hands on what follows a value, so the statement is about the text of a value
with something behind it.  What stands behind must not lengthen the value, which
only numbers care about, and inside a text it is always a comma, a closing bracket
or a closing brace.  With that the proof follows the writer: a value, the elements
that follow the first, the members that follow the first.  The fuel of the reader is
compared with the length of the text, of which every level takes a character.

Some values do not come back: an object that has a name twice loses a member, and an
integer with too many digits is refused.  `Writable` leaves these out, at every
level, and nothing else.
-/
import CommandBar.Proofs.Fields
import CommandBar.Proofs.Numeral

namespace CommandBar

namespace Json

/-! ### Strings -/

/-- The UTF-16 units of a character. -/
def utf16 (c : Char) : List Nat :=
  if c.toNat < 0x10000 then [c.toNat]
  else [0xD800 + (c.toNat - 0x10000) / 0x400, 0xDC00 + (c.toNat - 0x10000) % 0x400]

theorem toNat_range (c : Char) : c.toNat < 0xD800 ∨ 0xDFFF < c.toNat ∧ c.toNat < 0x110000 :=
  c.valid

/-- Joining the units of a character gives the character back. -/
theorem joinUnits_utf16 (c : Char) (units : List Nat) :
    joinUnits (utf16 c ++ units) = c :: joinUnits units := by
  have hrange := toNat_range c
  unfold utf16
  by_cases hplane : c.toNat < 0x10000
  · have hhigh : isHighHalf c.toNat = false := by
      simp only [isHighHalf, Bool.and_eq_false_iff, decide_eq_false_iff_not]
      omega
    have hlow : isLowHalf c.toNat = false := by
      simp only [isLowHalf, Bool.and_eq_false_iff, decide_eq_false_iff_not]
      omega
    have hchar : unitChar c.toNat = c := by
      simp [unitChar, hhigh, hlow, Char.ofNat_toNat]
    rw [if_pos hplane]
    cases units with
    | nil => simp [joinUnits, hchar]
    | cons n units => simp [joinUnits, hhigh, hchar]
  · obtain ⟨n, hn⟩ : ∃ n, c.toNat = n + 0x10000 := ⟨c.toNat - 0x10000, by omega⟩
    have hhigh : isHighHalf (0xD800 + n / 0x400) = true := by
      simp only [isHighHalf, Bool.and_eq_true, decide_eq_true_eq]
      omega
    have hlow : isLowHalf (0xDC00 + n % 0x400) = true := by
      simp only [isLowHalf, Bool.and_eq_true, decide_eq_true_eq]
      omega
    have hchar : joinHalves (0xD800 + n / 0x400) (0xDC00 + n % 0x400) = c := by
      have hsum : 0x10000 + (0xD800 + n / 0x400 - 0xD800) * 0x400 +
          (0xDC00 + n % 0x400 - 0xDC00) = c.toNat := by omega
      rw [joinHalves, hsum, Char.ofNat_toNat]
    rw [if_neg hplane, hn, Nat.add_sub_cancel]
    simp [joinUnits, hhigh, hlow, hchar]

theorem joinUnits_flatMap (cs : List Char) : joinUnits (cs.flatMap utf16) = cs := by
  induction cs with
  | nil => rfl
  | cons c cs ih => rw [List.flatMap_cons, joinUnits_utf16, ih]

theorem hexValue?_hexDigit : ∀ v < 16, hexValue? (Text.hexDigit v) = some v := by
  decide

/-- Four hexadecimal digits read back as the unit that they spell. -/
theorem exists_hexDigits {n : Nat} (hn : n < 0x10000) :
    ∃ a b c d, Text.hexDigits 4 n = [a, b, c, d] ∧ hexUnit? a b c d = some n := by
  refine ⟨_, _, _, _, rfl, ?_⟩
  have hsum : (((n / 16 / 16 / 16 % 16 * 16 + n / 16 / 16 % 16) * 16 + n / 16 % 16) * 16 +
      n % 16) = n := by omega
  simp only [hexUnit?, hexValue?_hexDigit _ (Nat.mod_lt _ (by decide : 16 > 0)),
    Option.bind_eq_bind, Option.bind_some, hsum]

section Strings

variable (opening : List Char) (x : Char) (rest : List Char)

theorem readUnits_unitEscape {n : Nat} (hn : n < 0x10000) :
    readUnits opening (unitEscape n ++ x :: rest) = .cons n (readUnits opening (x :: rest)) := by
  obtain ⟨a, b, c, d, hdigits, hunit⟩ := exists_hexDigits hn
  rw [unitEscape, hdigits]
  show readUnits opening ('\\' :: 'u' :: a :: b :: c :: d :: x :: rest) = _
  rw [readUnits, hunit]

/-- A character that is written as it is stands for its unit. -/
theorem readUnits_plain {c : Char} (hquote : c ≠ '"') (hslash : c ≠ '\\')
    (hprintable : 0x20 ≤ c.toNat) :
    readUnits opening (c :: x :: rest) = .cons c.toNat (readUnits opening (x :: rest)) := by
  rw [readUnits, if_neg (Nat.not_lt.mpr hprintable)]
  all_goals simp_all

/-- A character reads back from its escape as its units. -/
theorem readUnits_escapeChar (c : Char) :
    readUnits opening (escapeChar c ++ x :: rest) =
      (utf16 c).foldr Reading.cons (readUnits opening (x :: rest)) := by
  have hbound := toNat_range c
  by_cases hquote : c = '"'
  · subst hquote
    rfl
  by_cases hslash : c = '\\'
  · subst hslash
    rfl
  by_cases hline : c = '\n'
  · subst hline
    rfl
  by_cases hreturn : c = '\r'
  · subst hreturn
    rfl
  by_cases htab : c = '\t'
  · subst htab
    rfl
  by_cases hback : c.toNat = 8
  · obtain rfl : c = Char.ofNat 8 := by rw [← hback, Char.ofNat_toNat]
    rfl
  by_cases hfeed : c.toNat = 12
  · obtain rfl : c = Char.ofNat 12 := by rw [← hfeed, Char.ofNat_toNat]
    rfl
  simp only [escapeChar, if_neg hquote, if_neg hslash, if_neg hline, if_neg hreturn, if_neg htab,
    if_neg hback, if_neg hfeed]
  by_cases hprintable : 0x20 ≤ c.toNat ∧ c.toNat < 0x7F
  · rw [if_pos hprintable, utf16, if_pos (by omega)]
    exact readUnits_plain opening x rest hquote hslash hprintable.1
  rw [if_neg hprintable]
  by_cases hplane : c.toNat < 0x10000
  · rw [if_pos hplane, utf16, if_pos hplane]
    exact readUnits_unitEscape opening x rest hplane
  · -- The first of the two escapes is followed by the second, which is no empty text.
    rw [if_neg hplane, utf16, if_neg hplane, List.append_assoc]
    show readUnits opening (unitEscape (0xD800 + (c.toNat - 0x10000) / 0x400) ++
      '\\' :: ('u' :: Text.hexDigits 4 (0xDC00 + (c.toNat - 0x10000) % 0x400) ++ x :: rest)) = _
    rw [readUnits_unitEscape _ _ _ (by omega)]
    show Reading.cons _ (readUnits opening
      (unitEscape (0xDC00 + (c.toNat - 0x10000) % 0x400) ++ x :: rest)) = _
    rw [readUnits_unitEscape _ _ _ (by omega)]
    rfl

theorem readUnits_escaped (cs : List Char) :
    readUnits opening (cs.flatMap escapeChar ++ '"' :: rest) = .ok (cs.flatMap utf16, rest) := by
  have hcons : ∀ units more : List Nat,
      units.foldr Reading.cons (.ok (more, rest)) = .ok (units ++ more, rest) := by
    intro units more
    induction units with
    | nil => rfl
    | cons n units ih => rw [List.foldr_cons, ih, Reading.cons, List.cons_append]
  induction cs with
  | nil => rfl
  | cons c cs ih =>
      obtain ⟨x, tail, htail⟩ : ∃ x tail, cs.flatMap escapeChar ++ '"' :: rest = x :: tail :=
        List.exists_cons_of_ne_nil (by simp)
      rw [List.flatMap_cons, List.append_assoc, htail, readUnits_escapeChar, ← htail, ih, hcons,
        List.flatMap_cons]

/-- **A string reads back from its text.** -/
theorem readString_renderString (s : String) :
    ∃ tail, renderString s ++ rest = '"' :: tail ∧
      ∀ opening, readString opening tail = .ok (s, rest) := by
  refine ⟨s.toList.flatMap escapeChar ++ '"' :: rest, by simp [renderString], fun opening => ?_⟩
  rw [readString, readUnits_escaped]
  simp only [joinUnits_flatMap, String.ofList_toList]

end Strings

/-! ### Words and numbers -/

section Scalars

variable {rest : List Char}

theorem ne_of_isDigit {d c : Char} (hd : d.isDigit = true) (hc : c.isDigit = false) : d ≠ c := by
  intro heq
  rw [← heq, hd] at hc
  exact absurd hc (by decide)

/-- No number begins like a word. -/
theorem readWord?_signed (negative : Bool) {d : Char} (hd : d.isDigit = true) (tail : List Char) :
    readWord? (signed negative (d :: tail)) = none := by
  have hother : ∀ c : Char, c.isDigit = false → (c == d) = false := by
    intro c hc
    exact beq_eq_false_iff_ne.mpr (ne_of_isDigit hd hc).symm
  have hwords : ∀ entry ∈ wordValues, entry.1.isPrefixOf (signed negative (d :: tail)) = false := by
    intro entry hentry
    simp only [wordValues, List.mem_cons, List.not_mem_nil, or_false] at hentry
    cases negative <;> rcases hentry with rfl | rfl | rfl | rfl | rfl | rfl <;>
      simp [signed, List.isPrefixOf, hother]
  rw [readWord?, List.findSome?_eq_none_iff]
  intro entry hentry
  simp [hwords entry hentry]

/-- A text that opens no string, list or object is a word or a number. -/
theorem readValue_scalar {fuel : Nat} {c : Char} {tail : List Char} (hquote : c ≠ '"')
    (hbracket : c ≠ '[') (hbrace : c ≠ '{') :
    readValue (fuel + 1) (c :: tail) =
      match readWord? (c :: tail) with
      | some taken => .ok taken
      | none => readNumber (c :: tail) := by
  unfold readValue
  split
  · next heq => exact absurd (List.cons.inj heq).1 hquote
  · next heq => exact absurd (List.cons.inj heq).1 hbracket
  · next heq => exact absurd (List.cons.inj heq).1 hbrace
  · rfl

theorem readValue_signed {fuel : Nat} (negative : Bool) {d : Char} {tail : List Char}
    (hd : d.isDigit = true) :
    readValue (fuel + 1) (signed negative (d :: tail)) =
      readNumber (signed negative (d :: tail)) := by
  have hword := readWord?_signed negative hd tail
  cases negative with
  | true =>
      rw [signed, if_pos rfl] at hword ⊢
      rw [readValue_scalar (by decide) (by decide) (by decide), hword]
  | false =>
      rw [signed, if_neg (by decide)] at hword ⊢
      rw [readValue_scalar (ne_of_isDigit hd rfl) (ne_of_isDigit hd rfl) (ne_of_isDigit hd rfl),
        hword]

/-- The text of an integer is a row of digits with a sign. -/
theorem exists_intText (n : Int) :
    ∃ negative d tail, d.isDigit = true ∧ intText n = signed negative (d :: tail) := by
  obtain ⟨d, tail, hdigits⟩ := List.exists_cons_of_ne_nil (@Nat.toDigits_ne_nil n.natAbs 10)
  refine ⟨decide (n < 0), d, tail, toDigits_isDigit n.natAbs d (by simp [hdigits]), ?_⟩
  rw [← hdigits]
  by_cases h : n < 0 <;> simp [intText, signed, h]

/-- So is the text of a magnitude. -/
theorem exists_magnitudeText (m : Magnitude) :
    ∃ d tail, d.isDigit = true ∧ m.text = d :: tail := by
  obtain ⟨n, htext, -⟩ := exists_numeral m
  obtain ⟨d, ds, hd, -, hcons⟩ := n.exists_text []
  rw [List.append_nil] at hcons
  exact ⟨d, _, hd, htext.trans hcons⟩

end Scalars

/-! ### Values -/

/-- The values that come back when their text is read. -/
inductive Writable : Value → Prop
  | null : Writable .null
  | bool (b : Bool) : Writable (.bool b)
  /-- An integer that has too many digits is refused. -/
  | int {n : Int} (short : (Nat.toDigits 10 n.natAbs).length ≤ digitLimit) : Writable (.int n)
  | float (x : Double) : Writable (.float x)
  | str (s : String) : Writable (.str s)
  | arr {items : List Value} (each : ∀ item ∈ items, Writable item) : Writable (.arr items)
  /-- Of two members with one name a single one is left. -/
  | obj {members : List (String × Value)} (distinct : (Fields.names members).Nodup)
      (each : ∀ member ∈ members, Writable member.2) : Writable (.obj members)

/-- With as much fuel as its text asks for, the value is read off the front of a text, and what
follows it is handed on. -/
def Returns (v : Value) : Prop :=
  ∀ fuel rest, 2 * (renderChars v).length ≤ fuel → Ends rest →
    readValue fuel (renderChars v ++ rest) = .ok (v, rest)

section Values

variable {fuel : Nat} {rest : List Char}

/-- The text of a value begins with none of the characters that stand between values. -/
theorem exists_renderChars (v : Value) :
    ∃ c tail, renderChars v = c :: tail ∧ isSpace c = false ∧ c ≠ ']' ∧ c ≠ Char.ofNat 0xFEFF := by
  have hsigned : ∀ (negative : Bool) (d : Char) (tail : List Char), d.isDigit = true →
      ∃ c rest, signed negative (d :: tail) = c :: rest ∧ isSpace c = false ∧ c ≠ ']' ∧
        c ≠ Char.ofNat 0xFEFF := by
    intro negative d tail hd
    cases negative with
    | true => exact ⟨'-', d :: tail, rfl, by decide, by decide, by decide⟩
    | false =>
        refine ⟨d, tail, rfl, ?_, ne_of_isDigit hd rfl, ne_of_isDigit hd (by decide)⟩
        simp only [isSpace, Bool.or_eq_false_iff, beq_eq_false_iff_ne]
        exact ⟨⟨⟨ne_of_isDigit hd rfl, ne_of_isDigit hd rfl⟩, ne_of_isDigit hd rfl⟩,
          ne_of_isDigit hd rfl⟩
  cases v with
  | null => exact ⟨_, _, rfl, by decide, by decide, by decide⟩
  | bool b => cases b <;> exact ⟨_, _, rfl, by decide, by decide, by decide⟩
  | int n =>
      obtain ⟨negative, d, tail, hd, htext⟩ := exists_intText n
      rw [renderChars, htext]
      exact hsigned negative d tail hd
  | float x =>
      cases x with
      | nan => exact ⟨_, _, rfl, by decide, by decide, by decide⟩
      | infinite negative => cases negative <;> exact ⟨_, _, rfl, by decide, by decide, by decide⟩
      | finite negative m =>
          obtain ⟨d, tail, hd, htext⟩ := exists_magnitudeText m
          show ∃ c tail, signed negative m.text = c :: tail ∧ _
          rw [htext]
          exact hsigned negative d tail hd
  | str s => exact ⟨_, _, rfl, by decide, by decide, by decide⟩
  | arr items => cases items <;> exact ⟨_, _, rfl, by decide, by decide, by decide⟩
  | obj members => cases members <;> exact ⟨_, _, rfl, by decide, by decide, by decide⟩

theorem skip_renderChars (v : Value) (rest : List Char) :
    skip (renderChars v ++ rest) = renderChars v ++ rest := by
  obtain ⟨c, tail, htext, hspace, -⟩ := exists_renderChars v
  rw [htext, List.cons_append, skip, List.dropWhile_cons_of_neg (by simp [hspace])]

theorem skip_renderString (s : String) (rest : List Char) :
    skip (renderString s ++ rest) = renderString s ++ rest := rfl

theorem skip_cons {c : Char} (hspace : isSpace c = false) (tail : List Char) :
    skip (c :: tail) = c :: tail := by
  rw [skip, List.dropWhile_cons_of_neg (by simp [hspace])]

/-- Behind a comma or a colon there is a blank. -/
theorem skip_blank_renderChars (v : Value) (rest : List Char) :
    skip (' ' :: (renderChars v ++ rest)) = renderChars v ++ rest :=
  skip_renderChars v rest

theorem skip_blank_renderString (s : String) (rest : List Char) :
    skip (' ' :: (renderString s ++ rest)) = renderString s ++ rest := rfl

/-- What follows an element or a member begins with a comma or closes the value. -/
theorem ends_cons {c : Char} (h : c = ',' ∨ c = ']' ∨ c = '}') (tail : List Char) :
    Ends (c :: tail) := by
  intro d hd
  obtain rfl : c = d := by simpa using hd
  exact h

theorem renderChars_pos (v : Value) : 0 < (renderChars v).length := by
  obtain ⟨c, tail, htext, -⟩ := exists_renderChars v
  rw [htext, List.length_cons]
  exact Nat.succ_pos _

/-- With enough fuel for the text there is fuel for a step. -/
theorem exists_fuel (v : Value) (h : 2 * (renderChars v).length ≤ fuel) :
    ∃ left, fuel = left + 1 ∧ 2 * (renderChars v).length ≤ left + 1 := by
  have hpos := renderChars_pos v
  exact ⟨fuel - 1, by omega, by omega⟩

/-- What is written as a word is read as that word. -/
theorem returns_word {v : Value} {c : Char} {word : List Char} (htext : renderChars v = c :: word)
    (hopens : c ≠ '"' ∧ c ≠ '[' ∧ c ≠ '{')
    (hword : ∀ rest, readWord? (c :: word ++ rest) = some (v, rest)) : Returns v := by
  intro fuel rest hfuel _
  obtain ⟨left, rfl, -⟩ := exists_fuel v hfuel
  rw [htext, List.cons_append, readValue_scalar hopens.1 hopens.2.1 hopens.2.2,
    ← List.cons_append, hword]

/-- What is written as a number is read as that number. -/
theorem returns_number {v : Value} {negative : Bool} {d : Char} {ds : List Char}
    (htext : renderChars v = signed negative (d :: ds)) (hd : d.isDigit = true)
    (hnumber : ∀ rest, Ends rest → readNumber (renderChars v ++ rest) = .ok (v, rest)) :
    Returns v := by
  intro fuel rest hfuel hrest
  obtain ⟨left, rfl, -⟩ := exists_fuel v hfuel
  have hread := hnumber rest hrest
  rw [htext, signed_append, List.cons_append] at hread ⊢
  rw [readValue_signed negative hd, hread]

theorem returns_float (x : Double) : Returns (.float x) := by
  cases x with
  | nan => exact returns_word rfl (by decide) fun _ => rfl
  | infinite negative => cases negative <;> exact returns_word rfl (by decide) fun _ => rfl
  | finite negative m =>
      obtain ⟨d, tail, hd, htext⟩ := exists_magnitudeText m
      have hsigned : renderChars (.float (.finite negative m)) = signed negative (d :: tail) := by
        rw [← htext]
        rfl
      refine returns_number hsigned hd fun rest hrest => ?_
      exact readNumber_finite jsonSpelling negative m hrest

theorem returns_int {n : Int} (hshort : (Nat.toDigits 10 n.natAbs).length ≤ digitLimit) :
    Returns (.int n) := by
  obtain ⟨negative, d, tail, hd, htext⟩ := exists_intText n
  refine returns_number htext hd fun rest hrest => ?_
  exact readNumber_int n hshort hrest

theorem returns_str (s : String) : Returns (.str s) := by
  intro fuel rest hfuel _
  obtain ⟨left, rfl, -⟩ := exists_fuel _ hfuel
  obtain ⟨tail, htail, hread⟩ := readString_renderString rest s
  rw [renderChars, htail, readValue, hread]

/-! #### Lists -/

/-- The first element and the ones behind it are read up to the closing bracket. -/
theorem readItems_rendered {item : Value} {items : List Value} (hfirst : Returns item)
    (hitems : ∀ other ∈ items, Returns other) (rest : List Char)
    (hfuel : 2 * ((renderChars item).length + (renderItems items).length) + 1 ≤ fuel) :
    readItems fuel (renderChars item ++ (renderItems items ++ rest)) =
      .ok (item :: items, rest) := by
  induction items generalizing item fuel with
  | nil =>
      obtain ⟨left, rfl⟩ : ∃ left, fuel = left + 1 := ⟨fuel - 1, by omega⟩
      have hread := hfirst left (']' :: rest) (by omega) (ends_cons (by decide) rest)
      show readItems (left + 1) (renderChars item ++ ']' :: rest) = _
      rw [readItems, hread]
      rfl
  | cons next items ih =>
      have hlength : (renderItems (next :: items)).length =
          (renderChars next).length + (renderItems items).length + 2 := by
        simp [renderItems]
      obtain ⟨left, rfl⟩ : ∃ left, fuel = left + 1 := ⟨fuel - 1, by omega⟩
      have hcomma : renderItems (next :: items) ++ rest =
          ',' :: ' ' :: (renderChars next ++ (renderItems items ++ rest)) := by
        simp [renderItems]
      have hread := hfirst left (renderItems (next :: items) ++ rest) (by omega)
        (hcomma ▸ ends_cons (by decide) _)
      have hmore : readItems left (renderChars next ++ (renderItems items ++ rest)) =
          .ok (next :: items, rest) :=
        ih (hitems next (by simp)) (fun other h => hitems other (by simp [h])) (by omega)
      rw [readItems, hread, hcomma]
      simp only [skip_cons (show isSpace ',' = false by decide), skip_blank_renderChars, hmore]

theorem returns_arr {items : List Value} (hitems : ∀ item ∈ items, Returns item) :
    Returns (.arr items) := by
  intro fuel rest hfuel _
  obtain ⟨left, rfl, hleft⟩ := exists_fuel _ hfuel
  cases items with
  | nil => rfl
  | cons item items =>
      have hlength : (renderChars (.arr (item :: items))).length =
          (renderChars item).length + (renderItems items).length + 1 := by
        simp [renderChars]
      have htext : renderChars (.arr (item :: items)) ++ rest =
          '[' :: (renderChars item ++ (renderItems items ++ rest)) := by
        simp [renderChars]
      have hread : readItems left (renderChars item ++ (renderItems items ++ rest)) =
          .ok (item :: items, rest) :=
        readItems_rendered (hitems item (by simp)) (fun other h => hitems other (by simp [h])) rest
          (by omega)
      obtain ⟨c, tail, hopens, hspace, hclose, -⟩ := exists_renderChars item
      rw [htext, readValue, skip_renderChars]
      rw [hopens, List.cons_append] at hread ⊢
      split
      · next heq => exact absurd (List.cons.inj heq).1 hclose
      · rw [hread]

/-! #### Objects -/

/-- The first member and the ones behind it are read up to the closing brace. -/
theorem readMembers_rendered {name : String} {value : Value} {members : List (String × Value)}
    (hfirst : Returns value) (hmembers : ∀ other ∈ members, Returns other.2) (rest : List Char)
    (hfuel : 2 * ((renderChars value).length + (renderMembers members).length) + 1 ≤ fuel) :
    readMembers fuel
        (renderString name ++
          ':' :: ' ' :: (renderChars value ++ (renderMembers members ++ rest))) =
      .ok ((name, value) :: members, rest) := by
  induction members generalizing name value fuel with
  | nil =>
      obtain ⟨left, rfl⟩ : ∃ left, fuel = left + 1 := ⟨fuel - 1, by omega⟩
      have hread := hfirst left ('}' :: rest) (by omega) (ends_cons (by decide) rest)
      obtain ⟨tail, htail, hname⟩ := readString_renderString
        (':' :: ' ' :: (renderChars value ++ (renderMembers [] ++ rest))) name
      rw [htail, readMembers, hname]
      simp only [skip_cons (show isSpace ':' = false by decide), skip_blank_renderChars]
      have hclose : renderMembers [] ++ rest = '}' :: rest := rfl
      rw [hclose, hread]
      rfl
  | cons next members ih =>
      obtain ⟨other, more⟩ := next
      have hlength : (renderMembers ((other, more) :: members)).length =
          (renderString other).length + (renderChars more).length +
            (renderMembers members).length + 4 := by
        simp [renderMembers]
        omega
      obtain ⟨left, rfl⟩ : ∃ left, fuel = left + 1 := ⟨fuel - 1, by omega⟩
      have hcomma : renderMembers ((other, more) :: members) ++ rest =
          ',' :: ' ' :: (renderString other ++
            ':' :: ' ' :: (renderChars more ++ (renderMembers members ++ rest))) := by
        simp [renderMembers]
      have hread := hfirst left (renderMembers ((other, more) :: members) ++ rest) (by omega)
        (hcomma ▸ ends_cons (by decide) _)
      have hmore : readMembers left (renderString other ++
          ':' :: ' ' :: (renderChars more ++ (renderMembers members ++ rest))) =
          .ok ((other, more) :: members, rest) :=
        ih (hmembers (other, more) (by simp)) (fun entry h => hmembers entry (by simp [h]))
          (by omega)
      obtain ⟨tail, htail, hname⟩ := readString_renderString
        (':' :: ' ' :: (renderChars value ++ (renderMembers ((other, more) :: members) ++ rest)))
        name
      rw [htail, readMembers, hname]
      simp only [skip_cons (show isSpace ':' = false by decide), skip_blank_renderChars, hread]
      rw [hcomma]
      simp only [skip_cons (show isSpace ',' = false by decide), skip_blank_renderString, hmore]

theorem returns_obj {members : List (String × Value)} (hdistinct : (Fields.names members).Nodup)
    (hmembers : ∀ member ∈ members, Returns member.2) : Returns (.obj members) := by
  intro fuel rest hfuel _
  obtain ⟨left, rfl, hleft⟩ := exists_fuel _ hfuel
  cases members with
  | nil => rfl
  | cons first members =>
      obtain ⟨name, value⟩ := first
      have hlength : (renderChars (.obj ((name, value) :: members))).length =
          (renderString name).length + (renderChars value).length +
            (renderMembers members).length + 3 := by
        simp [renderChars]
        omega
      have htext : renderChars (.obj ((name, value) :: members)) ++ rest =
          '{' :: (renderString name ++
            ':' :: ' ' :: (renderChars value ++ (renderMembers members ++ rest))) := by
        simp [renderChars]
      have hvalue : Returns value := hmembers (name, value) (by simp)
      have hread : readMembers left (renderString name ++
          ':' :: ' ' :: (renderChars value ++ (renderMembers members ++ rest))) =
          .ok ((name, value) :: members, rest) :=
        readMembers_rendered hvalue (fun other h => hmembers other (by simp [h])) rest (by omega)
      rw [htext, readValue, skip_renderString]
      obtain ⟨tail, hopens⟩ : ∃ tail, renderString name ++
          ':' :: ' ' :: (renderChars value ++ (renderMembers members ++ rest)) = '"' :: tail :=
        ⟨_, rfl⟩
      rw [hopens] at hread ⊢
      split
      · next heq => exact absurd (List.cons.inj heq).1 (by decide)
      · rw [hread]
        simp only [Fields.ofPairs_of_nodup hdistinct]

/-- Every value that can be written comes back. -/
theorem Writable.returns {v : Value} (h : Writable v) : Returns v := by
  induction h with
  | null => exact returns_word rfl (by decide) fun _ => rfl
  | bool b => cases b <;> exact returns_word rfl (by decide) fun _ => rfl
  | int short => exact returns_int short
  | float x => exact returns_float x
  | str s => exact returns_str s
  | arr _ ih => exact returns_arr ih
  | obj distinct _ ih => exact returns_obj distinct ih

/-- **The text of a value reads as that value.** -/
theorem readChars_renderChars {v : Value} (h : Writable v) : readChars (renderChars v) = .ok v := by
  have hread := h.returns (2 * (renderChars v).length + 2) [] (by omega) Ends.nil
  have hskip := skip_renderChars v []
  obtain ⟨c, tail, htext, -, -, hmark⟩ := exists_renderChars v
  have hhead : (renderChars v).head? ≠ some (Char.ofNat 0xFEFF) := by
    rw [htext]
    simpa using hmark
  rw [List.append_nil] at hread hskip
  rw [readChars, if_neg hhead, hskip, hread]
  rfl

theorem read_render {v : Value} (h : Writable v) : read (render v) = .ok v := by
  rw [read, render, String.toList_ofList, readChars_renderChars h]
  rfl

end Values

end Json

end CommandBar
