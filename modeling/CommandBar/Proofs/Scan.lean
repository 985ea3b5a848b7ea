/-
Scanning JSON text.

A scan follows a text character by character and remembers only whether it stands
inside a string.  A rendered value takes a scan from outside strings to outside
strings, whatever stands before or behind it.  Two scans of one text that begin on
different sides of a quote stay on different sides, since every quote changes both
and no backslash stands outside strings.  So a text that closes for one of them does
not close for the other, and that is how it can be told whether what looks like a
part of some JSON text is one.
-/
import CommandBar.Proofs.Rendering

namespace CommandBar

open Json

/-! ### The scan -/

/-- Where a scan of JSON text stands: outside strings, inside one, or behind a backslash in one. -/
inductive Place
  | outside
  | inside
  | escaped
deriving DecidableEq

namespace Place

/-- One character on, unless the character cannot stand there.  A `g` is in none of the words that
stand outside strings. -/
def next : Place → Char → Option Place
  | .outside, c =>
    if c = '"' then some .inside
    else if c = '\\' ∨ c = 'g' ∨ c = '\n' then none
    else some .outside
  | .inside, c =>
    if c = '"' then some .outside
    else if c = '\\' then some .escaped
    else if c = '\n' then none
    else some .inside
  | .escaped, c => if c = '\n' then none else some .inside

/-- The place behind a text. -/
def follow (p : Place) (cs : List Char) : Option Place :=
  cs.foldlM next p

variable {p q : Place} {cs ds : List Char}

theorem follow_cons (p : Place) (c : Char) (cs : List Char) :
    p.follow (c :: cs) = (p.next c).bind fun q => q.follow cs :=
  List.foldlM_cons

theorem follow_append (p : Place) (cs ds : List Char) :
    p.follow (cs ++ ds) = (p.follow cs).bind fun q => q.follow ds :=
  List.foldlM_append

theorem follow_append_of (h : p.follow cs = some q) : p.follow (cs ++ ds) = q.follow ds := by
  rw [follow_append, h, Option.bind_some]

/-- No line break has been met. -/
theorem not_mem_newline (h : p.follow cs = some q) : '\n' ∉ cs := by
  induction cs generalizing p with
  | nil => simp
  | cons c cs ih =>
      rw [follow_cons] at h
      obtain ⟨r, hr, h⟩ := Option.bind_eq_some_iff.mp h
      have hc : c ≠ '\n' := by
        rintro rfl
        cases p <;> simp [next] at hr
      rw [List.mem_cons, not_or]
      exact ⟨Ne.symm hc, ih h⟩

/-- Two scans, of which one is outside strings where the other is inside, stay so. -/
theorem follow_opposite {p' q' : Place} (hpq : p = .outside ∧ q = .inside ∨
      p = .inside ∧ q = .outside) (hp : p.follow cs = some p') (hq : q.follow cs = some q') :
    p' = .outside ∧ q' = .inside ∨ p' = .inside ∧ q' = .outside := by
  induction cs generalizing p q with
  | nil =>
      obtain rfl : p = p' := by simpa [follow] using hp
      obtain rfl : q = q' := by simpa [follow] using hq
      exact hpq
  | cons c cs ih =>
      rw [follow_cons] at hp hq
      obtain ⟨p₁, hp₁, hp⟩ := Option.bind_eq_some_iff.mp hp
      obtain ⟨q₁, hq₁, hq⟩ := Option.bind_eq_some_iff.mp hq
      refine ih ?_ hp hq
      -- a quote changes both, and a backslash is not met outside strings
      have hstep : ∀ {a b : Place}, Place.outside.next c = some a → Place.inside.next c = some b →
          a = .inside ∧ b = .outside ∨ a = .outside ∧ b = .inside := by
        intro a b ha hb
        by_cases hquote : c = '"'
        · simp only [next, if_pos hquote, Option.some.injEq] at ha hb
          exact Or.inl ⟨ha.symm, hb.symm⟩
        · simp only [next, if_neg hquote] at ha hb
          split at ha
          · simp at ha
          · next hmet =>
              simp only [not_or] at hmet
              simp only [if_neg hmet.1, if_neg hmet.2.2, Option.some.injEq] at ha hb
              exact Or.inr ⟨ha.symm, hb.symm⟩
      rcases hpq with ⟨rfl, rfl⟩ | ⟨rfl, rfl⟩
      · exact (hstep hp₁ hq₁).symm
      · rcases hstep hq₁ hp₁ with ⟨hq, hp⟩ | ⟨hq, hp⟩
        · exact Or.inl ⟨hp, hq⟩
        · exact Or.inr ⟨hp, hq⟩

/-! ### The scan of a rendered value -/

/-- Between strings most characters change nothing. -/
theorem follow_between {c : Char} (h : c ≠ '"' ∧ c ≠ '\\' ∧ c ≠ 'g' ∧ c ≠ '\n') (cs : List Char) :
    Place.outside.follow (c :: cs) = Place.outside.follow cs := by
  have hnext : Place.outside.next c = some .outside := by
    simp [next, h]
  rw [follow_cons, hnext, Option.bind_some]

theorem follow_inside (h : ∀ c ∈ cs, c ≠ '"' ∧ c ≠ '\\' ∧ c ≠ '\n') :
    Place.inside.follow cs = some .inside := by
  induction cs with
  | nil => rfl
  | cons c cs ih =>
      rw [List.forall_mem_cons] at h
      obtain ⟨⟨hquote, hslash, hline⟩, hrest⟩ := h
      have hnext : Place.inside.next c = some .inside := by
        simp [next, hquote, hslash, hline]
      rw [follow_cons, hnext, Option.bind_some, ih hrest]

theorem follow_numeric (h : Numeric cs) : Place.outside.follow cs = some .outside := by
  have hbetween : ∀ c ∈ cs, c ≠ '"' ∧ c ≠ '\\' ∧ c ≠ 'g' ∧ c ≠ '\n' := by
    refine h.forall_mem (fun c hdigit => ?_) (by decide)
    exact ⟨ne_of_isDigit hdigit (by decide), ne_of_isDigit hdigit (by decide),
      ne_of_isDigit hdigit (by decide), ne_of_isDigit hdigit (by decide)⟩
  clear h
  induction cs with
  | nil => rfl
  | cons c cs ih =>
      rw [List.forall_mem_cons] at hbetween
      rw [follow_between hbetween.1, ih hbetween.2]

theorem hexDigits_plain (width n : Nat) :
    ∀ c ∈ Text.hexDigits width n, c ≠ '"' ∧ c ≠ '\\' ∧ c ≠ '\n' := by
  have hdigit : ∀ v < 16,
      Text.hexDigit v ≠ '"' ∧ Text.hexDigit v ≠ '\\' ∧ Text.hexDigit v ≠ '\n' := by decide
  induction width generalizing n with
  | zero => simp [Text.hexDigits]
  | succ width ih =>
      refine List.forall_mem_append.mpr ⟨ih _, List.forall_mem_singleton.mpr ?_⟩
      exact hdigit _ (Nat.mod_lt _ (by decide))

theorem follow_unitEscape (n : Nat) : Place.inside.follow (unitEscape n) = some .inside := by
  show Place.inside.follow (['\\', 'u'] ++ Text.hexDigits 4 n) = _
  rw [follow_append_of (q := .inside) (by decide), follow_inside (hexDigits_plain 4 n)]

/-- The escape of a character stays in the string. -/
theorem follow_escapeChar (c : Char) : Place.inside.follow (escapeChar c) = some .inside := by
  by_cases hquote : c = '"'
  · subst hquote
    decide
  by_cases hslash : c = '\\'
  · subst hslash
    decide
  by_cases hline : c = '\n'
  · subst hline
    decide
  simp only [escapeChar, if_neg hquote, if_neg hslash, if_neg hline]
  split
  · decide
  split
  · decide
  split
  · decide
  split
  · decide
  split
  · exact follow_inside (List.forall_mem_singleton.mpr ⟨hquote, hslash, hline⟩)
  split
  · exact follow_unitEscape _
  · rw [follow_append_of (follow_unitEscape _), follow_unitEscape]

theorem follow_renderString (s : String) :
    Place.outside.follow (renderString s) = some .outside := by
  have hinside : ∀ cs : List Char, Place.inside.follow (cs.flatMap escapeChar) = some .inside := by
    intro cs
    induction cs with
    | nil => rfl
    | cons c cs ih => rw [List.flatMap_cons, follow_append_of (follow_escapeChar c), ih]
  show Place.outside.follow (['"'] ++ (s.toList.flatMap escapeChar ++ ['"'])) = _
  rw [follow_append_of (q := .inside) (by decide), follow_append_of (hinside _)]
  rfl

mutual

/-- The scan of a rendered value ends outside strings. -/
theorem follow_renderChars : ∀ v : Value, Place.outside.follow (renderChars v) = some .outside
  | .null => by decide
  | .bool true => by decide
  | .bool false => by decide
  | .int n => follow_numeric (numeric_intText n)
  | .float .nan => by decide
  | .float (.infinite true) => by decide
  | .float (.infinite false) => by decide
  | .float (.finite negative m) => follow_numeric (numeric_finite jsonSpelling negative m)
  | .str s => follow_renderString s
  | .arr [] => by decide
  | .arr (item :: items) => by
    simp only [renderChars, List.cons_append]
    rw [follow_between (by decide), follow_append_of (follow_renderChars item),
      follow_renderItems items]
  | .obj [] => by decide
  | .obj ((name, value) :: members) => by
    simp only [renderChars, List.cons_append, List.append_assoc]
    rw [follow_between (by decide), follow_append_of (follow_renderString name),
      follow_between (by decide), follow_between (by decide),
      follow_append_of (follow_renderChars value), follow_renderMembers members]

theorem follow_renderItems : ∀ items : List Value,
    Place.outside.follow (renderItems items) = some .outside
  | [] => by decide
  | item :: items => by
    simp only [renderItems, List.cons_append]
    rw [follow_between (by decide), follow_between (by decide),
      follow_append_of (follow_renderChars item), follow_renderItems items]

theorem follow_renderMembers : ∀ members : List (String × Value),
    Place.outside.follow (renderMembers members) = some .outside
  | [] => by decide
  | (name, value) :: members => by
    simp only [renderMembers, List.cons_append, List.append_assoc]
    rw [follow_between (by decide), follow_between (by decide),
      follow_append_of (follow_renderString name), follow_between (by decide),
      follow_between (by decide), follow_append_of (follow_renderChars value),
      follow_renderMembers members]

end

end Place

end CommandBar
