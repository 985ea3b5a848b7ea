/-
Brackets, and splitting a text where none is open.

The depth of a text is how many more brackets it opens than it closes.  A text is
balanced if no front of it closes more than it opened, and all that was opened is
closed in the end.  What stands behind a front of depth zero is balanced again, and
so is what stands between a bracket and the one that closes it, so every part that
reading a template looks at is balanced.

Splitting at a separator looks at the depth of the front as well: a part is not split
further exactly if every separator in it has an open bracket before it.
-/
import CommandBar.Phrase.Template
import Mathlib.Data.List.Infix

namespace CommandBar

namespace Phrase

/-! ### Depth -/

/-- How many more brackets a text opens than it closes. -/
def depth (cs : List Char) : Int :=
  (cs.count '[' : Int) - cs.count ']'

theorem depth_nil : depth [] = 0 := rfl

theorem depth_append (front back : List Char) :
    depth (front ++ back) = depth front + depth back := by
  simp only [depth, List.count_append]
  omega

theorem depthAfter_eq (d : Int) (c : Char) : depthAfter d c = d + depth [c] := by
  unfold depthAfter depth
  by_cases hopen : c = '['
  · subst hopen
    rw [if_pos rfl]
    rfl
  · rw [if_neg hopen]
    by_cases hclose : c = ']'
    · subst hclose
      rw [if_pos rfl]
      rfl
    · rw [if_neg hclose, List.count_singleton, List.count_singleton]
      simp [hopen, hclose]

theorem depth_cons (c : Char) (cs : List Char) : depth (c :: cs) = depth [c] + depth cs :=
  depth_append [c] cs

/-- Whether the character is a bracket. -/
def IsBracket (c : Char) : Prop :=
  c = '[' ∨ c = ']'

theorem depth_eq_zero {cs : List Char} (h : ∀ c ∈ cs, ¬ IsBracket c) : depth cs = 0 := by
  have hopen : cs.count '[' = 0 := List.count_eq_zero.mpr fun hc => h _ hc (Or.inl rfl)
  have hclose : cs.count ']' = 0 := List.count_eq_zero.mpr fun hc => h _ hc (Or.inr rfl)
  rw [depth, hopen, hclose]
  rfl

/-! ### Balanced texts -/

/-- Every bracket has a partner. -/
structure Balanced (cs : List Char) : Prop where
  /-- No bracket is closed that is not open. -/
  opened : ∀ front, front <+: cs → 0 ≤ depth front
  /-- In the end none is open. -/
  closed : depth cs = 0

theorem balanced_iff_inits {cs : List Char} :
    (∀ front ∈ cs.inits, 0 ≤ depth front) ∧ depth cs = 0 ↔ Balanced cs := by
  simp only [List.mem_inits]
  constructor
  · rintro ⟨hopened, hclosed⟩
    exact ⟨hopened, hclosed⟩
  · rintro ⟨hopened, hclosed⟩
    exact ⟨hopened, hclosed⟩

instance (cs : List Char) : Decidable (Balanced cs) :=
  decidable_of_iff _ balanced_iff_inits

/-- A balanced text with a front of depth zero is two balanced texts. -/
theorem Balanced.of_append {front back : List Char} (h : Balanced (front ++ back))
    (hfront : depth front = 0) : Balanced front ∧ Balanced back := by
  have hback := h.closed
  rw [depth_append] at hback
  refine ⟨⟨?_, hfront⟩, ⟨?_, by omega⟩⟩
  · intro start hstart
    exact h.opened start (hstart.trans (List.prefix_append front back))
  · intro start hstart
    have hopened := h.opened (front ++ start) ((List.prefix_append_right_inj front).mpr hstart)
    rw [depth_append] at hopened
    omega

theorem Balanced.append {front back : List Char} (hfront : Balanced front) (hback : Balanced back) :
    Balanced (front ++ back) where
  opened := by
    rintro start ⟨tail, hsplit⟩
    rcases List.append_eq_append_iff.mp hsplit with ⟨middle, hstart, -⟩ | ⟨middle, hstart, htail⟩
    · exact hfront.opened start ⟨middle, hstart.symm⟩
    · have hopened := hback.opened middle ⟨tail, htail.symm⟩
      rw [hstart, depth_append, hfront.closed]
      omega
  closed := by
    rw [depth_append, hfront.closed, hback.closed]
    rfl

theorem balanced_of_no_bracket {cs : List Char} (h : ∀ c ∈ cs, ¬ IsBracket c) : Balanced cs where
  opened := by
    intro front hfront
    have hflat : depth front = 0 := depth_eq_zero fun c hc => h c (hfront.mem hc)
    exact Int.le_of_eq hflat.symm
  closed := depth_eq_zero h

/-- A group is balanced if what it holds is. -/
theorem Balanced.group {inner : List Char} (h : Balanced inner) :
    Balanced ('[' :: (inner ++ [']'])) where
  opened := by
    intro front hfront
    rcases List.prefix_cons_iff.mp hfront with rfl | ⟨start, rfl, hstart⟩
    · exact Int.le_of_eq depth_nil.symm
    · rw [depth_cons, show depth ['['] = 1 from rfl]
      rcases List.prefix_concat_iff.mp hstart with rfl | hstart
      · rw [depth_append, h.closed]
        decide
      · have hopened := h.opened start hstart
        omega
  closed := by
    rw [depth_cons, depth_append, h.closed]
    rfl

/-! ### Closing brackets -/

/-- A bracket that is closed somewhere is closed at the first place where its depth is reached. -/
theorem exists_closing (opened : Nat) {cs : List Char} (h : opened + 1 + depth cs ≤ 0) :
    ∃ inner after, cs = inner ++ ']' :: after ∧
      (∀ front, front <+: inner → 0 ≤ opened + depth front) ∧ opened + depth inner = 0 := by
  induction cs generalizing opened with
  | nil =>
      rw [depth_nil] at h
      omega
  | cons c cs ih =>
      rw [depth_cons] at h
      -- a bracket at depth zero is the one looked for, and any other character leaves the depth
      -- a natural number
      by_cases hclose : c = ']' ∧ opened = 0
      · obtain ⟨rfl, rfl⟩ := hclose
        refine ⟨[], cs, rfl, ?_, by rw [depth_nil]; rfl⟩
        intro front hfront
        rw [List.prefix_nil.mp hfront, depth_nil]
        decide
      · have hstep : 0 ≤ (opened : Int) + depth [c] := by
          rw [← depthAfter_eq, depthAfter]
          split
          · omega
          · split
            · next hc =>
                have hopened : opened ≠ 0 := fun hzero => hclose ⟨hc, hzero⟩
                omega
            · omega
        obtain ⟨opened', hopened'⟩ := Int.eq_ofNat_of_zero_le hstep
        obtain ⟨inner, after, rfl, hfronts, hclosed⟩ := ih opened' (by omega)
        refine ⟨c :: inner, after, rfl, ?_, by rw [depth_cons]; omega⟩
        intro front hfront
        rcases List.prefix_cons_iff.mp hfront with rfl | ⟨tail, rfl, htail⟩
        · rw [depth_nil]
          omega
        · have htail := hfronts tail htail
          rw [depth_cons]
          omega

/-- Reading on from inside a group finds that place. -/
theorem closeGroup?_append (opened : Nat) {inner : List Char} (after : List Char)
    (hfronts : ∀ front, front <+: inner → 0 ≤ opened + depth front)
    (hclosed : opened + depth inner = 0) :
    closeGroup? opened (inner ++ ']' :: after) = some (inner, after) := by
  induction inner generalizing opened with
  | nil =>
      rw [depth_nil] at hclosed
      obtain rfl : opened = 0 := by omega
      rfl
  | cons c inner ih =>
      have hstep := hfronts [c] (List.prefix_append [c] inner)
      rw [depth_cons] at hclosed
      have hnot : ¬ (c = ']' ∧ opened = 0) := by
        rintro ⟨rfl, rfl⟩
        exact absurd hstep (by decide)
      have hnext : ((if c = '[' then opened + 1 else if c = ']' then opened - 1 else opened : Nat) :
          Int) = opened + depth [c] := by
        rw [← depthAfter_eq, depthAfter]
        split
        · omega
        · split
          · next hc =>
              have hopened : opened ≠ 0 := fun hzero => hnot ⟨hc, hzero⟩
              omega
          · rfl
      have hinner : ∀ front, front <+: inner →
          0 ≤ ((if c = '[' then opened + 1 else if c = ']' then opened - 1 else opened : Nat) :
            Int) + depth front := by
        intro front hfront
        have hlonger := hfronts (c :: front) ((List.prefix_cons_inj c).mpr hfront)
        rw [depth_cons] at hlonger
        rw [hnext]
        omega
      rw [List.cons_append, closeGroup?, if_neg hnot]
      simp only [ih _ hinner (by rw [hnext]; omega), Option.map_some]

/-- **What a balanced text opens it closes**, with a balanced text inside and one behind. -/
theorem Balanced.closes {rest : List Char} (h : Balanced ('[' :: rest)) :
    ∃ inner after, rest = inner ++ ']' :: after ∧ Balanced inner ∧ Balanced after ∧
      closeGroup? 0 rest = some (inner, after) := by
  have hclosed := h.closed
  rw [depth_cons, show depth ['['] = 1 from rfl] at hclosed
  have hends : ((0 : Nat) : Int) + 1 + depth rest ≤ 0 := by omega
  obtain ⟨inner, after, rfl, hfronts, hinner⟩ := exists_closing 0 hends
  have hinside : Balanced inner := ⟨by simpa using hfronts, by simpa using hinner⟩
  have hgroup : depth ('[' :: (inner ++ [']'])) = 0 := by
    rw [depth_cons, depth_append, hinside.closed]
    rfl
  have hsplit : '[' :: (inner ++ ']' :: after) = '[' :: (inner ++ [']']) ++ after := by simp
  rw [hsplit] at h
  exact ⟨inner, after, rfl, hinside, (h.of_append hgroup).2,
    closeGroup?_append 0 after hfronts hinner⟩

/-! ### Pieces -/

section Pieces

variable {separates : Char → Bool}

/-- From this depth on, no separator of the text is met at depth zero. -/
def Unsplit (separates : Char → Bool) (d : Int) (cs : List Char) : Prop :=
  ∀ front c back, cs = front ++ c :: back → separates c = true → d + depth front ≠ 0

theorem unsplit_nil (d : Int) : Unsplit separates d [] := by
  intro front c back hsplit
  simp at hsplit

theorem unsplit_cons_iff {d : Int} {c : Char} {cs : List Char} :
    Unsplit separates d (c :: cs) ↔
      (separates c = true → d ≠ 0) ∧ Unsplit separates (d + depth [c]) cs := by
  constructor
  · intro h
    refine ⟨?_, ?_⟩
    · intro hc
      simpa [depth_nil] using h [] c cs rfl hc
    · intro front c' back hsplit hc'
      have hlonger := h (c :: front) c' back (by rw [hsplit]; rfl) hc'
      rw [depth_cons] at hlonger
      omega
  · rintro ⟨hfirst, hrest⟩ front c' back hsplit hc'
    cases front with
    | nil =>
        obtain ⟨rfl, -⟩ := List.cons.inj hsplit
        simpa [depth_nil] using hfirst hc'
    | cons b front =>
        obtain ⟨rfl, hcs⟩ := List.cons.inj hsplit
        have hlater := hrest front c' back hcs hc'
        rw [depth_cons]
        omega

theorem Unsplit.of_append {d : Int} {front back : List Char}
    (h : Unsplit separates d (front ++ back)) :
    Unsplit separates d front ∧ Unsplit separates (d + depth front) back := by
  induction front generalizing d with
  | nil =>
      refine ⟨unsplit_nil d, ?_⟩
      rwa [depth_nil, Int.add_zero]
  | cons c front ih =>
      obtain ⟨hfirst, hrest⟩ := unsplit_cons_iff.mp h
      obtain ⟨hfront, hback⟩ := ih hrest
      refine ⟨unsplit_cons_iff.mpr ⟨hfirst, hfront⟩, ?_⟩
      rwa [depth_cons, ← Int.add_assoc]

theorem Unsplit.append {d : Int} {front back : List Char} (hfront : Unsplit separates d front)
    (hback : Unsplit separates (d + depth front) back) : Unsplit separates d (front ++ back) := by
  induction front generalizing d with
  | nil => rwa [depth_nil, Int.add_zero] at hback
  | cons c front ih =>
      obtain ⟨hfirst, hrest⟩ := unsplit_cons_iff.mp hfront
      refine unsplit_cons_iff.mpr ⟨hfirst, ih hrest ?_⟩
      rwa [depth_cons, ← Int.add_assoc] at hback

theorem unsplit_of_no_separator {d : Int} {cs : List Char} (h : ∀ c ∈ cs, separates c = false) :
    Unsplit separates d cs := by
  intro front c back hsplit hc
  rw [h c (by simp [hsplit])] at hc
  exact absurd hc (by decide)

/-- Inside a group nothing is met at depth zero. -/
theorem unsplit_group (hseparates : ∀ c, separates c = true → ¬ IsBracket c) {inner : List Char}
    (h : Balanced inner) : Unsplit separates 0 ('[' :: (inner ++ [']'])) := by
  refine unsplit_cons_iff.mpr ⟨fun hc => absurd (Or.inl rfl) (hseparates '[' hc), ?_⟩
  intro front c back hsplit hc
  have hinside : front <+: inner := by
    have hfront : front <+: inner ++ [']'] := ⟨c :: back, hsplit.symm⟩
    rcases List.prefix_concat_iff.mp hfront with heq | hfront
    · rw [heq, List.append_assoc] at hsplit
      exact absurd (congrArg List.length hsplit) (by simp)
    · exact hfront
  have hopened := h.opened front hinside
  rw [show depth ['['] = 1 from rfl]
  omega

/-- A text is split nowhere, or at the first separator that is met at depth zero. -/
theorem exists_split (d : Int) (cs : List Char) :
    Unsplit separates d cs ∨ ∃ front c rest, cs = front ++ c :: rest ∧
      Unsplit separates d front ∧ d + depth front = 0 ∧ separates c = true := by
  induction cs generalizing d with
  | nil => exact Or.inl (unsplit_nil d)
  | cons c cs ih =>
      by_cases hsplit : separates c = true ∧ d = 0
      · refine Or.inr ⟨[], c, cs, rfl, unsplit_nil d, ?_, hsplit.1⟩
        rw [depth_nil, hsplit.2]
        rfl
      · have hfirst : separates c = true → d ≠ 0 := fun hc hd => hsplit ⟨hc, hd⟩
        rcases ih (d + depth [c]) with hrest | ⟨front, c', rest, rfl, hfront, hclosed, hc'⟩
        · exact Or.inl (unsplit_cons_iff.mpr ⟨hfirst, hrest⟩)
        · refine Or.inr ⟨c :: front, c', rest, rfl, unsplit_cons_iff.mpr ⟨hfirst, hfront⟩, ?_, hc'⟩
          rw [depth_cons, ← Int.add_assoc]
          exact hclosed

theorem pieces_ne_nil (d : Int) (cs : List Char) : pieces separates d cs ≠ [] := by
  cases cs with
  | nil => simp [pieces]
  | cons c cs =>
      rw [pieces]
      split
      · simp
      · split <;> simp

/-- Up to where a text is split it goes into the first piece. -/
theorem pieces_append (hseparates : ∀ c, separates c = true → ¬ IsBracket c) {d : Int}
    {front rest first : List Char} {others : List (List Char)} (hfront : Unsplit separates d front)
    (hrest : pieces separates (d + depth front) rest = first :: others) :
    pieces separates d (front ++ rest) = (front ++ first) :: others := by
  induction front generalizing d with
  | nil =>
      rw [depth_nil, Int.add_zero] at hrest
      exact hrest
  | cons c front ih =>
      obtain ⟨hfirst, hlater⟩ := unsplit_cons_iff.mp hfront
      rw [depth_cons, ← Int.add_assoc] at hrest
      have hnot : (separates c && d + depth [c] == 0) = false := by
        by_cases hc : separates c = true
        · have hflat : depth [c] = 0 := depth_eq_zero (by simpa using hseparates c hc)
          have hinside := hfirst hc
          rw [hflat, Int.add_zero]
          simpa [hc] using hinside
        · simp [hc]
      rw [List.cons_append, pieces]
      simp only [depthAfter_eq, ih hlater hrest, hnot]
      rfl

/-- At depth zero a separator is split at. -/
theorem pieces_cons_separator (hseparates : ∀ c, separates c = true → ¬ IsBracket c) {c : Char}
    (hc : separates c = true) (rest : List Char) :
    pieces separates 0 (c :: rest) = [] :: pieces separates 0 rest := by
  have hflat : depth [c] = 0 := depth_eq_zero (by simpa using hseparates c hc)
  obtain ⟨first, others, hrest⟩ := List.exists_cons_of_ne_nil (@pieces_ne_nil separates 0 rest)
  rw [pieces]
  simp only [depthAfter_eq, hflat, Int.add_zero, hrest, hc]
  rfl

/-- The pieces of a text, the separators between them being met at depth zero. -/
inductive Parts (separates : Char → Bool) : List Char → List (List Char) → Prop
  | last {cs : List Char} (unsplit : Unsplit separates 0 cs) : Parts separates cs [cs]
  | more {front : List Char} {c : Char} {rest : List Char} {texts : List (List Char)}
      (unsplit : Unsplit separates 0 front) (closed : depth front = 0) (mark : separates c = true)
      (parts : Parts separates rest texts) : Parts separates (front ++ c :: rest) (front :: texts)

/-- **Splitting finds these pieces.** -/
theorem parts_pieces (hseparates : ∀ c, separates c = true → ¬ IsBracket c) (cs : List Char) :
    Parts separates cs (pieces separates 0 cs) := by
  -- what is left behind a separator is shorter
  induction hlength : cs.length using Nat.strongRecOn generalizing cs with
  | ind n ih =>
      rcases exists_split 0 cs with hunsplit | ⟨front, c, rest, rfl, hfront, hclosed, hc⟩
      · have hpieces : pieces separates 0 (cs ++ []) = [cs ++ []] :=
          pieces_append hseparates hunsplit rfl
        rw [List.append_nil] at hpieces
        rw [hpieces]
        exact .last hunsplit
      · have hparts := ih rest.length (by simp at hlength; omega) rest rfl
        have hbehind : pieces separates (0 + depth front) (c :: rest) =
            [] :: pieces separates 0 rest := by
          rw [hclosed]
          exact pieces_cons_separator hseparates hc rest
        rw [pieces_append hseparates hfront hbehind, List.append_nil]
        rw [Int.zero_add] at hclosed
        exact .more hfront hclosed hc hparts

/-- What two texts have from the one that they make, if the first of them closes what it opens,
every piece has from the text that is split. -/
theorem Parts.forall (hseparates : ∀ c, separates c = true → ¬ IsBracket c)
    {kept : List Char → Prop}
    (hkept : ∀ front back, depth front = 0 → kept (front ++ back) → kept front ∧ kept back)
    {cs : List Char} {texts : List (List Char)} (h : Parts separates cs texts) (hcs : kept cs) :
    ∀ text ∈ texts, kept text := by
  induction h with
  | last unsplit => simpa using hcs
  | @more front c rest texts unsplit closed mark parts ih =>
      obtain ⟨hfront, hback⟩ := hkept front (c :: rest) closed hcs
      have hflat : depth [c] = 0 := depth_eq_zero (by simpa using hseparates c mark)
      have hrest : kept rest := (hkept [c] rest hflat hback).2
      simpa using ⟨hfront, ih hrest⟩

/-- A piece is not split further. -/
theorem Parts.unsplit {cs : List Char} {texts : List (List Char)} (h : Parts separates cs texts) :
    ∀ text ∈ texts, Unsplit separates 0 text := by
  induction h with
  | last unsplit => simpa using unsplit
  | more unsplit closed mark parts ih => simpa using ⟨unsplit, ih⟩

theorem Parts.length_le {cs : List Char} {texts : List (List Char)}
    (h : Parts separates cs texts) : ∀ text ∈ texts, text.length ≤ cs.length := by
  induction h with
  | last unsplit => simp
  | more unsplit closed mark parts ih =>
      simp only [List.mem_cons, List.length_append, List.length_cons, forall_eq_or_imp]
      refine ⟨by omega, ?_⟩
      intro text htext
      have hrest := ih text htext
      omega

end Pieces

end Phrase

end CommandBar
