/-
The input of a tool call on its way to the pipeline.

A model that calls the tool sends an object, the pipeline wants the text of one: so
the object is rendered, the text is unfenced like any other, and what is left is
read.  Nothing gets lost.  The text of an object stands between braces, so there is
no fence to take from it whatever its strings hold, and text that was rendered reads
as what it was rendered from.

A call without any input, which the service never sends, ends the search: one behind
the call that counts does no harm, one before it makes the oracle fail.
-/
import CommandBar.Oracle.Response
import CommandBar.Proofs.Fence
import CommandBar.Proofs.Rendering
import CommandBar.Reply.Payload

namespace CommandBar

open Json

/-! ### The text of an object -/

theorem Json.renderMembers_getLast? (members : List (String × Value)) :
    (renderMembers members).getLast? = some '}' := by
  induction members with
  | nil => rfl
  | cons member members ih =>
      obtain ⟨name, value⟩ := member
      rw [renderMembers, List.getLast?_append, ih]
      rfl

theorem Json.renderChars_obj_braced (members : List (String × Value)) :
    Reply.Braced (renderChars (.obj members)) := by
  cases members with
  | nil => exact ⟨rfl, rfl⟩
  | cons member members =>
      obtain ⟨name, value⟩ := member
      refine ⟨rfl, ?_⟩
      rw [renderChars, List.getLast?_append, renderMembers_getLast?]
      rfl

/-- The text of an object is the payload of a reply. -/
theorem Reply.payload_render {members : Fields Value} (h : Writable (.obj members)) :
    payload (render (.obj members)) = .ok members := by
  have hbare : unfenceChars (renderChars (.obj members)) = renderChars (.obj members) :=
    (renderChars_obj_braced members).bare.unfenceChars_eq
  have hkept : unfence (render (.obj members)) = render (.obj members) := by
    rw [unfence, render, String.toList_ofList, hbare]
  rw [payload, hkept, decode, read_render h]

namespace Oracle

namespace Response

/-- Behind these blocks stands the first call of the tool that has an object for its input. -/
structure FirstCall (r : Response) (before after : List Block) (input : Fields Value) : Prop where
  content : r.content = before ++ .toolUse (some (.obj input)) :: after
  first : ∀ other, .toolUse (some (.obj other)) ∉ before

variable {r : Response} {before after : List Block} {input : Fields Value}

/-- The blocks before the first call do not matter, if every call has an input. -/
theorem FirstCall.reply_eq (h : r.FirstCall before after input)
    (hinputs : .toolUse none ∉ before) : r.reply = .sent (.str (render (.obj input))) := by
  have hskipped : before.findSome? (Block.call? r.blockKind) = none := by
    rw [List.findSome?_eq_none_iff]
    intro block hblock
    unfold Block.call?
    split
    · next other => exact absurd hblock (h.first other)
    · exact absurd hblock hinputs
    · rfl
  have hfound : r.content.findSome? (Block.call? r.blockKind) =
      some (.sent (.str (render (.obj input)))) := by
    rw [h.content, List.findSome?_append, hskipped]
    rfl
  have hcontent : r.content ≠ [] := by simp [h.content]
  rw [reply, if_neg hcontent, hfound]

/-- A call without an input is where the search ends. -/
theorem FirstCall.reply_lacks (h : r.FirstCall before after input)
    (hbare : .toolUse none ∈ before) : r.reply = Block.lacks r.blockKind "input" := by
  have hfound : r.content.findSome? (Block.call? r.blockKind) =
      some (Block.lacks r.blockKind "input") := by
    rw [h.content, List.findSome?_append]
    obtain ⟨found, hfound⟩ : ∃ found, before.findSome? (Block.call? r.blockKind) = some found := by
      rw [← Option.isSome_iff_exists, List.findSome?_isSome_iff]
      exact ⟨_, hbare, rfl⟩
    obtain ⟨block, hblock, hcall⟩ := List.exists_of_findSome?_eq_some hfound
    have hlacks : found = Block.lacks r.blockKind "input" := by
      unfold Block.call? at hcall
      split at hcall
      · next other => exact absurd hblock (h.first other)
      · exact (Option.some.inj hcall).symm
      · simp at hcall
    rw [hfound, hlacks]
    rfl
  have hcontent : r.content ≠ [] := by simp [h.content]
  rw [reply, if_neg hcontent, hfound]

/-- **The input of the first call arrives as it was sent**, whatever stands around the call: the
same names in the same order at every level, the same texts, numbers of the same kind.  The
calls before it only have to have an input, of whatever kind; if one has none, the oracle
fails. -/
theorem FirstCall.arrives (h : r.FirstCall before after input) (hinput : Writable (.obj input)) :
    (.toolUse none ∉ before →
      ∃ raw, r.reply = .sent (.str raw) ∧ Reply.payload raw = .ok input) ∧
    (.toolUse none ∈ before → r.reply = Block.lacks r.blockKind "input") := by
  constructor
  · intro hinputs
    exact ⟨_, h.reply_eq hinputs, Reply.payload_render hinput⟩
  · intro hbare
    exact h.reply_lacks hbare

/-- An input with fences, quotes, a line break and a character beyond the basic plane in its
texts, and numbers of both kinds. -/
def fencedInput : Fields Value := [
  ("```", .str "\"```\\\n```"), ("😀", .arr [.float (.infinite true), .float .nan, .int (-7)]),
  ("action", .obj [("float", .float (.finite true .nothing)), ("int", .int 0)])]

theorem FirstCall.arrives_fenced :
    ∃ raw, (Response.mk [.text none, .toolUse (some (.str "noop")),
        .toolUse (some (.obj fencedInput)), .toolUse none] .null "Block").reply =
          .sent (.str raw) ∧
      Reply.payload raw = .ok fencedInput := by
  have hfirst : (Response.mk [.text none, .toolUse (some (.str "noop")),
      .toolUse (some (.obj fencedInput)), .toolUse none] .null "Block").FirstCall
        [.text none, .toolUse (some (.str "noop"))] [.toolUse none] fencedInput :=
    ⟨rfl, by simp⟩
  have hinput : Writable (.obj fencedInput) := by
    refine .obj (by decide) ?_
    intro member hmember
    simp only [fencedInput, List.mem_cons, List.not_mem_nil, or_false] at hmember
    rcases hmember with rfl | rfl | rfl
    · exact .str _
    · refine .arr ?_
      simp only [List.forall_mem_cons]
      exact ⟨.float _, .float _, .int (by decide), by simp⟩
    · refine .obj (by decide) ?_
      simp only [List.forall_mem_cons]
      exact ⟨.float _, .int (by decide), by simp⟩
  exact (FirstCall.arrives hfirst hinput).1 (by simp)

end Response

end Oracle

end CommandBar
