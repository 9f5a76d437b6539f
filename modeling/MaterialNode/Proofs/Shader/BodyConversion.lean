import Mathlib.Data.List.Forall2
import MaterialNode.Proofs.Shader.SampleLine
import MaterialNode.Proofs.SlotRank
import MaterialNode.Proofs.Text.Replace

/-!
# Converting Instructions

The body of a shader is converted one instruction at a time: a sample reads the binding of its
texture, which counts the smaller declared slots, and in every other line each `discard` masks
the fragment.
-/

namespace MaterialNode

open Text

/-! ## The Window -/

namespace Body

variable {header following : List Text} {marker opener : Text}

/-- The body starts at the first line that opens it. -/
theorem start?_append (hheader : ∀ line ∈ header, ShaderLine.opensBody line = false)
    (hopener : ShaderLine.opensBody opener = true) (marker : Text) (following : List Text) :
    start? (marker :: (header ++ opener :: following)) = some (header.length + 1) := by
  have hfind : (header ++ opener :: following).findIdx? ShaderLine.opensBody
      = some header.length := by
    rw [List.findIdx?_append, List.findIdx?_eq_none_iff.2 hheader, List.findIdx?_cons,
      if_pos hopener]
    simp
  rw [start?, List.drop_succ_cons, List.drop_zero, hfind]
  rfl

/-- The window is what the opening line starts, up to the first return. -/
theorem window_append (hheader : ∀ line ∈ header, ShaderLine.opensBody line = false)
    (hopener : ShaderLine.opensBody opener = true) (marker : Text) (following : List Text) :
    window (marker :: (header ++ opener :: following))
      = (opener :: following).takeWhile fun line => !ShaderLine.isReturn line := by
  rw [window, start?_append hheader hopener]
  simp

end Body

/-! ## Instructions -/

/-- A line of a shader's body. -/
inductive BodyInstruction where
  /-- A sample instruction. -/
  | sample (call : WrittenSample)
  /-- Any line that samples no texture. -/
  | other (line : Text)
  deriving DecidableEq

namespace BodyInstruction

/-- The line of an instruction. -/
def line : BodyInstruction → Text
  | .sample call => call.line
  | .other line => line

/-- A sample instruction is well formed, and another line does not hold the keyword of one. -/
def IsWellFormed : BodyInstruction → Prop
  | .sample call => call.IsWellFormed
  | .other line => ¬ ("Sample" : Text) <:+: line

/-- The binding of a texture slot: the number of distinct smaller slots among the declared ones,
or -1 if the slot is not declared. -/
def bindingOf (textures : List Texture) (slot : Nat) : Int :=
  if slot ∈ textures.map (·.slot) then
    {other ∈ (textures.map (·.slot)).toFinset | other < slot}.card
  else -1

/-- `instruction.IsConverted textures emitted` holds if the emitted line is what the instruction
is converted to: a sample reads the binding of its texture, and another line is kept but for
every `discard`, which becomes the masked return. -/
def IsConverted (textures : List Texture) : BodyInstruction → Text → Prop
  | .sample call, emitted =>
    emitted = call.boundLine (bindingOf textures (digitsValue call.texture))
  | .other line, emitted =>
    ReplacesAll "discard" "\x7b output.OpacityMask = 0; return output; \x7d" line emitted

variable {instruction : BodyInstruction}

/-- An instruction is converted by the conversion of its line. -/
theorem isConverted_convertLine (h : instruction.IsWellFormed) (textures : List Texture) :
    instruction.IsConverted textures
      (Body.convertLine (Body.boundSlots textures) instruction.line) := by
  cases instruction with
  | sample call =>
    rw [IsConverted, line, Body.convertLine, if_pos call.isSample_line, call.bindSample_line h,
      Body.boundSlots, SlotSet.rank?_ofList, bindingOf]
    split <;> rfl
  | other line =>
    -- Without a `discard` nothing is replaced, with or without looking for one.
    have hsample : ShaderLine.isSample line = false := has_eq_false_iff.2 h
    rw [IsConverted, BodyInstruction.line, Body.convertLine, hsample, if_neg (by decide)]
    by_cases hdiscard : ShaderLine.isDiscard line = true
    · rw [if_pos hdiscard]
      exact (replacesAll_iff (by decide)).2 rfl
    · rw [if_neg hdiscard]
      refine .keep ?_
      rwa [ShaderLine.isDiscard, has_iff_infix] at hdiscard

/-- The lines from the one that opens the body up to the first return are converted one by one,
and nothing else is emitted. -/
theorem forall₂_convert {header following : List Text} {opener : Text}
    {instructions : List BodyInstruction}
    (hheader : ∀ line ∈ header, ¬ ("r0,r1" : Text) <:+: line)
    (hopener : ("r0,r1" : Text) <:+: opener)
    (hlines : (opener :: following).takeWhile (fun line => !ShaderLine.isReturn line)
      = instructions.map line)
    (hformed : ∀ instruction ∈ instructions, instruction.IsWellFormed)
    (marker : Text) (textures : List Texture) :
    List.Forall₂ (fun instruction emitted => instruction.IsConverted textures emitted)
      instructions (Body.convert (marker :: (header ++ opener :: following)) textures) := by
  have hclosed : ∀ line ∈ header, ShaderLine.opensBody line = false := fun line hline =>
    has_eq_false_iff.2 (hheader line hline)
  have hopens : ShaderLine.opensBody opener = true := by
    rwa [ShaderLine.opensBody, has_iff_infix]
  have hwindow : Body.window (marker :: (header ++ opener :: following))
      = instructions.map line := by
    rw [Body.window_append hclosed hopens, hlines]
  -- Both lists are images of the instructions, so they are compared one by one.
  rw [Body.convert, hwindow, List.map_map, List.forall₂_map_right_iff, List.forall₂_same]
  intro instruction hmem
  exact isConverted_convertLine (hformed instruction hmem) textures

/-- Instructions of each kind. -/
def typicalBody : List BodyInstruction := [
  other "  float4 r0,r1;",
  sample ⟨"  r0.xyzw ", "5", "1", "v0.xy", "xyzw;"⟩,
  other "  if (r0.w < 0.5) discard;"]

/-- A body with instructions of each kind is converted. -/
theorem forall₂_convert_typicalBody :
    List.Forall₂
      (fun instruction emitted => instruction.IsConverted
        [⟨"Texture2D", "float4", "t5", 5⟩, ⟨"Texture2D", "float4", "t2", 2⟩] emitted)
      typicalBody
      (Body.convert
        ["// ps_5_0", "void main(", "  float4 r0,r1;", "  r0.xyzw = t5.Sample(s1_s, v0.xy).xyzw;",
          "  if (r0.w < 0.5) discard;", "  return;"]
        [⟨"Texture2D", "float4", "t5", 5⟩, ⟨"Texture2D", "float4", "t2", 2⟩]) := by
  have hformed : ∀ instruction ∈ typicalBody, instruction.IsWellFormed := by
    intro instruction hmem
    simp only [typicalBody, List.mem_cons, List.not_mem_nil, or_false] at hmem
    rcases hmem with rfl | rfl | rfl
    · rw [IsWellFormed]
      decide
    · constructor <;> decide
    · rw [IsWellFormed]
      decide
  exact @forall₂_convert ["void main("] ["  r0.xyzw = t5.Sample(s1_s, v0.xy).xyzw;",
    "  if (r0.w < 0.5) discard;", "  return;"] "  float4 r0,r1;" typicalBody (by decide) (by decide)
    (by decide) hformed "// ps_5_0" _

end BodyInstruction

end MaterialNode
