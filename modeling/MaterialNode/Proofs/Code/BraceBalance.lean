import MaterialNode.Proofs.Code.EmittedLines
import MaterialNode.Proofs.Text.Braces

/-!
# Balanced Code

The emitted code opens a structure and in it the function `main`, and both are closed after the
template. What stands before, between and after these four braces is balanced by itself, and so are
the converted body and the template if the body and the template are. The body and the template
therefore stand within both braces, and the call of a pixel shader within none
(`isBalanced_convert`).
-/

namespace MaterialNode

open Text

/-- Whether no text of a texture, a constant buffer, an input or an output has a brace. -/
structure Declarations.HasNoBraces (declarations : Declarations) : Prop where
  /-- The texts of the textures have no brace. -/
  textures : ∀ texture ∈ declarations.textures, ∀ text ∈ (Declaration.texture texture).texts,
    Text.HasNoBraces text
  /-- The texts of the constant buffers have no brace. -/
  constantBuffers : ∀ buffer ∈ declarations.constantBuffers,
    ∀ text ∈ (Declaration.constantBuffer buffer).texts, Text.HasNoBraces text
  /-- The texts of the inputs have no brace. -/
  inputs : ∀ input ∈ declarations.inputs, ∀ text ∈ (Declaration.input input).texts,
    Text.HasNoBraces text
  /-- The texts of the outputs have no brace. -/
  outputs : ∀ output ∈ declarations.outputs, ∀ text ∈ (Declaration.output output).texts,
    Text.HasNoBraces text

/-! ## Constant Buffers -/

namespace ConstantBuffer

theorem hasNoBraces_header {buffer : ConstantBuffer}
    (hbuffer : ∀ text ∈ (Declaration.constantBuffer buffer).texts, HasNoBraces text) :
    HasNoBraces buffer.header := by
  have htype : HasNoBraces buffer.elementType := hbuffer _ (by simp [Declaration.texts])
  have hname : HasNoBraces buffer.name := hbuffer _ (by simp [Declaration.texts])
  unfold header
  simp only [hasNoBraces_append_iff, htype, hname, hasNoBraces_ofNat, and_true]
  decide

/-- The block of a buffer opens a brace and closes it. -/
theorem isBalanced_block {buffer : ConstantBuffer}
    (hbuffer : ∀ text ∈ (Declaration.constantBuffer buffer).texts, HasNoBraces text)
    (samples : Option SampleStore) : IsBalanced (joinLines (buffer.block samples)) := by
  -- The rows stand between the braces, and numbers are spelled without any.
  obtain ⟨rows, hrows, hblock⟩ : ∃ rows : List Text, (∀ row ∈ rows, HasNoBraces row)
      ∧ buffer.block samples
        = [buffer.header] ++ (["\x7b"] : List Text) ++ rows ++ (["\x7d;", ""] : List Text) := by
    refine ⟨_, ?_, rfl⟩
    intro row hrow
    rcases List.mem_append.1 hrow with hrow | hrow
    · obtain ⟨row, -, rfl⟩ := List.mem_map.1 hrow
      exact ⟨row.not_mem_write (by decide) (by decide), row.not_mem_write (by decide) (by decide)⟩
    · rw [List.eq_of_mem_replicate hrow]
      decide
  have hheader : IsBalanced (joinLines [buffer.header]) :=
    isBalanced_joinLines (List.forall_mem_singleton.2 (hasNoBraces_header hbuffer).isBalanced)
  have hrows : IsBalanced (joinLines rows) := isBalanced_joinLines fun row hrow =>
    (hrows row hrow).isBalanced
  have hopener : Moves 0 1 (joinLines ["\x7b"]) := by decide
  have hcloser : Moves (-1) (-1) (joinLines ["\x7d;", ""]) := by decide
  rw [hblock]
  have hopened := (hheader.joinLines_append hopener (by decide)).joinLines_append hrows (by decide)
  exact hopened.joinLines_append hcloser (by decide)

theorem isBalanced_blocks {buffers : List ConstantBuffer}
    (hbuffers : ∀ buffer ∈ buffers, ∀ text ∈ (Declaration.constantBuffer buffer).texts,
      HasNoBraces text)
    (samples : Option SampleStore) : IsBalanced (joinLines (blocks buffers samples)) := by
  induction buffers with
  | nil => exact isBalanced_joinLines (List.forall_mem_nil _)
  | cons buffer buffers ih =>
    obtain ⟨hbuffer, hbuffers⟩ := List.forall_mem_cons.1 hbuffers
    rw [blocks, List.flatMap_cons]
    exact (isBalanced_block hbuffer samples).joinLines_append (ih hbuffers) (by decide)

end ConstantBuffer

/-! ## Entry Points -/

namespace EntryPoint

theorem hasNoBraces_textureParameter {texture : Texture}
    (htexture : ∀ text ∈ (Declaration.texture texture).texts, HasNoBraces text) :
    HasNoBraces (textureParameter texture) := by
  have htype : HasNoBraces texture.elementType := htexture _ (by simp [Declaration.texts])
  have hname : HasNoBraces texture.name := htexture _ (by simp [Declaration.texts])
  unfold textureParameter
  simp only [hasNoBraces_append_iff, htype, hname, and_true]
  decide

/-- The default of an input opens as many braces as it closes. -/
theorem isBalanced_defaultLine {input : StageParameter} (shape : Shape)
    (hinput : ∀ text ∈ (Declaration.input input).texts, HasNoBraces text) :
    IsBalanced (defaultLine (input, shape)) := by
  have htype : HasNoBraces input.elementType := hinput _ (by simp [Declaration.texts])
  have hname : HasNoBraces input.name := hinput _ (by simp [Declaration.texts])
  have hstart : HasNoBraces ("static " ++ input.elementType ++ " " ++ input.name ++ " = ") := by
    simp only [hasNoBraces_append_iff, htype, hname, and_true]
    decide
  have hones : IsBalanced shape.ones := by cases shape <;> decide
  have hend : IsBalanced ";" := by decide
  exact (hstart.isBalanced.append hones).append hend

theorem hasNoBraces_scaleLine {input : StageParameter} (shape : Shape)
    (hinput : ∀ text ∈ (Declaration.input input).texts, HasNoBraces text) :
    HasNoBraces (scaleLine (input, shape)) := by
  have hname : HasNoBraces input.name := hinput _ (by simp [Declaration.texts])
  have hshape : HasNoBraces shape.components ∧ HasNoBraces shape.coordinateComponents := by
    cases shape <;> decide
  unfold scaleLine
  simp only [hasNoBraces_append_iff, hname, hshape, and_true]
  decide

theorem hasNoBraces_outputField {output : StageParameter}
    (houtput : ∀ text ∈ (Declaration.output output).texts, HasNoBraces text) :
    HasNoBraces (outputField output) := by
  have htype : HasNoBraces output.elementType := houtput _ (by simp [Declaration.texts])
  have hname : HasNoBraces output.name := houtput _ (by simp [Declaration.texts])
  unfold outputField
  simp only [hasNoBraces_append_iff, htype, hname, true_and]
  decide

theorem hasNoBraces_of_mem_inputParameters {inputs : List StageParameter} {line : Text}
    (hinputs : ∀ input ∈ inputs, ∀ text ∈ (Declaration.input input).texts, HasNoBraces text)
    (h : line ∈ inputParameters inputs) : HasNoBraces line := by
  induction inputs with
  | nil => cases h
  | cons input inputs ih =>
    obtain ⟨hinput, hinputs⟩ := List.forall_mem_cons.1 hinputs
    rcases List.mem_cons.1 h with rfl | h
    · have htype : HasNoBraces input.elementType := hinput _ (by simp [Declaration.texts])
      have hname : HasNoBraces input.name := hinput _ (by simp [Declaration.texts])
      have hsemantic : HasNoBraces input.semantic := hinput _ (by simp [Declaration.texts])
      have hmark : HasNoBraces (if inputs.isEmpty then ")" else "," : String) := by
        split <;> decide
      simp only [hasNoBraces_append_iff, htype, hname, hsemantic, hmark, and_true]
      decide
    · exact ih hinputs h

end EntryPoint

theorem Closing.hasNoBraces_callLine {textures : List Texture}
    (htextures : ∀ texture ∈ textures, ∀ text ∈ (Declaration.texture texture).texts,
      HasNoBraces text) : HasNoBraces (callLine textures) := by
  have hargument : ∀ texture ∈ textures, HasNoBraces (textureArgument texture) := by
    intro texture htexture
    have hname : HasNoBraces texture.name :=
      htextures texture htexture _ (by simp [Declaration.texts])
    exact hasNoBraces_append_iff.2 ⟨hname, by decide⟩
  have harguments : HasNoBraces (textures.flatMap textureArgument) := by
    constructor
    all_goals
      intro hmem
      obtain ⟨texture, htexture, hbrace⟩ := List.mem_flatMap.1 hmem
    · exact (hargument texture htexture).1 hbrace
    · exact (hargument texture htexture).2 hbrace
  -- All that is left of the call are fixed words.
  unfold callLine
  simp only [hasNoBraces_append_iff, harguments, and_true]
  decide

/-! ## Bodies -/

/-- A rewritten sample instruction has no braces that were not there. -/
theorem SampleInstruction.hasNoBraces_render {line : Text} (h : HasNoBraces line)
    (slots : SlotSet) : HasNoBraces ((ofLine line).render slots) := by
  unfold render
  simp only [hasNoBraces_append_iff, h.of_subset (target_subset line),
    h.of_subset (coordinate_subset line), h.of_subset (suffix_subset line), hasNoBraces_ofInt,
    and_true, true_and]
  decide

namespace Body

/-- A converted line ends at the same depth, since the masked return closes what it opens. -/
theorem keepsDepth_convertLine {line : Text}
    (hsample : ShaderLine.isSample line = true → HasNoBraces line) (slots : SlotSet) :
    KeepsDepth line (convertLine slots line) := by
  unfold convertLine
  split
  · rename_i hline
    exact .of_hasNoBraces (hsample hline)
      (SampleInstruction.hasNoBraces_render (hsample hline) slots).isBalanced
  · split
    · have hreplaces : ReplacesAll ShaderLine.discardWord ShaderLine.maskedReturn line
          (maskDiscards line) := (replacesAll_iff (by decide)).2 rfl
      exact hreplaces.keepsDepth (by decide) (by decide)
    · exact .refl line

theorem isBalanced_joinLines_convert {lines : List Text} (textures : List Texture)
    (hbody : IsBalanced (joinLines (window lines)))
    (hsamples : ∀ line ∈ window lines, ShaderLine.isSample line = true → HasNoBraces line) :
    IsBalanced (joinLines (convert lines textures)) := by
  refine KeepsDepth.isBalanced (KeepsDepth.joinLines_map fun line hline => ?_) hbody
  exact keepsDepth_convertLine (hsamples line hline) _

end Body

/-! ## Wrappers -/

/-- What the emitted code puts around the body and the template. -/
structure Wrapper where
  /-- The lines before the structure. -/
  outer : List Text
  /-- The lines of the structure before the opening brace of `main`. -/
  signature : List Text
  /-- The lines of `main` before the body. -/
  setup : List Text
  /-- The lines after the structure. -/
  call : List Text

namespace Wrapper

/-- The lines before the body. Two braces are left open in them. -/
def opening (wrapper : Wrapper) : List Text :=
  wrapper.outer ++ [EntryPoint.wrapperOpener] ++ wrapper.signature ++ (["\x7b"] : List Text)
    ++ wrapper.setup

/-- The lines after the template. They close both braces. -/
def closing (wrapper : Wrapper) : List Text := (["\x7d", "\x7d;"] : List Text) ++ wrapper.call

/-- Whether the parts of a wrapper between its own braces are balanced. -/
structure IsBalanced (wrapper : Wrapper) : Prop where
  /-- The lines before the structure are balanced. -/
  outer : Text.IsBalanced (joinLines wrapper.outer)
  /-- The lines before the brace of `main` are balanced. -/
  signature : Text.IsBalanced (joinLines wrapper.signature)
  /-- The lines before the body are balanced. -/
  setup : Text.IsBalanced (joinLines wrapper.setup)
  /-- The lines after the structure are balanced. -/
  call : Text.IsBalanced (joinLines wrapper.call)

variable {wrapper : Wrapper} {inner : List Text}

namespace IsBalanced

theorem moves_opening (h : wrapper.IsBalanced) : Moves 0 2 (joinLines wrapper.opening) := by
  have hstructure : Moves 0 1 (joinLines [EntryPoint.wrapperOpener]) := by decide
  have hmain : Moves 0 1 (joinLines ["\x7b"]) := by decide
  have hsignature := (h.outer.joinLines_append hstructure (by decide)).joinLines_append h.signature
    (by decide)
  exact (hsignature.joinLines_append hmain (by decide)).joinLines_append h.setup (by decide)

theorem moves_closing (h : wrapper.IsBalanced) : Moves (-2) (-2) (joinLines wrapper.closing) := by
  have hbraces : Moves (-2) (-2) (joinLines ["\x7d", "\x7d;"]) := by decide
  exact hbraces.joinLines_append h.call (by decide)

/-- A wrapper closes what it opens. -/
theorem joinLines_append (h : wrapper.IsBalanced) (hinner : Text.IsBalanced (joinLines inner)) :
    Text.IsBalanced (joinLines (wrapper.opening ++ inner ++ wrapper.closing)) :=
  (h.moves_opening.joinLines_append hinner (by decide)).joinLines_append h.moves_closing (by decide)

/-- What is wrapped stands within both braces. -/
theorem two_le_depth (h : wrapper.IsBalanced) (hinner : Text.IsBalanced (joinLines inner))
    {before after : List Text} (hsplit : inner = before ++ after) :
    2 ≤ depth (joinLines (wrapper.opening ++ before)) := by
  rw [hsplit, Text.joinLines_append] at hinner
  -- The lines before the split are a start of a balanced text, so they do not lead back out.
  have hbefore := (staysAbove_append_iff.1 hinner.staysAbove).1.le_depth
  rw [Text.joinLines_append, depth_append, h.moves_opening.depth_eq]
  omega

end IsBalanced

/-- The wrapper of a shader. -/
def ofDeclarations (stage : Stage) (samples : Option SampleStore) (declarations : Declarations) :
    Wrapper :=
  let blocks := ConstantBuffer.blocks declarations.constantBuffers samples
  let textures := declarations.textures.map EntryPoint.textureParameter
  match stage with
  | .pixel =>
    let inputs := EntryPoint.shapedInputs declarations.inputs
    { outer := blocks ++ (inputs.map EntryPoint.defaultLine ++ [EntryPoint.comparisonMacro])
      signature := (["FMaterialAttributes main("] : List Text) ++ textures
        ++ ["   float2 " ++ EntryPoint.coordinate ++ ")"]
      setup := (["  FMaterialAttributes output;", "  float4 o0,o1,o2;"] : List Text)
        ++ inputs.map EntryPoint.scaleLine
      call := ["shader s;", Closing.callLine declarations.textures] }
  | .vertex =>
    { outer := blocks ++ [EntryPoint.comparisonMacro]
      signature := declarations.outputs.map EntryPoint.outputField
        ++ (["", "void main("] : List Text) ++ textures
        ++ EntryPoint.inputParameters declarations.inputs
        ++ ((if declarations.inputs.isEmpty then [")"] else []) : List Text)
      setup := []
      call := [] }

/-! The parts of a wrapper are balanced if the declared texts have no braces. -/

section Parts

variable {declarations : Declarations} (h : declarations.HasNoBraces) (samples : Option SampleStore)
include h

theorem hasNoBraces_textureParameters :
    ∀ line ∈ declarations.textures.map EntryPoint.textureParameter, HasNoBraces line := by
  intro line hline
  obtain ⟨texture, htexture, rfl⟩ := List.mem_map.1 hline
  exact EntryPoint.hasNoBraces_textureParameter (h.textures texture htexture)

theorem isBalanced_ofDeclarations_pixel :
    (ofDeclarations .pixel samples declarations).IsBalanced where
  outer := by
    have hblocks := ConstantBuffer.isBalanced_blocks h.constantBuffers samples
    refine hblocks.joinLines_append (isBalanced_joinLines fun line hline => ?_) (by decide)
    -- Only the defaults have braces, each as many opening as closing ones.
    rcases List.mem_append.1 hline with hline | hline
    · obtain ⟨⟨input, shape⟩, hinput, rfl⟩ := List.mem_map.1 hline
      exact EntryPoint.isBalanced_defaultLine shape
        (h.inputs input (EntryPoint.mem_of_mem_shapedInputs hinput))
    · obtain rfl := List.mem_singleton.1 hline
      decide
  signature := by
    have hmain : Text.IsBalanced (joinLines ["FMaterialAttributes main("]) := by decide
    have hcoordinate : Text.IsBalanced
        (joinLines ["   float2 " ++ EntryPoint.coordinate ++ ")"]) := by decide
    have hparameters := isBalanced_joinLines fun line hline =>
      (hasNoBraces_textureParameters h line hline).isBalanced
    exact (hmain.joinLines_append hparameters (by decide)).joinLines_append hcoordinate (by decide)
  setup := by
    have hfixed : Text.IsBalanced
        (joinLines ["  FMaterialAttributes output;", "  float4 o0,o1,o2;"]) := by decide
    refine hfixed.joinLines_append (isBalanced_joinLines fun line hline => ?_) (by decide)
    obtain ⟨⟨input, shape⟩, hinput, rfl⟩ := List.mem_map.1 hline
    exact (EntryPoint.hasNoBraces_scaleLine shape
      (h.inputs input (EntryPoint.mem_of_mem_shapedInputs hinput))).isBalanced
  call := by
    refine isBalanced_joinLines (List.forall_mem_cons.2 ⟨by decide, ?_⟩)
    exact List.forall_mem_singleton.2 (Closing.hasNoBraces_callLine h.textures).isBalanced

theorem isBalanced_ofDeclarations_vertex :
    (ofDeclarations .vertex samples declarations).IsBalanced where
  outer := by
    have hblocks := ConstantBuffer.isBalanced_blocks h.constantBuffers samples
    have hmacro : Text.IsBalanced (joinLines [EntryPoint.comparisonMacro]) := by decide
    exact hblocks.joinLines_append hmacro (by decide)
  signature := by
    refine isBalanced_joinLines fun line hline => HasNoBraces.isBalanced ?_
    simp only [ofDeclarations, List.mem_append] at hline
    -- The parts of the signature: outputs, fixed lines, textures, inputs and the default.
    rcases hline with (((hline | hline) | hline) | hline) | hline
    · obtain ⟨output, houtput, rfl⟩ := List.mem_map.1 hline
      exact EntryPoint.hasNoBraces_outputField (h.outputs output houtput)
    · revert line
      decide
    · exact hasNoBraces_textureParameters h line hline
    · exact EntryPoint.hasNoBraces_of_mem_inputParameters h.inputs hline
    · split at hline
      · revert line
        decide
      · cases hline
  setup := isBalanced_joinLines (List.forall_mem_nil _)
  call := isBalanced_joinLines (List.forall_mem_nil _)

theorem isBalanced_ofDeclarations (stage : Stage) :
    (ofDeclarations stage samples declarations).IsBalanced := by
  cases stage with
  | pixel => exact isBalanced_ofDeclarations_pixel h samples
  | vertex => exact isBalanced_ofDeclarations_vertex h samples

end Parts

end Wrapper

/-! ## Programs -/

namespace Program

/-- The lines between the opening and the closing of the wrapper: the converted body and the
template. -/
def wrappedLines (lines : List Text) (textures : List Texture) (template : List Text) : List Text :=
  Body.convert lines textures ++ template.map (Closing.indent ++ ·)

/-- A conversion emits the body and the template in a wrapper. -/
theorem outputLines_convert_eq_wrapper (source : Text) (stage : Stage)
    (samples : Option SampleStore) (template : List Text) :
    let declarations := Declarations.ofLines (Text.sourceLines source)
    let wrapper := Wrapper.ofDeclarations stage samples declarations
    (convert source stage samples template).outputLines
      = wrapper.opening ++ wrappedLines (Text.sourceLines source) declarations.textures template
        ++ wrapper.closing := by
  intro declarations wrapper
  rw [outputLines_convert]
  cases stage <;>
    simp [wrapper, declarations, Wrapper.opening, Wrapper.closing, Wrapper.ofDeclarations,
      wrappedLines, EntryPoint.lines, EntryPoint.pixelLines, EntryPoint.vertexLines, Closing.lines]

/-- What a conversion wraps is balanced if the body and the template are. -/
theorem isBalanced_wrappedLines {lines : List Text} (textures : List Texture)
    {template : List Text} (hbody : IsBalanced (joinLines (Body.window lines)))
    (hsamples : ∀ line ∈ Body.window lines, ShaderLine.isSample line = true → HasNoBraces line)
    (htemplate : IsBalanced (joinLines template)) :
    IsBalanced (joinLines (wrappedLines lines textures template)) := by
  -- The margin of the template lines has no braces.
  have hindented : ∀ line ∈ template, KeepsDepth line (Closing.indent ++ line) := by
    intro line _
    have hindent : KeepsDepth [] Closing.indent := .of_hasNoBraces (by decide) (by decide)
    exact hindent.append (.refl line)
  exact (Body.isBalanced_joinLines_convert textures hbody hsamples).joinLines_append
    ((KeepsDepth.joinLines_map hindented).isBalanced htemplate) (by decide)

/-- If the declared texts and the sample instructions of the body have no braces, and if the body
and the template are balanced, then so is the code, which is the emitted lines joined. The lines
before the body leave two braces open, that of the structure and that of `main`, so each line of the
converted body and of the template starts at depth two or deeper. The code of a pixel shader ends
with the call, at depth zero. -/
theorem isBalanced_convert {source : Text} (stage : Stage) (samples : Option SampleStore)
    {template : List Text}
    (hdeclarations : (Declarations.ofLines (Text.sourceLines source)).HasNoBraces)
    (hsamples : ∀ line ∈ Body.window (Text.sourceLines source),
      ShaderLine.isSample line = true → HasNoBraces line)
    (hbody : IsBalanced (joinLines (Body.window (Text.sourceLines source))))
    (htemplate : IsBalanced (joinLines template)) :
    let program := convert source stage samples template
    let textures := program.declarations.textures
    let wrapper := Wrapper.ofDeclarations stage samples program.declarations
    let inner := Body.convert (Text.sourceLines source) textures
      ++ template.map (Closing.indent ++ ·)
    program.contents = some (joinLines program.outputLines)
      ∧ IsBalanced (joinLines program.outputLines)
      ∧ wrapper.IsBalanced
      ∧ program.outputLines = wrapper.opening ++ inner ++ wrapper.closing
      ∧ (∀ before line after, inner = before ++ line :: after →
          2 ≤ depth (joinLines (wrapper.opening ++ before)))
      ∧ (stage = .pixel → ∃ before,
          program.outputLines = before ++ [Closing.callLine textures]
            ∧ depth (joinLines before) = 0 ∧ HasNoBraces (Closing.callLine textures)) := by
  intro program textures wrapper inner
  have hwrapper : wrapper.IsBalanced :=
    Wrapper.isBalanced_ofDeclarations hdeclarations samples stage
  have hinner : IsBalanced (joinLines inner) :=
    isBalanced_wrappedLines textures hbody hsamples htemplate
  have houtput : program.outputLines = wrapper.opening ++ inner ++ wrapper.closing :=
    outputLines_convert_eq_wrapper source stage samples template
  refine ⟨rfl, ?_, hwrapper, houtput, ?_, ?_⟩
  · rw [houtput]
    exact hwrapper.joinLines_append hinner
  · intro before line after hsplit
    exact hwrapper.two_le_depth hinner hsplit
  · rintro rfl
    refine ⟨wrapper.opening ++ inner ++ (["\x7d", "\x7d;", "shader s;"] : List Text), ?_, ?_,
      Closing.hasNoBraces_callLine hdeclarations.textures⟩
    · rw [houtput, List.append_assoc (wrapper.opening ++ inner)]
      rfl
    · -- Two braces are open before the body, and two are closed after the template.
      have hclosers : depth (joinLines ["\x7d", "\x7d;", "shader s;"]) = -2 := by decide
      rw [joinLines_append, joinLines_append, depth_append, depth_append,
        hwrapper.moves_opening.depth_eq, hinner.depth_eq, hclosers]
      rfl

/-- A shader with a constant buffer, an input of several components and a braced `discard`. -/
def bracedDiscard : Text := joinWith ['\n'] ["// ps_5_0", "cbuffer cb0 : register(b0)", "\x7b",
  "  float4 cb0[2];", "\x7d", "Texture2D<float4> t0 : register(t0);", "  float4 v0 : TEXCOORD0,",
  "  float4 r0,r1;", "  r0 = t0.Sample(s1_s, v0.xy).xyzw;", "  \x7b discard; discard; \x7d",
  "  return;"]

/-- A template with a block. -/
def blockTemplate : List Text := ["if (o0.w > 0) \x7b", "output.Opacity = o0.w;", "\x7d",
  "return output;"]

theorem declarations_bracedDiscard : Declarations.ofLines (Text.sourceLines bracedDiscard)
    = ⟨[⟨"Texture2D", "float4", "t0", 0⟩], [⟨"cb0", "float4", 2, 0⟩],
      [⟨"v0", "float4", 0, "TEXCOORD0"⟩], [], SlotSet.empty, true, [⟨4, "\x7d"⟩]⟩ := by
  decide +kernel

theorem window_bracedDiscard : Body.window (Text.sourceLines bracedDiscard)
    = (["  float4 r0,r1;", "  r0 = t0.Sample(s1_s, v0.xy).xyzw;",
      "  \x7b discard; discard; \x7d"] : List Text) := by
  decide +kernel

/-- The code of this shader is balanced, and its call stands at depth zero. -/
theorem isBalanced_convert_bracedDiscard :
    let program := convert bracedDiscard .pixel none blockTemplate
    IsBalanced (joinLines program.outputLines)
      ∧ ∃ before, program.outputLines = before ++ [("return s.main(t0,tx);" : Text)]
        ∧ depth (joinLines before) = 0 := by
  have hdeclarations : (Declarations.ofLines (Text.sourceLines bracedDiscard)).HasNoBraces := by
    rw [declarations_bracedDiscard]
    exact ⟨by decide, by decide, by decide, by decide⟩
  have hsamples : ∀ line ∈ Body.window (Text.sourceLines bracedDiscard),
      ShaderLine.isSample line = true → HasNoBraces line := by
    rw [window_bracedDiscard]
    decide
  have hbody : IsBalanced (joinLines (Body.window (Text.sourceLines bracedDiscard))) := by
    rw [window_bracedDiscard]
    decide +kernel
  have htemplate : IsBalanced (joinLines blockTemplate) := by decide +kernel
  obtain ⟨-, hcode, -, -, -, hcall⟩ :=
    isBalanced_convert .pixel none hdeclarations hsamples hbody htemplate
  obtain ⟨before, houtput, hdepth, -⟩ := hcall rfl
  have hline : Closing.callLine (Declarations.ofLines (Text.sourceLines bracedDiscard)).textures
      = "return s.main(t0,tx);" := by
    rw [declarations_bracedDiscard]
    decide
  refine ⟨hcode, before, ?_, hdepth⟩
  rw [← hline]
  exact houtput

end Program

end MaterialNode
