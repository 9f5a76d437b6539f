import MaterialNode.Shader.Declaration

/-!
# Inspection Reports

An inspection report lists what a shader's header declares and which of its lines were
skipped. Sections open with an unindented line, and their entries are indented by two
spaces.
-/

namespace MaterialNode.Declarations

/-- The line that opens a section with the given number of entries. -/
def sectionLine (title : Text) (count : Nat) : Text := title ++ " (" ++ Text.ofNat count ++ "):"

/-- The entry of a texture. -/
def textureEntry (texture : Texture) : Text :=
  "  " ++ texture.name ++ " " ++ texture.dimension ++ "<" ++ texture.elementType ++ "> slot "
    ++ Text.ofNat texture.slot

/-- The line of the sampler slots. -/
def samplerLine (samplers : SlotSet) : Text :=
  "Sampler slots: [" ++ Text.joinWith ", " (samplers.slots.map Text.ofNat) ++ "]"

/-- The entry of a constant buffer. -/
def bufferEntry (buffer : ConstantBuffer) : Text :=
  "  " ++ buffer.name ++ " " ++ buffer.elementType ++ "[" ++ Text.ofNat buffer.count ++ "] slot "
    ++ Text.ofNat buffer.slot

/-- The entry of a stage input or output. -/
def parameterEntry (parameter : StageParameter) : Text :=
  "  " ++ parameter.name ++ " " ++ parameter.elementType ++ " : " ++ parameter.semantic

/-- The entry of a skipped line, with its index in a column of four. -/
def skippedEntry (line : SkippedLine) : Text :=
  "  " ++ Text.padLeft 4 (Text.ofNat line.index) ++ ": " ++ line.text

/-- The lines of the report. -/
def reportLines (declarations : Declarations) : List Text :=
  sectionLine "Textures" declarations.textures.length :: declarations.textures.map textureEntry
    ++ [samplerLine declarations.samplers]
    ++ sectionLine "Constant buffers" declarations.constantBuffers.length
      :: declarations.constantBuffers.map bufferEntry
    ++ sectionLine "Inputs" declarations.inputs.length :: declarations.inputs.map parameterEntry
    ++ sectionLine "Outputs" declarations.outputs.length :: declarations.outputs.map parameterEntry
    ++ ["Opacity masked: " ++ Text.ofBool declarations.masked]
    ++ sectionLine "Skipped lines" declarations.skipped.length
      :: declarations.skipped.map skippedEntry

/-- The report: each of its lines with a line feed after it. -/
def report (declarations : Declarations) : Text :=
  declarations.reportLines.flatMap (· ++ ['\n'])

end MaterialNode.Declarations
