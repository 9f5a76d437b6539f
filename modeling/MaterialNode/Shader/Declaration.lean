import MaterialNode.SlotSet
import MaterialNode.Text

/-!
# Shader Declarations

A disassembled shader declares its textures, samplers, constant buffers and stage
parameters in a header before its instructions. This module holds what a header declares.
-/

namespace MaterialNode

/-- The stage of the pipeline that a shader runs in. It selects the wrapper that is
emitted around the shader. -/
inductive Stage where
  /-- The pixel stage: the shader becomes the code of a material node. -/
  | pixel
  /-- The vertex stage. -/
  | vertex
  deriving DecidableEq

/-- A declared texture, such as `Texture2D<float4> t3 : register(t3);`. -/
structure Texture where
  /-- The resource keyword, such as `Texture2D` or `TextureCube`. -/
  dimension : Text
  /-- The type between the angle brackets. -/
  elementType : Text
  /-- The name of the texture register. -/
  name : Text
  /-- The register number in the name. -/
  slot : Nat
  deriving DecidableEq

/-- A declared constant buffer array, such as `float4 cb0[12];`. -/
structure ConstantBuffer where
  /-- The name of the buffer register. -/
  name : Text
  /-- The type of one element. -/
  elementType : Text
  /-- The number of elements. -/
  count : Nat
  /-- The register number in the name. -/
  slot : Nat
  deriving DecidableEq

/-- An input or output parameter of a stage. -/
structure StageParameter where
  /-- The name of the parameter's register. -/
  name : Text
  /-- The type of the parameter. -/
  elementType : Text
  /-- The register number in the name. -/
  slot : Nat
  /-- The semantic tag, such as `TEXCOORD0`. -/
  semantic : Text
  deriving DecidableEq

/-- A header line that declares nothing. It is kept so that changes of the dialect can be
seen in a report. -/
structure SkippedLine where
  /-- The index of the line among the source lines. -/
  index : Nat
  /-- The line itself. -/
  text : Text
  deriving DecidableEq

/-- One declaration of a header. -/
inductive Declaration where
  /-- A texture. -/
  | texture (texture : Texture)
  /-- A sampler, by its slot. -/
  | sampler (slot : Nat)
  /-- A constant buffer. -/
  | constantBuffer (buffer : ConstantBuffer)
  /-- A stage input. -/
  | input (input : StageParameter)
  /-- A stage output. -/
  | output (output : StageParameter)
  deriving DecidableEq

/-- All that a shader's header declares, each list in the order of the header. -/
structure Declarations where
  /-- The textures. -/
  textures : List Texture
  /-- The constant buffers. -/
  constantBuffers : List ConstantBuffer
  /-- The stage inputs. -/
  inputs : List StageParameter
  /-- The stage outputs. -/
  outputs : List StageParameter
  /-- The slots of the samplers. -/
  samplers : SlotSet
  /-- Whether the instructions discard fragments. -/
  masked : Bool
  /-- The header lines that declare nothing. -/
  skipped : List SkippedLine
  deriving DecidableEq

namespace Declarations

/-- Declarations of an empty header. -/
def empty : Declarations := ⟨[], [], [], [], SlotSet.empty, false, []⟩

instance : Inhabited Declarations := ⟨empty⟩

/-- `declarations` with one more declaration at the end of its list. -/
def record (declarations : Declarations) : Declaration → Declarations
  | .texture texture =>
    { declarations with textures := declarations.textures ++ [texture] }
  | .sampler slot => { declarations with samplers := declarations.samplers.insert slot }
  | .constantBuffer buffer =>
    { declarations with constantBuffers := declarations.constantBuffers ++ [buffer] }
  | .input input => { declarations with inputs := declarations.inputs ++ [input] }
  | .output output => { declarations with outputs := declarations.outputs ++ [output] }

/-- `declarations` with one more skipped line at the end. -/
def skip (declarations : Declarations) (line : SkippedLine) : Declarations :=
  { declarations with skipped := declarations.skipped ++ [line] }

end Declarations
end MaterialNode
