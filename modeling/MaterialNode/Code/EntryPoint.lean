import MaterialNode.Shader.Declaration

/-!
# The Entry Point

The emitted code wraps the shader in a structure whose `main` takes the textures as
parameters. For a pixel shader the stage inputs become static defaults that are scaled by
the screen coordinate; for a vertex shader they stay parameters.
-/

namespace MaterialNode.EntryPoint

/-- The line that turns the disassembler's comparisons into negations. -/
def comparisonMacro : Text := "#define cmp -"

/-- The line that opens the wrapper. -/
def wrapperOpener : Text := "struct shader \x7b"

/-- The name of the screen coordinate, the last parameter of a pixel entry point. -/
def coordinate : Text := "tx"

/-- The shapes of the inputs that a pixel entry point can default and scale. -/
inductive Shape where
  /-- Four components. -/
  | vector4
  /-- Three components. -/
  | vector3
  /-- One component. -/
  | scalar
  deriving DecidableEq

namespace Shape

/-- The shape of a type, if it is supported. -/
def ofType? (elementType : Text) : Option Shape :=
  if elementType = "float4".toList then some .vector4
  else if elementType = "float3".toList then some .vector3
  else if elementType = "uint".toList ∨ elementType = "int".toList
      ∨ elementType = "float".toList then
    some .scalar
  else none

/-- The initialiser of ones. -/
def ones : Shape → Text
  | .vector4 => "\x7b1, 1, 1, 1\x7d"
  | .vector3 => "\x7b1, 1, 1\x7d"
  | .scalar => "1"

/-- The components of an input. -/
def components : Shape → Text
  | .vector4 => "xyzw"
  | .vector3 => "xyz"
  | .scalar => "x"

/-- The components of the coordinate that scale those of an input. -/
def coordinateComponents : Shape → Text
  | .vector4 => "xyxy"
  | .vector3 => "xyx"
  | .scalar => "x"

end Shape

/-- The inputs of supported types, with their shapes. -/
def shapedInputs (inputs : List StageParameter) : List (StageParameter × Shape) :=
  inputs.filterMap fun input => (Shape.ofType? input.elementType).map fun shape => (input, shape)

/-- The static default of an input. -/
def defaultLine (input : StageParameter × Shape) : Text :=
  "static " ++ input.1.elementType ++ " " ++ input.1.name ++ " = " ++ input.2.ones ++ ";"

/-- The line that scales an input by the coordinate. -/
def scaleLine (input : StageParameter × Shape) : Text :=
  "  " ++ input.1.name ++ "." ++ input.2.components ++ " = " ++ input.1.name ++ "."
    ++ input.2.components ++ " * " ++ coordinate ++ "." ++ input.2.coordinateComponents ++ ";"

/-- A texture as a parameter that others follow. -/
def textureParameter (texture : Texture) : Text :=
  "   " ++ texture.elementType ++ " " ++ texture.name ++ ","

/-- The entry point of a pixel shader. -/
def pixelLines (declarations : Declarations) : List Text :=
  let inputs := shapedInputs declarations.inputs
  -- The defaults stand outside the wrapper, the scaling inside `main`.
  inputs.map defaultLine
    ++ ([comparisonMacro, wrapperOpener, "FMaterialAttributes main("] : List Text)
    ++ declarations.textures.map textureParameter
    ++ (["   float2 " ++ coordinate ++ ")", "\x7b", "  FMaterialAttributes output;",
      "  float4 o0,o1,o2;"] : List Text)
    ++ inputs.map scaleLine

/-- The stage inputs as parameters. The last one closes the parameter list. -/
def inputParameters : List StageParameter → List Text
  | [] => []
  | input :: rest =>
    ("   " ++ input.elementType ++ " " ++ input.name ++ (if rest.isEmpty then ")" else ",")
      ++ " // " ++ input.semantic) :: inputParameters rest

/-- A stage output as a field of the wrapper. -/
def outputField (output : StageParameter) : Text := output.elementType ++ " " ++ output.name ++ ";"

/-- The entry point of a vertex shader. Without inputs the parameter list is closed on a
line of its own. -/
def vertexLines (declarations : Declarations) : List Text :=
  [comparisonMacro, wrapperOpener]
    ++ declarations.outputs.map outputField
    ++ (["", "void main("] : List Text)
    ++ declarations.textures.map textureParameter
    ++ inputParameters declarations.inputs
    ++ ((if declarations.inputs.isEmpty then [")"] else []) : List Text)
    ++ (["\x7b"] : List Text)

/-- The entry point of a shader. -/
def lines (stage : Stage) (declarations : Declarations) : List Text :=
  match stage with
  | .pixel => pixelLines declarations
  | .vertex => vertexLines declarations

end MaterialNode.EntryPoint
