import MaterialNode.Code.Program
import MaterialNode.Files.Path
import MaterialNode.Metadata.Material

/-!
# Material Plans

A plan tells a host editor how to build a material around a converted pixel shader: the
code of its node, the node's input pins, the textures to import and how the material
blends. The texture pins come in ascending slot order, which is the order in which the
code numbers the material's bindings.
-/

namespace MaterialNode

/-- How a material blends with what is behind it. -/
inductive BlendMode where
  /-- The material covers what is behind it. -/
  | opaqueMode
  /-- The material leaves out masked fragments. -/
  | masked
  deriving DecidableEq

/-- How a texture is read by its sample node. -/
inductive ColorSpace where
  /-- As sRGB colours. -/
  | srgb
  /-- As linear values. -/
  | linear
  deriving DecidableEq

/-- An input pin of the node. -/
structure Pin where
  /-- The name of the pin. -/
  name : Text
  /-- The hash of the texture that feeds the pin, if one does. -/
  textureHash : Option Text
  /-- How the texture is read. -/
  colorSpace : Option ColorSpace
  deriving DecidableEq

/-- The description of a material around a converted shader. -/
structure MaterialPlan where
  /-- The hash of the material. -/
  material : Text
  /-- How the material blends. -/
  blendMode : BlendMode
  /-- Whether the material shows both sides of a surface. -/
  twoSided : Bool
  /-- The input pins: the textures in slot order, then the screen coordinate. -/
  inputs : List Pin
  /-- The texture files to import, relative to the asset's directory. -/
  textureImports : List Text
  /-- The code of the node. -/
  code : Text
  deriving DecidableEq

/-- The file of an exported texture, in the asset's directory. -/
def textureFile (assetDir hash : Text) : Text :=
  Path.join (Path.join assetDir "Textures") (hash ++ ".dds")

/-- The source of a material's pixel shader, in the asset's directory. -/
def shaderFile (assetDir hash : Text) : Text :=
  Path.join (Path.join assetDir "Shaders") ("PS_" ++ hash ++ ".hlsl")

namespace Pin

/-- The pin that a bound texture feeds. -/
def ofTexture (slot : Nat) (info : BoundTexture) : Pin where
  name := 't' :: Text.ofNat slot
  textureHash := some info.hash
  colorSpace := some (if info.srgb then .srgb else .linear)

/-- The pin of the screen coordinate. -/
def coordinate : Pin := ⟨EntryPoint.coordinate, none, none⟩

end Pin

namespace MaterialPlan

/-- The textures that are bound to a stage, in ascending slot order. -/
def boundTextures (stage : Option StageMetadata) : List (Nat × BoundTexture) :=
  match stage with
  | some info => info.textures.entries
  | none => []

/-- The plan of a converted pixel shader. A shader that discards fragments makes a masked
material with two sides. -/
def ofProgram (material : Text) (program : Program) (stage : Option StageMetadata) :
    MaterialPlan where
  material := material
  blendMode := if program.declarations.masked then .masked else .opaqueMode
  twoSided := program.declarations.masked
  inputs := (boundTextures stage).map (fun entry => .ofTexture entry.1 entry.2)
    ++ [.coordinate]
  textureImports := Path.dropRepeats (Path.sort
    ((boundTextures stage).map fun entry => textureFile [] entry.2.hash))
  code := program.contents.getD []

end MaterialPlan
end MaterialNode
