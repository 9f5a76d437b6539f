import MaterialNode.Json.Record

/-!
# Material Metadata

An exporter writes an info file beside the shaders of an asset. It names the asset's
materials, and for each stage of a material the bound textures and sample data for its
constant buffers.

Sample data is keyed by the number of elements of a buffer and not by its register, so
buffers of one size share their data.
-/

namespace MaterialNode

/-- One four-component row of constant buffer sample data. -/
structure SampleRow where
  /-- The first component. -/
  x : Binary64
  /-- The second component. -/
  y : Binary64
  /-- The third component. -/
  z : Binary64
  /-- The fourth component. -/
  w : Binary64
  deriving DecidableEq

/-- Sample rows by the element count of the buffers that they are for. -/
abbrev SampleStore := Table Nat (List SampleRow)

/-- A texture that is bound to a stage. -/
structure BoundTexture where
  /-- The hash that names the exported texture file. -/
  hash : Text
  /-- Whether the texture holds sRGB colours. -/
  srgb : Bool
  deriving DecidableEq

/-- The metadata of one stage of a material. -/
structure StageMetadata where
  /-- The sample data of the constant buffers. -/
  samples : SampleStore
  /-- The bound textures by register slot. -/
  textures : Table Nat BoundTexture
  deriving DecidableEq

/-- The metadata of a material. -/
structure MaterialMetadata where
  /-- The pixel stage, if the material has one. -/
  pixel : Option StageMetadata
  /-- The vertex stage, if the material has one. -/
  vertex : Option StageMetadata
  deriving DecidableEq

/-- The contents of an info file. -/
structure InfoFile where
  /-- The name of the mesh. -/
  meshName : Text
  /-- The materials by their hash. -/
  materials : Table Text MaterialMetadata
  /-- The table of mesh parts, which is kept and not interpreted. -/
  parts : Json.Value
  /-- The placed instances by name. -/
  instances : List (Json.Key × Json.Value)

namespace InfoFile

/-- An asset without placed instances is static. -/
def isStatic (info : InfoFile) : Bool := info.instances.isEmpty

/-- The ending of the names of info files. -/
def fileEnding : Text := "_info.cfg"

end InfoFile
end MaterialNode
