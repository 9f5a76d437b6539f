import MaterialNode.Json.Reader
import MaterialNode.Metadata.Material

/-!
# Reading Material Metadata

The records of an info file, read from JSON values. A reader has no result where the value
does not have the shape of the record.
-/

namespace MaterialNode

open Json

/-- A sample row; missing components are zero. -/
def SampleRow.ofJson? (value : Value) : Option SampleRow := do
  match ← value.fields? ["X", "Y", "Z", "W"] with
  | [x, y, z, w] =>
    let read := orDefault Value.binary64? .zero
    return ⟨← read x, ← read y, ← read z, ← read w⟩
  | _ => none

/-- Sample data: a map from element counts to lists of rows. -/
def readSamples? (value : Value) : Option SampleStore := do
  readTable? Key.register? (fun rows => do (← rows.items?).mapM SampleRow.ofJson?)
    (← value.members?) Table.empty

/-- A bound texture; it holds linear data unless stated otherwise. -/
def BoundTexture.ofJson? (value : Value) : Option BoundTexture := do
  match ← value.fields? ["Hash", "SRGB"] with
  | [hash, srgb] => return ⟨← required Value.text? hash, ← orDefault Value.bool? false srgb⟩
  | _ => none

/-- Textures by slot: a map from slots to textures. -/
def readTextures? (value : Value) : Option (Table Nat BoundTexture) := do
  readTable? Key.register? BoundTexture.ofJson? (← value.members?) Table.empty

/-- A stage section. -/
def StageMetadata.ofJson? (value : Value) : Option StageMetadata := do
  match ← value.fields? ["ConstantBuffers", "Textures"] with
  | [samples, textures] =>
    return ⟨← orDefault readSamples? .empty samples, ← orDefault readTextures? .empty textures⟩
  | _ => none

/-- A material with a section per stage. -/
def MaterialMetadata.ofJson? (value : Value) : Option MaterialMetadata := do
  match ← value.fields? ["PS", "VS"] with
  | [pixel, vertex] =>
    return ⟨← optional StageMetadata.ofJson? pixel, ← optional StageMetadata.ofJson? vertex⟩
  | _ => none

/-- Materials by hash. -/
def readMaterials? (value : Value) : Option (Table Text MaterialMetadata) := do
  readTable? (fun key => some key.text) MaterialMetadata.ofJson? (← value.members?) Table.empty

namespace InfoFile

/-- The number of arrays and objects that may be nested in a member of an info file. -/
def maxDepth : Nat := 126

/-- A value that is kept as it is. -/
def readAny? (value : Value) : Option Value :=
  if value.isSound maxDepth then some value else none

/-- The contents of an info file. -/
def ofJson? (value : Value) : Option InfoFile := do
  match ← value.fields? ["MeshName", "Materials", "Parts", "Instances"] with
  | [meshName, materials, parts, instances] =>
    return ⟨← orDefault Value.text? [] meshName, ← orDefault readMaterials? .empty materials,
      ← orDefault readAny? .null parts,
      ← orDefault (fun value => (readAny? value).bind Value.members?) [] instances⟩
  | _ => none

end InfoFile
end MaterialNode
