import MaterialNode.Files.Tree
import MaterialNode.Json.Printer
import MaterialNode.Json.Reader
import MaterialNode.Json.Record
import MaterialNode.Plan

/-!
# Plan Documents

A plan is saved as an indented JSON object. A pin without a texture leaves out the fields
of the texture.
-/

namespace MaterialNode

open Json

/-- A member whose name needs no escapes. -/
def plainMember (name : Text) (value : Value) : Key × Value := (⟨name, .plain⟩, value)

/-- A member that is left out when there is no value. -/
def optionalMember (name : Text) (value : Option Text) : List (Key × Value) :=
  match value with
  | some text => [plainMember name (.string text)]
  | none => []

namespace BlendMode

/-- The word for a blend mode. -/
def word : BlendMode → Text
  | .opaqueMode => "Opaque"
  | .masked => "Masked"

/-- The blend mode that a word stands for. -/
def ofWord? (word : Text) : Option BlendMode :=
  if word = "Opaque".toList then some .opaqueMode
  else if word = "Masked".toList then some .masked
  else none

end BlendMode

namespace ColorSpace

/-- The word for a colour space. -/
def word : ColorSpace → Text
  | .srgb => "Color"
  | .linear => "LinearColor"

/-- The colour space that a word stands for. -/
def ofWord? (word : Text) : Option ColorSpace :=
  if word = "Color".toList then some .srgb
  else if word = "LinearColor".toList then some .linear
  else none

end ColorSpace

namespace Pin

/-- A pin as a JSON object. -/
def toJson (input : Pin) : Value :=
  .object (plainMember "name" (.string input.name)
    :: (optionalMember "texture_hash" input.textureHash
      ++ optionalMember "sampler" (input.colorSpace.map ColorSpace.word)))

/-- The pin that a JSON value describes. -/
def ofJson? (value : Value) : Option Pin := do
  match ← value.fields? ["name", "texture_hash", "sampler"] with
  | [name, textureHash, sampler] =>
    return ⟨← required Value.text? name, ← optional Value.text? textureHash,
      ← optional (fun value => value.word?.bind ColorSpace.ofWord?) sampler⟩
  | _ => none

end Pin

namespace MaterialPlan

/-- A plan as a JSON object. -/
def toJson (plan : MaterialPlan) : Value :=
  .object [
    plainMember "material" (.string plan.material),
    plainMember "blend_mode" (.string plan.blendMode.word),
    plainMember "two_sided" (.bool plan.twoSided),
    plainMember "inputs" (.array (plan.inputs.map Pin.toJson)),
    plainMember "texture_imports" (.array (plan.textureImports.map .string)),
    plainMember "code" (.string plan.code)]

/-- The plan that a JSON value describes. -/
def ofJson? (value : Value) : Option MaterialPlan := do
  match ← value.fields?
      ["material", "blend_mode", "two_sided", "inputs", "texture_imports", "code"] with
  | [material, blendMode, twoSided, inputs, textureImports, code] =>
    return ⟨← required Value.text? material,
      ← required (fun value => value.word?.bind BlendMode.ofWord?) blendMode,
      ← required Value.bool? twoSided,
      ← (← required Value.items? inputs).mapM Pin.ofJson?,
      ← (← required Value.items? textureImports).mapM Value.text?,
      ← required Value.text? code⟩
  | _ => none

/-- The document of a plan. -/
def document (plan : MaterialPlan) : Text := plan.toJson.print

/-- The plan that a document holds. -/
def ofDocument? (text : Text) : Option MaterialPlan := (read? text).bind ofJson?

end MaterialPlan

/-- Why a plan could not be saved or loaded. -/
inductive PlanError where
  /-- The document could not be written. -/
  | writing (path : Text) (cause : WriteError)
  /-- The document could not be read. -/
  | reading (path : Text) (cause : FileError)
  /-- The document holds no plan. -/
  | parsing (path : Text)
  deriving DecidableEq

namespace PlanError

/-- The wording of an error. -/
def message : PlanError → Text
  | .writing path _ => "writing material plan " ++ path
  | .reading path _ => "reading material plan " ++ path
  | .parsing path => "parsing material plan " ++ path

/-- The wording of an error followed by that of its cause. -/
def chain (error : PlanError) : Text :=
  match error with
  | .writing _ cause => error.message ++ ": " ++ cause.message
  | .reading _ cause => error.message ++ ": " ++ cause.message
  | .parsing _ => error.message

end PlanError

namespace MaterialPlan

/-- The files after a plan is saved at a path. -/
def save (plan : MaterialPlan) (files : FileTree) (path : Text) : Except PlanError FileTree :=
  match files.writeText path plan.document with
  | .ok files => .ok files
  | .error cause => .error (.writing path (.path cause))

/-- Saves a plan at a path on a storage, and returns whether this worked with the files
afterwards. -/
def saveOn (plan : MaterialPlan) (files : FileTree) (storage : Storage) (path : Text) :
    Except PlanError Unit × FileTree :=
  match files.writeOn storage path plan.document with
  | (.ok _, files) => (.ok (), files)
  | (.error cause, files) => (.error (.writing path cause), files)

/-- The plan saved at a path. -/
def load (files : FileTree) (path : Text) : Except PlanError MaterialPlan :=
  match files.readText path with
  | .error cause => .error (.reading path cause)
  | .ok text =>
    match ofDocument? text with
    | some plan => .ok plan
    | none => .error (.parsing path)

end MaterialPlan
end MaterialNode
