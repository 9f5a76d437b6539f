import MaterialNode.Shader.Declaration
import MaterialNode.Text.Blank

/-!
# Stage Names

A stage is named by its full name or by the disassembler's short name, in any mixture of
capital and small letters and with blanks around it.
-/

namespace MaterialNode.Stage

/-- The name of a stage in messages. -/
def name : Stage → Text
  | .pixel => "pixel"
  | .vertex => "vertex"

/-- A name that names no stage, as it was compared: trimmed and in small letters. -/
structure UnknownName where
  /-- The name that was compared with the stage names. -/
  lowered : Text
  deriving DecidableEq

namespace UnknownName

/-- The wording of the error. -/
def message (unknown : UnknownName) : Text :=
  "unknown shader stage '" ++ unknown.lowered ++ "' (expected pixel/ps or vertex/vs)"

end UnknownName

/-- The stage that a name names. -/
def ofName (text : Text) : Except UnknownName Stage :=
  let lowered := text.trim.lowerAscii
  if lowered = "pixel".toList ∨ lowered = "ps".toList ∨ lowered = "fragment".toList then
    .ok .pixel
  else if lowered = "vertex".toList ∨ lowered = "vs".toList then .ok .vertex
  else .error ⟨lowered⟩

/-- Every stage is named by its own name. -/
theorem ofName_name (stage : Stage) : ofName stage.name = .ok stage := by
  cases stage <;> rfl

end MaterialNode.Stage
