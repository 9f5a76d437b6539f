import MaterialNode.Files.Tree

/-!
# Errors of Documents

Info files, stage sections and settings are read from files, and fail for the same few
reasons.
-/

namespace MaterialNode

/-- Why a metadata or settings file could not be used. -/
inductive DocumentError where
  /-- The file could not be read or written. -/
  | file (cause : FileError)
  /-- The file does not hold the JSON record. -/
  | json
  /-- The file does not hold the YAML record. -/
  | yaml
  /-- A value is not admissible. -/
  | invalid (reason : Text)
  deriving DecidableEq

namespace DocumentError

/-- The wording of an error. -/
def message : DocumentError → Text
  | .file cause => "I/O error reading config: " ++ cause.message
  | .json => "JSON parse error in material info:"
  | .yaml => "YAML parse error in settings:"
  | .invalid reason => "Config validation error: " ++ reason

/-- The wording of an error followed by that of its cause. -/
def chain (error : DocumentError) : Text :=
  match error with
  | .file cause => error.message ++ ": " ++ cause.message
  | _ => error.message

end DocumentError
end MaterialNode
