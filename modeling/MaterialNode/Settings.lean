import MaterialNode.DocumentError
import MaterialNode.Log.Level
import MaterialNode.Text.Quoted

/-!
# Settings

The settings name the conversion template, the extension of converted shaders and how
much is logged. The template is looked for in the resources directory: the one that the
settings name, else the one where a template was installed, else the bundled one.
-/

namespace MaterialNode

/-- What the user can set. -/
structure Settings where
  /-- The directory of the conversion template, if it is set. -/
  resourcesDir : Option Text
  /-- The file of the conversion template in the resources directory. -/
  templateFile : Text
  /-- How much of the log is shown unless the command line or the environment says
  otherwise. -/
  logLevel : LogLevel
  /-- The file that the log is also written to, if it is set. -/
  logFile : Option Text
  /-- The extension of converted shaders. -/
  outputExtension : Text
  deriving DecidableEq

/-- What the program finds around it. -/
structure Environment where
  /-- The home directory of the user. -/
  home : Text
  /-- The directory of the bundled resources. -/
  bundledDir : Text
  /-- The value of the environment variable for the log level, if it is set. -/
  logVariable : Option Text

namespace Environment

/-- The directory of the settings. -/
def settingsDir (environment : Environment) : Text :=
  Path.join (Path.join environment.home ".config") "hlsl2usf"

/-- The file of the settings. -/
def settingsFile (environment : Environment) : Text :=
  Path.join environment.settingsDir "settings.yaml"

/-- The directory that resources are installed in. -/
def installedDir (environment : Environment) : Text :=
  Path.join (Path.join (Path.join environment.home ".local/share") "hlsl2usf") "resources"

end Environment

namespace Settings

/-- The settings that hold unless others are made. -/
def default : Settings where
  resourcesDir := none
  templateFile := "rt_output_conversion.usf"
  logLevel := .warn
  logFile := none
  outputExtension := "usf"

instance : Inhabited Settings := ⟨default⟩

/-- Why settings are not admissible, if they are not. The template needs a name that is
not blank, and so does the extension, which may hold no slash. -/
def fault? (settings : Settings) : Option DocumentError :=
  if settings.templateFile.trim.isEmpty then
    some (.invalid "template_file must not be empty")
  else if settings.outputExtension.trim.isEmpty ∨ settings.outputExtension.contains '/' then
    some (.invalid ("output_extension '" ++ settings.outputExtension
      ++ "' is not a valid file extension"))
  else none

/-- The resources directory in use. The record is written when the bundled resources have
to do. -/
def effectiveDir (settings : Settings) (environment : Environment) (files : FileTree) :
    Logged Text :=
  match settings.resourcesDir with
  | some dir => ⟨dir, []⟩
  | none =>
    if files.isFile (Path.join environment.installedDir settings.templateFile) then
      ⟨environment.installedDir, []⟩
    else
      ⟨environment.bundledDir, [⟨.debug, .settings, "No template installed in "
        ++ environment.installedDir.quoted ++ ", using bundled resources"⟩]⟩

/-- The path of the conversion template. -/
def template (settings : Settings) (environment : Environment) (files : FileTree) :
    Logged Text :=
  let dir := settings.effectiveDir environment files
  ⟨Path.join dir.value settings.templateFile, dir.log⟩

end Settings
end MaterialNode
