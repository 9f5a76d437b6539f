import MaterialNode.Settings
import MaterialNode.Yaml.Node
import MaterialNode.Yaml.Printer

/-!
# Settings Documents

Settings are kept as a YAML mapping with a key for each setting. Settings that the mapping
does not make keep their defaults, keys that name no setting are ignored, and no setting
may be made twice. A document without content makes no settings.
-/

namespace MaterialNode

open Yaml

/-- The value of a key in a list of keys with their values. -/
def valueOf? (name : Text) : List (Text × Node) → Option Node
  | [] => none
  | (key, value) :: rest => if key = name then some value else valueOf? name rest

/-- A setting that is left at its default unless a document makes it. -/
def settingOr {α : Type} (default : α) (read : Node → Option α) : Option Node → Option α
  | some node => read node
  | none => some default

namespace Settings

/-- The keys of the settings in the order in which they are printed. -/
def keys : List Text :=
  ["resources_dir", "template_file", "log_level", "log_file", "output_extension"]

/-- The settings that a list of keys with their values makes. -/
def ofEntries? (entries : List (Text × Node)) : Option Settings :=
  if keys.all fun key => decide (entries.countP (·.1 = key) ≤ 1) then do
    let value (key : String) := valueOf? key entries
    return {
      resourcesDir := ← settingOr default.resourcesDir Node.optionalText? (value "resources_dir")
      templateFile := ← settingOr default.templateFile Node.text? (value "template_file")
      logLevel := ← settingOr default.logLevel (fun node => node.word?.bind LogLevel.ofWord?)
        (value "log_level")
      logFile := ← settingOr default.logFile Node.optionalText? (value "log_file")
      outputExtension := ← settingOr default.outputExtension Node.text?
        (value "output_extension") }
  else none

/-- The settings that the node of a document makes. -/
def ofNode? (root : Node) : Option Settings := do
  ofEntries? (← (← root.entries?).mapM fun (key, value) => return (← key.text?, value))

/-- The settings that a document makes. -/
def ofDocument? (text : Text) : Option Settings := (Node.ofText? text).bind ofNode?

/-- The document of settings. -/
def document (settings : Settings) : Text :=
  writeEntry "resources_dir" (writeOptional settings.resourcesDir)
    ++ writeEntry "template_file" (writeString settings.templateFile)
    ++ writeEntry "log_level" (settings.logLevel.word ++ "\n".toList)
    ++ writeEntry "log_file" (writeOptional settings.logFile)
    ++ writeEntry "output_extension" (writeString settings.outputExtension)

/-- The settings at a path: those of the file, if there is one, and the defaults else. -/
def load (files : FileTree) (path : Text) : Logged (Except DocumentError Settings) :=
  if files.pathExists path then
    ⟨match files.readText path with
      | .error cause => .error (.file cause)
      | .ok text =>
        match ofDocument? text with
        | none => .error .yaml
        | some settings =>
          match settings.fault? with
          | some error => .error error
          | none => .ok settings,
      [⟨.info, .settings, "Loading settings from " ++ path.quoted⟩]⟩
  else
    ⟨.ok default,
      [⟨.info, .settings, "Settings file not found at " ++ path.quoted ++ ", using defaults"⟩]⟩

/-- Saves settings at a path, and returns whether this worked with the files afterwards.
Directories that do not exist are created. -/
def save (settings : Settings) (files : FileTree) (path : Text) :
    Except DocumentError Unit × FileTree :=
  let (created, files) := files.createParent path
  match created with
  | .error cause => (.error (.file cause), files)
  | .ok () =>
    match files.writeText path settings.document with
    | .error cause => (.error (.file cause), files)
    | .ok files => (.ok (), files)

end Settings
end MaterialNode
