import MaterialNode.CommandLine.Run

/-!
# The Files that a Run Touches

A run works on a file tree and not on the disk. This module says which files of the disk
belong in that tree: first the settings, then what the command reads and writes, and for a
batch the shaders and results of its materials.
-/

namespace MaterialNode

namespace Settings

/-- The files that may be the conversion template, and the log file. -/
def touchedPaths (settings : Settings) (environment : Environment) : List Text :=
  Path.join environment.installedDir settings.templateFile
    :: Path.join environment.bundledDir settings.templateFile
    :: (settings.resourcesDir.toList.map fun dir => Path.join dir settings.templateFile)
    ++ settings.logFile.toList

end Settings

namespace Command

/-- The files and directories that a command names. -/
def touchedPaths : Command → List Text
  | .convert source _ materialInfo template output =>
    source :: materialInfo.toList ++ template.toList ++ output.toList
  | .batch root outputDir template =>
    root :: outputDir.getD (defaultOutputDir root) :: template.toList
  | .inspect source _ => [source]

/-- The tree that is searched for info files, if the command is a batch. -/
def searchedRoot? : Command → Option Text
  | .batch root _ _ => some root
  | _ => none

/-- The files that a batch reads and writes for the materials that it collects. -/
def materialPaths (command : Command) (settings : Settings) (files : FileTree) : List Text :=
  match command with
  | .batch root outputDir _ =>
    let batch := batchOf root outputDir [] settings
    (Collection.ofRoot (.ofFiles files) root Batch.Report.empty).value.jobList.flatMap fun job =>
      [job.shaderSource, batch.shaderPath job.hash, batch.planPath job.hash]
  | _ => []

end Command
end MaterialNode
