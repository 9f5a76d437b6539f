import MaterialNode.CommandLine.Surroundings
import MaterialNode.Settings.Bundled

/-!
# The Program

The outer layer of the program: it copies the files that a run touches into a file tree,
runs the command on the tree, and carries the changes over to the disk.
-/

namespace MaterialNode.Disk

/-- The directory that stands for the bundled resources. -/
def bundledLocation : Location := ["usr", "share", "hlsl2usf", "resources"]

/-- What the program finds around it. -/
def environment : IO Environment := do
  let home := (← IO.getEnv "HOME").getD "/"
  let logVariable ← IO.getEnv "RUST_LOG"
  return ⟨Text.ofString home, bundledLocation.path, logVariable.map Text.ofString⟩

/-- What stands at a location. -/
def entryAt? (location : Location) : IO (Option Entry) := do
  let path := location.path.toString
  try
    return some (.file (.ofBytes (← IO.FS.readBinFile path).toList))
  catch _ =>
    try
      return if ← (← IO.FS.realPath path).isDir then some .directory else none
    catch _ => return none

/-- The files with what stands at a location. -/
def mount (files : FileTree) (location : Location) : IO FileTree := do
  if location.isEmpty then return files
  match ← entryAt? location with
  | some entry => return files.put location entry
  | none => return files

/-- The files with what stands on a path. -/
def mountPath (files : FileTree) (path : Text) : IO FileTree :=
  (files.locationsOn path).foldlM mount files

/-- The files with the info files at and below a location. -/
partial def mountInfoFiles (files : FileTree) (location : Location) : IO FileTree := do
  let path := location.path.toString
  let names ← try
      pure ((← (← IO.FS.realPath path).readDir).map fun entry => Text.ofString entry.fileName)
    catch _ => pure #[]
  let mut files := files
  for name in names do
    let below := location ++ [name]
    if InfoFile.isInfoPath name then
      files ← mount files below
      files ← mountInfoFiles files below
    else if ← (← IO.FS.realPath below.path.toString).isDir then
      files ← mountInfoFiles (files.put below .directory) below
  return files

/-- The files before anything is mounted: the bundled template, and the way to the working
directory. -/
def start : IO FileTree := do
  let workDir := (Text.fields '/' (Text.ofString (← IO.currentDir).toString)).filter (· ≠ [])
  let empty : FileTree := ⟨workDir, Table.empty⟩
  let bundled := (FileTree.locationsFrom [] bundledLocation).drop 1
  let files := bundled.foldl (fun files location => files.put location .directory) empty
  let template : Entry := .file (.text Settings.bundledTemplate)
  mountPath (files.put (bundledLocation ++ [Settings.bundledFile]) template) "."

/-- The files that a run touches. -/
def mountFor (invocation : Invocation) (environment : Environment) (files : FileTree) :
    IO FileTree := do
  let files ← mountPath files (invocation.settingsFile environment)
  match invocation.settings environment files with
  | .error _ => return files
  | .ok settings =>
    let paths := settings.touchedPaths environment ++ invocation.command.touchedPaths
    let files ← paths.foldlM mountPath files
    let files ← match invocation.command.searchedRoot?.map files.resolve with
      | some (.ok place) => mountInfoFiles files place.location
      | _ => pure files
    (invocation.command.materialPaths settings files).foldlM mountPath files

/-- Carries the changes of a run over to the disk. Directories come before what is in
them. -/
def carryOver (before after : FileTree) : IO Unit := do
  for (location, entry) in after.table.entries do
    if before.entryAt? location ≠ some entry then
      let path := location.path.toString
      match entry with
      | .directory => IO.FS.createDirAll path
      | .file (.text text) => IO.FS.writeFile path text.toString
      | .file (.bytes bytes) => IO.FS.writeBinFile path ⟨bytes.toArray⟩

/-- The time that log lines are stamped with, in seconds and microseconds. -/
def time : IO Text := do
  let microseconds := (← IO.monoNanosNow) / 1000
  let fraction := Text.ofNat (microseconds % 1000000)
  return Text.ofNat (microseconds / 1000000)
    ++ '.' :: List.replicate (6 - fraction.length) '0' ++ fraction

end MaterialNode.Disk

open MaterialNode in
/-- Runs the program on the files of the disk. -/
def main (arguments : List String) : IO UInt32 := do
  let arguments := arguments.map Text.ofString
  let environment ← Disk.environment
  let start ← Disk.start
  let files ← match Invocation.ofArguments arguments with
    | .ok invocation => Disk.mountFor invocation environment start
    | .error _ => pure start
  let outcome := runProgram environment (← Disk.time) files arguments
  Disk.carryOver files outcome.files
  IO.print outcome.output.toString
  IO.eprint outcome.errors.toString
  return UInt32.ofNat outcome.exitCode
