import MaterialNode.Conversion
import MaterialNode.Metadata.Files
import MaterialNode.Plan.Document

/-!
# Batch Conversion

A batch converts every material of an exporter tree. Each info file under the root names
materials, and each material is converted once, by the first info file that names it. The
converted shader and its plan are written to the output directory. A failure ends the
conversion of one material or info file and is reported; the others go on. What was written
before a failure stays.
-/

namespace MaterialNode

/-- A batch, by what it works on. -/
structure Batch where
  /-- The root of the exporter tree. -/
  root : Text
  /-- The directory that the shaders and plans are written to. -/
  outputDir : Text
  /-- The path of the conversion template. -/
  template : Text
  /-- The extension of the written shaders, without the dot. -/
  extension : Text

/-- A material to convert. -/
structure Batch.Job where
  /-- The hash of the material. -/
  hash : Text
  /-- The directory of the info file that names the material. -/
  assetDir : Text
  /-- The metadata of the material. -/
  info : MaterialMetadata
  deriving DecidableEq

/-- A material that was converted. -/
structure Batch.Product where
  /-- The hash of the material. -/
  hash : Text
  /-- The path of the written shader. -/
  shaderPath : Text
  /-- The path of the written plan. -/
  planPath : Text
  deriving DecidableEq

/-- A material or info file that failed. -/
structure Batch.Failure where
  /-- The hash of the material or the path of the info file. -/
  subject : Text
  /-- The wording of the error. -/
  reason : Text
  deriving DecidableEq

/-- The outcome of a batch. -/
structure Batch.Report where
  /-- The converted materials in the order of their conversion. -/
  converted : List Batch.Product
  /-- The failed info files, then the failed materials. -/
  failed : List Batch.Failure
  deriving DecidableEq

namespace Batch.Report

/-- The report before anything was done. -/
def empty : Batch.Report := ⟨[], []⟩

/-- Whether nothing failed. -/
def isClean (report : Batch.Report) : Bool := report.failed.isEmpty

/-- `report` with one more converted material. -/
def addConverted (report : Batch.Report) (material : Batch.Product) : Batch.Report :=
  { report with converted := report.converted ++ [material] }

/-- `report` with one more failure. -/
def addFailed (report : Batch.Report) (failure : Batch.Failure) : Batch.Report :=
  { report with failed := report.failed ++ [failure] }

end Batch.Report

namespace Batch.Job

/-- The path of the material's pixel shader. -/
def shaderSource (job : Batch.Job) : Text := shaderFile job.assetDir job.hash

/-- The job of a material in a table of collected jobs, unless the table has one for it. -/
def addTo (jobs : Table Text Batch.Job) (job : Batch.Job) : Table Text Batch.Job :=
  if (jobs.get? job.hash).isSome then jobs else jobs.insert job.hash job

/-- The jobs of the materials in an info file. -/
def ofInfo (path : Text) (info : InfoFile) (root : Text) : List Batch.Job :=
  info.materials.entries.map fun entry => ⟨entry.1, (Path.parent? path).getD root, entry.2⟩

/-- The record of a material that an earlier info file named. -/
def duplicateLog (jobs : Table Text Batch.Job) (path : Text) (job : Batch.Job) :
    List LogRecord :=
  if (jobs.get? job.hash).isSome then
    [⟨.debug, .batch, "material " ++ job.hash ++ " already collected, ignoring copy in " ++ path⟩]
  else []

end Batch.Job

/-- The materials collected so far, and the report of the info files that failed. -/
structure Collection where
  /-- The jobs by hash. -/
  jobs : Table Text Batch.Job
  /-- The report with the failures so far. -/
  report : Batch.Report

namespace Collection

/-- The collection with the materials of one more info file. -/
def addFile (space : Workspace) (root : Text) (collection : Collection) (path : Text) :
    Logged Collection :=
  let loaded := InfoFile.load space.files path
  match loaded.value with
  | .error error =>
    ⟨{ collection with report := collection.report.addFailed ⟨path, error.message⟩ },
      loaded.log⟩
  | .ok info =>
    let jobs := Batch.Job.ofInfo path info root
    ⟨{ collection with jobs := jobs.foldl Batch.Job.addTo collection.jobs },
      loaded.log ++ jobs.flatMap (Batch.Job.duplicateLog collection.jobs path)⟩

/-- The collection with the materials of a list of info files, the first one first. -/
def addFiles (space : Workspace) (root : Text) (collection : Collection) :
    List Text → Logged Collection
  | [] => ⟨collection, []⟩
  | path :: rest =>
    let first := addFile space root collection path
    (addFiles (space.recorded first.log) root first.value rest).after first.log

/-- The materials of all info files under a root. Failures are added to `report`. -/
def ofRoot (space : Workspace) (root : Text) (report : Batch.Report) : Logged Collection :=
  let paths := InfoFile.filesUnder space.files root
  (addFiles (space.recorded paths.log) root ⟨Table.empty, report⟩ paths.value).after paths.log

/-- The collected jobs by ascending hash. -/
def jobList (collection : Collection) : List Batch.Job :=
  collection.jobs.entries.map (·.2)

end Collection

/-- Why a material was not converted. -/
inductive MaterialError where
  /-- The shader could not be converted. -/
  | conversion (error : ConversionError)
  /-- The shader could not be written. -/
  | shader (path : Text) (cause : WriteError)
  /-- The plan could not be saved. -/
  | plan (error : PlanError)
  deriving DecidableEq

namespace MaterialError

/-- The wording of an error followed by that of its cause. -/
def chain : MaterialError → Text
  | .conversion error => error.chain
  | .shader path cause => "writing " ++ path ++ ": " ++ cause.message
  | .plan error => error.chain

end MaterialError

/-- The result of a conversion that writes files. -/
structure Written (α : Type) where
  /-- The result. -/
  result : α
  /-- The workspace afterwards, with all records of the conversion written. -/
  space : Workspace
  /-- The records of the conversion. -/
  log : List LogRecord

namespace Written

variable {α : Type}

/-- The files afterwards. -/
def files (written : Written α) : FileTree := written.space.files

end Written

namespace Batch

/-- The path of a material's converted shader. -/
def shaderPath (batch : Batch) (hash : Text) : Text :=
  Path.join batch.outputDir (hash ++ "." ++ batch.extension)

/-- The path of a material's plan. -/
def planPath (batch : Batch) (hash : Text) : Text :=
  Path.join batch.outputDir (hash ++ ".json")

/-- How a material's shader is converted. -/
def conversion (batch : Batch) (job : Batch.Job) : ConversionOptions where
  stage := .pixel
  samples := job.info.pixel.map (·.samples)
  template := batch.template

/-- Writes the shader and the plan of a converted material, the shader first. Nothing that
was written is removed when a write fails. -/
def writeMaterial (batch : Batch) (storage : Storage) (files : FileTree) (job : Batch.Job)
    (program : Program) : Except MaterialError Batch.Product × FileTree :=
  let plan := MaterialPlan.ofProgram job.hash program job.info.pixel
  match files.writeOn storage (batch.shaderPath job.hash) plan.code with
  | (.error cause, files) => (.error (.shader (batch.shaderPath job.hash) cause), files)
  | (.ok _, files) =>
    match plan.saveOn files storage (batch.planPath job.hash) with
    | (.error error, files) => (.error (.plan error), files)
    | (.ok _, files) =>
      (.ok ⟨job.hash, batch.shaderPath job.hash, batch.planPath job.hash⟩, files)

/-- Converts a material and writes its shader and plan. -/
def convertJob (batch : Batch) (space : Workspace) (job : Batch.Job) :
    Written (Except MaterialError Batch.Product) :=
  let converted := (batch.conversion job).convertFile space job.shaderSource
  let space := space.recorded converted.log
  match converted.value with
  | .error error => ⟨.error (.conversion error), space, converted.log⟩
  | .ok program =>
    let written := batch.writeMaterial space.storage space.files job program
    ⟨written.1, space.withFiles written.2, converted.log⟩

/-- The record of the outcome of a material. -/
def materialRecord (job : Batch.Job) : Except MaterialError Batch.Product → LogRecord
  | .ok _ => ⟨.info, .batch, "converted material " ++ job.hash⟩
  | .error error =>
    ⟨.error, .batch, "failed to convert material " ++ job.hash ++ ": " ++ error.chain⟩

/-- Converts one more material and reports the outcome. -/
def addMaterial (batch : Batch) (space : Workspace) (report : Batch.Report)
    (job : Batch.Job) : Written Batch.Report :=
  let outcome := batch.convertJob space job
  let log := [materialRecord job outcome.result]
  ⟨match outcome.result with
    | .ok material => report.addConverted material
    | .error error => report.addFailed ⟨job.hash, error.chain⟩,
    outcome.space.recorded log, outcome.log ++ log⟩

/-- Converts a list of materials, the first one first. -/
def addMaterials (batch : Batch) (space : Workspace) (report : Batch.Report) :
    List Batch.Job → Written Batch.Report
  | [] => ⟨report, space, []⟩
  | job :: rest =>
    let first := batch.addMaterial space report job
    let others := addMaterials batch first.space first.result rest
    { others with log := first.log ++ others.log }

/-- Runs a batch. It fails as a whole only if the output directory cannot be created. -/
def run (batch : Batch) (space : Workspace) : Written (Except FileError Batch.Report) :=
  let (created, files) := space.files.createDirectories batch.outputDir
  let space := space.withFiles files
  match created with
  | .error cause => ⟨.error cause, space, []⟩
  | .ok () =>
    -- All info files are read before the first result is written.
    let collected := Collection.ofRoot space batch.root Batch.Report.empty
    let jobs := collected.value.jobList
    let log := collected.log ++ [⟨.info, .batch, "found " ++ Text.ofNat jobs.length
      ++ " material(s) under " ++ batch.root⟩]
    let outcome := batch.addMaterials (space.recorded log) collected.value.report jobs
    ⟨.ok outcome.result, outcome.space, log ++ outcome.log⟩

/-- The wording of the failure to create the output directory. -/
def createError (batch : Batch) (cause : FileError) : Text :=
  "creating output directory " ++ batch.outputDir ++ ": " ++ cause.message

end Batch
end MaterialNode
