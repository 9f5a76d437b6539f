import MaterialNode.Batch
import MaterialNode.CommandLine.Arguments
import MaterialNode.Settings.Document
import MaterialNode.Shader.Report

/-!
# Running a Command

A run takes the files as they are and the arguments, and yields what is printed, the exit
code and the files afterwards. The log goes to the error output and, if the settings name
a log file, to that file too.
-/

namespace MaterialNode

/-- The result of a command: what it prints, its exit code or the wording of its failure,
the workspace afterwards and the records. -/
structure CommandResult where
  /-- What is printed. -/
  output : Text
  /-- The exit code, or the wording of the failure. -/
  exit : Except Text Nat
  /-- The workspace afterwards, with all records written. -/
  space : Workspace
  /-- The records, the first one first. -/
  log : List LogRecord

namespace CommandResult

/-- A command that fails without output. -/
def failure (space : Workspace) (reason : Text) (log : List LogRecord) : CommandResult :=
  ⟨[], .error reason, space, log⟩

/-- `result` after the records `log`. -/
def after (log : List LogRecord) (result : CommandResult) : CommandResult :=
  { result with log := log ++ result.log }

end CommandResult

/-- The template that a command uses: the one it names, or else the one of the settings. -/
def templateInUse (template : Option Text) (settings : Settings) (environment : Environment)
    (files : FileTree) : Logged Text :=
  match template with
  | some path => ⟨path, []⟩
  | none => settings.template environment files

/-- The sample data of a stage section, if a command names one. The failure is worded. -/
def samplesInUse (materialInfo : Option Text) (files : FileTree) :
    Logged (Except Text (Option SampleStore)) :=
  match materialInfo with
  | none => ⟨.ok none, []⟩
  | some path =>
    let loaded := StageMetadata.load files path
    ⟨match loaded.value with
      | .ok info => .ok (some info.samples)
      | .error error => .error ("loading material info " ++ path ++ ": " ++ error.chain),
      loaded.log⟩

/-- Prints the contents of a converted shader or writes them to a file. -/
def deliver (contents : Text) (output : Option Text) (space : Workspace) : CommandResult :=
  match output with
  | none => ⟨contents ++ "\n".toList, .ok 0, space, []⟩
  | some path =>
    match space.files.writeOn space.storage path contents with
    | (.error cause, files) =>
      .failure (space.withFiles files) ("writing " ++ path ++ ": " ++ cause.message) []
    | (.ok _, files) =>
      let log := [⟨.info, .commandLine, "wrote " ++ path⟩]
      ⟨[], .ok 0, (space.withFiles files).recorded log, log⟩

/-- Converts one shader. -/
def convertResult (options : ConversionOptions) (source : Text) (output : Option Text)
    (space : Workspace) : CommandResult :=
  let converted := options.convertFile space source
  let space := space.recorded converted.log
  match converted.value with
  | .error error => .failure space error.chain converted.log
  | .ok program => (deliver (program.contents.getD []) output space).after converted.log

namespace Batch.Report

/-- The summary of a batch. -/
def summary (report : Batch.Report) (outputDir : Text) : Text :=
  "Converted " ++ Text.ofNat report.converted.length ++ " material(s) into " ++ outputDir
    ++ "\n".toList
    ++ report.failed.flatMap fun failure =>
      "  FAILED ".toList ++ failure.subject ++ ": ".toList ++ failure.reason ++ "\n".toList

/-- The exit code of a batch. -/
def exitCode (report : Batch.Report) : Nat := if report.isClean then 0 else 1

end Batch.Report

/-- Converts the shaders of an exporter tree. -/
def batchResult (batch : Batch) (space : Workspace) : CommandResult :=
  let outcome := batch.run space
  match outcome.result with
  | .error cause => .failure outcome.space (batch.createError cause) outcome.log
  | .ok report => ⟨report.summary batch.outputDir, .ok report.exitCode, outcome.space, outcome.log⟩

/-- Reports the declarations of a shader. -/
def inspectResult (source : Text) (space : Workspace) : CommandResult :=
  match space.files.readText source with
  | .error cause => .failure space ("reading " ++ source ++ ": " ++ cause.message) []
  | .ok text =>
    let parsed := Declarations.parse (Text.sourceLines text)
    ⟨parsed.value.report, .ok 0, space.recorded parsed.log, parsed.log⟩

namespace Command

/-- The directory that a batch writes to unless it names another. -/
def defaultOutputDir (root : Text) : Text := Path.join root "usf"

/-- What a batch works on. -/
def batchOf (root : Text) (outputDir : Option Text) (template : Text)
    (settings : Settings) : Batch where
  root := root
  outputDir := outputDir.getD (defaultOutputDir root)
  template := template
  extension := settings.outputExtension

/-- Runs a command. -/
def run (command : Command) (settings : Settings) (environment : Environment)
    (space : Workspace) : CommandResult :=
  match command with
  | .convert source stage materialInfo template output =>
    let template := templateInUse template settings environment space.files
    let space := space.recorded template.log
    let samples := samplesInUse materialInfo space.files
    let space := space.recorded samples.log
    let result : CommandResult := match samples.value with
      | .error reason => .failure space reason []
      | .ok found => convertResult ⟨stage, found, template.value⟩ source output space
    result.after (template.log ++ samples.log)
  | .batch root outputDir template =>
    let template := templateInUse template settings environment space.files
    let batch := batchOf root outputDir template.value settings
    (batchResult batch (space.recorded template.log)).after template.log
  | .inspect source _ => inspectResult source space

end Command

/-- A workspace at the start of a command, with the warning that there is no log file
although the settings name one. -/
structure OpenedWorkspace where
  /-- The workspace. -/
  space : Workspace
  /-- The warning, empty if there is nothing to warn of. -/
  warning : Text

/-- Opens the log file of the settings. It and its directory are created if they do not
exist. The command runs on storage that fails no write. -/
def openWorkspace (settings : Settings) (level : LogLevel) (time : Text) (files : FileTree) :
    OpenedWorkspace :=
  match settings.logFile with
  | none => ⟨.ofFiles files, []⟩
  | some path =>
    -- Whether the directory could be created shows when the file is opened.
    let files := (files.createParent path).2
    match files.writable path with
    | .ok location =>
      ⟨⟨files.extendFile location [], some ⟨location, level, time⟩, .ample⟩, []⟩
    | .error cause =>
      ⟨.ofFiles files, "hlsl2usf: warning: cannot open log file " ++ path ++ ": "
        ++ cause.message ++ "\n".toList⟩

/-- What a run of the program leaves behind. -/
structure Outcome where
  /-- The exit code. -/
  exitCode : Nat
  /-- What is printed to the output. -/
  output : Text
  /-- What is printed to the error output. -/
  errors : Text
  /-- The files afterwards. -/
  files : FileTree

/-- The line that tells of a failure. -/
def failureLine (reason : Text) : Text := "hlsl2usf: error: " ++ reason ++ "\n".toList

namespace Invocation

/-- The file of the settings. -/
def settingsFile (invocation : Invocation) (environment : Environment) : Text :=
  invocation.config.getD environment.settingsFile

/-- What the program was doing when settings could not be loaded. The file is mentioned if
the arguments name it. -/
def loadingSettings (invocation : Invocation) : Text :=
  match invocation.config with
  | some path => "loading settings " ++ path
  | none => "loading settings"

/-- The settings of a run. The failure is worded. -/
def settings (invocation : Invocation) (environment : Environment) (files : FileTree) :
    Except Text Settings :=
  match (Settings.load files (invocation.settingsFile environment)).value with
  | .ok settings => .ok settings
  | .error error => .error (invocation.loadingSettings ++ ": ".toList ++ error.chain)

/-- Runs a command with its settings. -/
def runWith (invocation : Invocation) (settings : Settings) (environment : Environment)
    (time : Text) (files : FileTree) : Outcome :=
  let level :=
    LogLevel.inForce invocation.logLevel environment.logVariable settings.logLevel
  let opened := openWorkspace settings level time files
  let result := invocation.command.run settings environment opened.space
  let printed := opened.warning ++ logLines level time result.log
  match result.exit with
  | .ok code => ⟨code, result.output, printed, result.space.files⟩
  | .error reason => ⟨1, result.output, printed ++ failureLine reason, result.space.files⟩

/-- Runs a command. -/
def run (invocation : Invocation) (environment : Environment) (time : Text) (files : FileTree) :
    Outcome :=
  match invocation.settings environment files with
  | .error reason => ⟨1, [], failureLine reason, files⟩
  | .ok settings => invocation.runWith settings environment time files

end Invocation

namespace NoCommand

/-- The version of the program. -/
def versionLine : Text := "hlsl2usf 0.4.0\n"

/-- How the program is used. -/
def usage : Text :=
  "Convert disassembled HLSL shaders into USF material code\n\n"
    ++ "Usage: hlsl2usf [--config FILE] [--log-level LEVEL] COMMAND\n\n"
    ++ "Commands:\n"
    ++ "  convert SOURCE [--stage ps|vs] [--material-info FILE] [--template FILE] [-o FILE]\n"
    ++ "  batch ROOT [-o DIR] [--template FILE]\n"
    ++ "  inspect SOURCE [--stage ps|vs]\n"

/-- The wording of the reason. -/
def message : NoCommand → Text
  | .missingSubject => "a required argument is missing"
  | .unknownArgument => "an argument is not known"
  | .invalidValue => "a value is missing or not admissible"
  | .unknownCommand => "the command is not known"
  | .repeatedOption => "an option is given twice"
  | .unexpectedValue => "a value is given where none is expected"
  | .missingCommand => "a command is missing"
  | .noArguments => "no arguments are given"
  | .helpWanted => "help is wanted"
  | .versionWanted => "the version is wanted"

/-- The outcome of a run without a command. -/
def outcome (reason : NoCommand) (files : FileTree) : Outcome :=
  match reason with
  | .helpWanted => ⟨0, usage, [], files⟩
  | .versionWanted => ⟨0, versionLine, [], files⟩
  | .noArguments => ⟨2, [], usage, files⟩
  | reason => ⟨2, [], "error: " ++ reason.message ++ "\n\n" ++ usage, files⟩

end NoCommand

/-- Runs the program: what it does with the given arguments in the given surroundings. -/
def runProgram (environment : Environment) (time : Text) (files : FileTree)
    (arguments : List Text) : Outcome :=
  match Invocation.ofArguments arguments with
  | .ok invocation => invocation.run environment time files
  | .error reason => reason.outcome files

end MaterialNode
