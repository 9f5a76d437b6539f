import MaterialNode.Files.Tree
import MaterialNode.Log.Level

/-!
# Workspaces

A command works on files while its log is written to one of them. The lines of a record are
in the log file before the next file is read or written, so a command that reads its own log
file, or writes to it, meets the lines up to there. A workspace is the files together with
the log file that is open.
-/

namespace MaterialNode

/-- The lines of the records that a level admits, stamped with a time. -/
def logLines (level : LogLevel) (time : Text) (log : List LogRecord) : Text :=
  (log.filter fun record => level.admits record.severity).flatMap fun record =>
    record.line time

/-- The lines of a log are those of its parts. -/
theorem logLines_append (level : LogLevel) (time : Text) (first second : List LogRecord) :
    logLines level time (first ++ second)
      = logLines level time first ++ logLines level time second := by
  simp [logLines]

/-- A log file that is open. -/
structure LogFile where
  /-- The location of the file. -/
  location : Location
  /-- The level in force. -/
  level : LogLevel
  /-- The time that lines are stamped with. -/
  time : Text

/-- The files that a command works on, and what it finds there besides: the log file that is
open meanwhile, and the storage that results are written to. -/
structure Workspace where
  /-- The files. -/
  files : FileTree
  /-- The log file, if one is open. -/
  logFile : Option LogFile
  /-- The storage that results are written to. -/
  storage : Storage := .ample

namespace Workspace

/-- The workspace of files without a log file, on storage that fails no write. -/
def ofFiles (files : FileTree) : Workspace := ⟨files, none, .ample⟩

/-- The workspace with other files. -/
def withFiles (space : Workspace) (files : FileTree) : Workspace :=
  { space with files := files }

/-- The workspace after the lines of records are written to the log file. -/
def recorded (space : Workspace) (log : List LogRecord) : Workspace :=
  match space.logFile with
  | none => space
  | some logFile =>
    space.withFiles
      (space.files.extendFile logFile.location (logLines logFile.level logFile.time log))

/-- Without a log file, records leave the files alone. -/
@[simp] theorem recorded_ofFiles (files : FileTree) (log : List LogRecord) :
    (ofFiles files).recorded log = ofFiles files := rfl

end Workspace
end MaterialNode
