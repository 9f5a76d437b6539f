import MaterialNode.Log
import MaterialNode.Text.Cut
import MaterialNode.Text.Numeral

/-!
# Log Levels

A level admits the records down to its own severity. It is named in the settings, on the
command line and in an environment variable, and the most specific of the three that
names a level decides.
-/

namespace MaterialNode

/-- How much of the log is shown. -/
inductive LogLevel where
  /-- Nothing. -/
  | off
  /-- Errors only. -/
  | error
  /-- Warnings too. -/
  | warn
  /-- Progress too. -/
  | info
  /-- Details of operations too. -/
  | debug
  /-- Everything. -/
  | trace
  deriving DecidableEq

namespace LogLevel

/-- The levels, each admitting more than the one before. -/
def all : List LogLevel := [.off, .error, .warn, .info, .debug, .trace]

/-- The place of a level among all levels. -/
def index : LogLevel → Nat
  | .off => 0
  | .error => 1
  | .warn => 2
  | .info => 3
  | .debug => 4
  | .trace => 5

/-- The word for a level in settings and on the command line. -/
def word : LogLevel → Text
  | .off => "off"
  | .error => "error"
  | .warn => "warn"
  | .info => "info"
  | .debug => "debug"
  | .trace => "trace"

/-- The name of a level as it is shown. -/
def title : LogLevel → Text
  | .off => "Off"
  | .error => "Error"
  | .warn => "Warn"
  | .info => "Info"
  | .debug => "Debug"
  | .trace => "Trace"

/-- The level that a word stands for. -/
def ofWord? (word : Text) : Option LogLevel := all.find? fun level => decide (level.word = word)

/-- The level that a name names, in any mixture of capital and small letters and with
blanks around it. -/
def ofName? (name : Text) : Option LogLevel :=
  let lowered := name.trim.lowerAscii
  if lowered = "warning".toList then some .warn else ofWord? lowered

/-- The level in the value of an environment variable: the name after the last equals
sign of the first directive. -/
def ofDirectives? (value : Text) : Option LogLevel :=
  let directive := (value.upTo ",").trim
  ofName? ((directive.afterLast? '=').getD directive)

/-- The level in force: the one of the command line, else the one of the environment
variable, else the one of the settings. -/
def inForce (commandLine : Option LogLevel) (variableValue : Option Text) (settings : LogLevel) :
    LogLevel :=
  match commandLine, variableValue.bind ofDirectives? with
  | some level, _ => level
  | none, some level => level
  | none, none => settings

/-- Whether records of a severity are shown. -/
def admits (level : LogLevel) (severity : Severity) : Bool :=
  decide (severity.depth ≤ level.index)

/-- A level is found at its place. -/
theorem all_index (level : LogLevel) : all[level.index]? = some level := by
  cases level <;> rfl

/-- Every level is named by its word. -/
theorem ofWord?_word (level : LogLevel) : ofWord? level.word = some level := by
  cases level <;> rfl

/-- Every level is named by the name it is shown by. -/
theorem ofName?_title (level : LogLevel) : ofName? level.title = some level := by
  cases level <;> rfl

end LogLevel
end MaterialNode
