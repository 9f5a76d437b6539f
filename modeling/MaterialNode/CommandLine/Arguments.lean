import MaterialNode.Log.Level
import MaterialNode.Shader.Declaration

/-!
# Command Line Arguments

The arguments name a command and what it works on. Options are spelled `--name value`,
`--name=value`, `-nvalue`, `-n=value` or `-n value`; after `--` no argument is an option.
An option that every command has may stand before the command too, and the one after the
command wins.

An argument is read before the value of the option before it is looked at, so an argument
that cannot be read is reported first.
-/

namespace MaterialNode

/-- The name of a command. -/
inductive CommandName where
  /-- Convert one shader. -/
  | convert
  /-- Convert the shaders of an exporter tree. -/
  | batch
  /-- Report the declarations of a shader. -/
  | inspect
  deriving DecidableEq

/-- The name of an option. -/
inductive OptionName where
  /-- The settings file. -/
  | config
  /-- The log level. -/
  | logLevel
  /-- The stage of the shader. -/
  | stage
  /-- The file with the stage section of the shader's material. -/
  | materialInfo
  /-- The conversion template. -/
  | template
  /-- The file that the result is written to. -/
  | output
  /-- The directory that the results are written to. -/
  | outputDir
  deriving DecidableEq

/-- Why arguments name no command to run. -/
inductive NoCommand where
  /-- The command does not say what it works on. -/
  | missingSubject
  /-- An argument has no meaning. -/
  | unknownArgument
  /-- An option has no value, or a value it does not take. -/
  | invalidValue
  /-- A word stands for no command. -/
  | unknownCommand
  /-- An option is given twice. -/
  | repeatedOption
  /-- A value is given to what takes none. -/
  | unexpectedValue
  /-- There are options but no command. -/
  | missingCommand
  /-- There are no arguments. -/
  | noArguments
  /-- The arguments ask for help. -/
  | helpWanted
  /-- The arguments ask for the version. -/
  | versionWanted
  deriving DecidableEq

/-- The stage that a word of the command line stands for. -/
def Stage.ofArgument? (word : Text) : Option Stage :=
  if word = "ps".toList ∨ word = "pixel".toList then some .pixel
  else if word = "vs".toList ∨ word = "vertex".toList then some .vertex
  else none

namespace OptionName

/-- The long spelling of an option, without the dashes. -/
def word : OptionName → Text
  | .config => "config"
  | .logLevel => "log-level"
  | .stage => "stage"
  | .materialInfo => "material-info"
  | .template => "template"
  | .output => "output"
  | .outputDir => "output-dir"

/-- The short spelling of an option, without the dash. -/
def letter? : OptionName → Option Char
  | .output => some 'o'
  | .outputDir => some 'o'
  | _ => none

/-- Whether an option takes a value. A path may not be empty. -/
def accepts (name : OptionName) (value : Text) : Bool :=
  match name with
  | .logLevel => (LogLevel.ofWord? value).isSome
  | .stage => (Stage.ofArgument? value).isSome
  | _ => !value.isEmpty

/-- The options that every command has. -/
def common : List OptionName := [.config, .logLevel]

end OptionName

namespace CommandName

/-- The commands. -/
def all : List CommandName := [.convert, .batch, .inspect]

/-- The word for a command. -/
def word : CommandName → Text
  | .convert => "convert"
  | .batch => "batch"
  | .inspect => "inspect"

/-- The command that a word stands for. -/
def ofWord? (word : Text) : Option CommandName :=
  all.find? fun command => decide (command.word = word)

/-- The options of a command besides the common ones. -/
def options : CommandName → List OptionName
  | .convert => [.stage, .materialInfo, .template, .output]
  | .batch => [.outputDir, .template]
  | .inspect => [.stage]

end CommandName

/-- The word that asks for help in place of a command. -/
def helpWord : Text := "help"

/-- Whether a word stands for a command or asks for help. -/
def isCommandWord (word : Text) : Bool :=
  word = helpWord || (CommandName.ofWord? word).isSome

/-- The last value that was given, which has not been looked at yet. -/
inductive PendingValue where
  /-- There is none. -/
  | none
  /-- The value of an option, which is to follow. -/
  | awaited (option : OptionName)
  /-- The value of an option. -/
  | option (option : OptionName) (value : Text)
  /-- What the command works on. -/
  | subject (value : Text)

/-- What has been read of the arguments of a command, or of the arguments before it. -/
structure ArgumentScan where
  /-- The values of options in the order of the arguments. -/
  options : List (OptionName × Text)
  /-- What the command works on. -/
  subject : Option Text
  /-- The last value. -/
  pending : PendingValue
  /-- Whether no further argument is an option. -/
  optionsEnded : Bool

namespace ArgumentScan

/-- Nothing has been read. -/
def start : ArgumentScan := ⟨[], none, .none, false⟩

/-- The value of an option. -/
def value? (scan : ArgumentScan) (option : OptionName) : Option Text :=
  scan.options.lookup option

/-- Whether it has been said what the command works on. -/
def hasSubject (scan : ArgumentScan) : Bool :=
  match scan.pending with
  | .subject _ => true
  | _ => scan.subject.isSome

/-- Whether the value of an option is to follow. -/
def awaitsValue (scan : ArgumentScan) : Bool :=
  match scan.pending with
  | .awaited _ => true
  | _ => false

/-- Takes the value of an option, which may be given once. -/
def accept (scan : ArgumentScan) (option : OptionName) (value : Text) :
    Except NoCommand ArgumentScan :=
  if (scan.value? option).isSome then .error .repeatedOption
  else if option.accepts value then .ok { scan with options := scan.options ++ [(option, value)] }
  else .error .invalidValue

/-- Looks at the last value. -/
def settle (scan : ArgumentScan) : Except NoCommand ArgumentScan :=
  let settled := { scan with pending := .none }
  match scan.pending with
  | .none => .ok scan
  | .awaited _ => .error .invalidValue
  | .option option value => settled.accept option value
  | .subject value =>
    if value.isEmpty then .error .invalidValue else .ok { settled with subject := some value }

/-- The options that may be given to a command, or before it. -/
def optionsOf (command : Option CommandName) : List OptionName :=
  match command with
  | some command => command.options ++ OptionName.common
  | none => OptionName.common

/-- Takes the spelling of an option, with its value if the value is attached. -/
def takeOption (scan : ArgumentScan) (option : OptionName) (attached : Option Text) :
    Except NoCommand ArgumentScan := do
  let scan ← scan.settle
  match attached with
  | some value => scan.accept option value
  | none => return { scan with pending := .awaited option }

/-- Takes an argument that asks for help or for the version. -/
def stopFor (scan : ArgumentScan) (reason : NoCommand) : Except NoCommand ArgumentScan := do
  let _ ← scan.settle
  throw reason

/-- Takes an argument after its two dashes. -/
def takeLong (scan : ArgumentScan) (command : Option CommandName) (text : Text) :
    Except NoCommand ArgumentScan :=
  let name := text.upTo ['=']
  let attached := text.after? ['=']
  let flag (reason : NoCommand) :=
    if attached.isSome then .error .unexpectedValue else scan.stopFor reason
  if name = "help".toList then flag .helpWanted
  else if name = "version".toList ∧ command.isNone then flag .versionWanted
  else match (optionsOf command).find? fun option => decide (option.word = name) with
    | some option => scan.takeOption option attached
    | none => .error .unknownArgument

/-- Takes an argument after its dash: a letter with what follows it. -/
def takeShort (scan : ArgumentScan) (command : Option CommandName) (letter : Char)
    (rest : Text) : Except NoCommand ArgumentScan :=
  if letter = 'h' then scan.stopFor .helpWanted
  else if letter = 'V' ∧ command.isNone then scan.stopFor .versionWanted
  else match (optionsOf command).find? fun option => decide (option.letter? = some letter) with
    | none => .error .unknownArgument
    | some option =>
      match rest with
      | [] => scan.takeOption option none
      | '=' :: value => scan.takeOption option (some value)
      | value => scan.takeOption option (some value)

/-- Takes an argument that says what the command works on. -/
def takeSubject (scan : ArgumentScan) (command : Option CommandName) (argument : Text) :
    Except NoCommand ArgumentScan :=
  if command.isNone then
    .error (if scan.optionsEnded ∧ isCommandWord argument then .unknownArgument
      else .unknownCommand)
  else if scan.hasSubject then .error .unknownArgument
  else do
    let scan ← scan.settle
    return { scan with pending := .subject argument }

/-- Takes an argument that is no command. -/
def take (scan : ArgumentScan) (command : Option CommandName) (argument : Text) :
    Except NoCommand ArgumentScan :=
  if scan.optionsEnded then scan.takeSubject command argument
  else match argument with
    | ['-', '-'] => .ok { scan with optionsEnded := true }
    | '-' :: '-' :: text => scan.takeLong command text
    | '-' :: letter :: rest => scan.takeShort command letter rest
    | _ =>
      match scan.pending with
      | .awaited option => .ok { scan with pending := .option option argument }
      | _ => scan.takeSubject command argument

/-- Takes the arguments of a command. -/
def takeAll (scan : ArgumentScan) (command : CommandName) :
    List Text → Except NoCommand ArgumentScan
  | [] => scan.settle
  | argument :: rest => do takeAll (← scan.take (some command) argument) command rest

end ArgumentScan

/-- Whether words ask for help about something there is help about. -/
def helpOutcome : List Text → NoCommand
  | [] => .helpWanted
  | [word] => if isCommandWord word then .helpWanted else .unknownCommand
  | _ => .unknownCommand

/-- A command with what it works on. -/
inductive Command where
  /-- Convert the shader `source`. -/
  | convert (source : Text) (stage : Stage) (materialInfo template output : Option Text)
  /-- Convert the shaders of the exporter tree at `root`. -/
  | batch (root : Text) (outputDir template : Option Text)
  /-- Report the declarations of the shader `source`. -/
  | inspect (source : Text) (stage : Stage)
  deriving DecidableEq

/-- What the arguments ask for. -/
structure Invocation where
  /-- The command. -/
  command : Command
  /-- The settings file, if it is named. -/
  config : Option Text
  /-- The log level, if it is named. -/
  logLevel : Option LogLevel
  deriving DecidableEq

namespace Invocation

/-- The command with the given name, subject and options. -/
def commandOf (name : CommandName) (subject : Text) (scan : ArgumentScan) : Command :=
  let stage := ((scan.value? .stage).bind Stage.ofArgument?).getD .pixel
  match name with
  | .convert =>
    .convert subject stage (scan.value? .materialInfo) (scan.value? .template)
      (scan.value? .output)
  | .batch => .batch subject (scan.value? .outputDir) (scan.value? .template)
  | .inspect => .inspect subject stage

/-- Reads the arguments after the command. -/
def afterCommand (outer : ArgumentScan) (name : CommandName) (arguments : List Text) :
    Except NoCommand Invocation := do
  let inner ← ArgumentScan.start.takeAll name arguments
  match inner.subject with
  | none => throw .missingSubject
  | some subject =>
    -- The last option before the command is looked at last.
    let outer ← outer.settle
    let common (option : OptionName) := (inner.value? option).or (outer.value? option)
    return ⟨commandOf name subject inner, common .config,
      (common .logLevel).bind LogLevel.ofWord?⟩

/-- Reads arguments up to the command and after it. -/
def ofScan (outer : ArgumentScan) : List Text → Except NoCommand Invocation
  | [] => do
    let outer ← outer.settle
    throw (if outer.options.isEmpty then .noArguments else .missingCommand)
  | argument :: rest =>
    -- A command word is a value where an option waits for one, and no command after `--`.
    if outer.optionsEnded || outer.awaitsValue || !isCommandWord argument then do
      ofScan (← outer.take none argument) rest
    else match CommandName.ofWord? argument with
      | some name => afterCommand outer name rest
      | none => throw (helpOutcome rest)

/-- What the arguments ask for. -/
def ofArguments (arguments : List Text) : Except NoCommand Invocation :=
  ofScan .start arguments

end Invocation
end MaterialNode
