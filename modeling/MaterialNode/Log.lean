import MaterialNode.Text

/-!
# Log Records

Every operation reports what it does as a list of records beside its result, so that what
it does and what it says can be reasoned about apart. A record is written as a line only
when its severity is admitted by the level in force.
-/

namespace MaterialNode

/-- The severity of a record. -/
inductive Severity where
  /-- Something failed. -/
  | error
  /-- Something is amiss. -/
  | warn
  /-- Progress. -/
  | info
  /-- Details of an operation. -/
  | debug
  /-- Details of single lines. -/
  | trace
  deriving DecidableEq

namespace Severity

/-- The word for a severity in a log line. -/
def label : Severity → Text
  | .error => "ERROR"
  | .warn => "WARN"
  | .info => "INFO"
  | .debug => "DEBUG"
  | .trace => "TRACE"

/-- The place of a severity, counted from the gravest. -/
def depth : Severity → Nat
  | .error => 1
  | .warn => 2
  | .info => 3
  | .debug => 4
  | .trace => 5

end Severity

/-- The part of the program that a record comes from. -/
inductive LogSource where
  /-- The reading of settings. -/
  | settings
  /-- The reading of info files. -/
  | infoFiles
  /-- The reading of stage sections. -/
  | material
  /-- The conversion of a shader. -/
  | conversion
  /-- The reading of a shader's header. -/
  | declarations
  /-- The emission of constant buffers. -/
  | constantBuffers
  /-- The emission of the entry point. -/
  | entryPoint
  /-- The conversion of the body. -/
  | body
  /-- The reading of the conversion template. -/
  | template
  /-- The conversion of an exporter tree. -/
  | batch
  /-- The command line. -/
  | commandLine
  deriving DecidableEq

namespace LogSource

/-- The name of a source in a log line. -/
def label : LogSource → Text
  | .settings => "hlsl2usf_config::settings"
  | .infoFiles => "hlsl2usf_config::asset_info"
  | .material => "hlsl2usf_config::material"
  | .conversion => "hlsl2usf_transpile::pipeline"
  | .declarations => "hlsl2usf_transpile::declarations"
  | .constantBuffers => "hlsl2usf_transpile::constant_buffers"
  | .entryPoint => "hlsl2usf_transpile::entry_point"
  | .body => "hlsl2usf_transpile::rewriter"
  | .template => "hlsl2usf_transpile::template"
  | .batch => "hlsl2usf::batch"
  | .commandLine => "hlsl2usf::cli"

end LogSource

/-- One message of an operation. -/
structure LogRecord where
  /-- How grave the message is. -/
  severity : Severity
  /-- The part of the program that it comes from. -/
  source : LogSource
  /-- What it says. -/
  message : Text
  deriving DecidableEq

namespace LogRecord

/-- The line of a record, with the given time. -/
def line (record : LogRecord) (time : Text) : Text :=
  "[" ++ time ++ "] [" ++ Text.padRight 5 record.severity.label ++ "] [" ++ record.source.label
    ++ "] " ++ record.message ++ "\n"

end LogRecord

/-- A result together with the records of the operation that led to it. -/
structure Logged (α : Type) where
  /-- The result. -/
  value : α
  /-- The records, the first one first. -/
  log : List LogRecord

namespace Logged

variable {α β : Type}

/-- The result of an operation after the records `log`. -/
def after (log : List LogRecord) (operation : Logged α) : Logged α :=
  ⟨operation.value, log ++ operation.log⟩

instance : Monad Logged where
  pure value := ⟨value, []⟩
  bind operation next := (next operation.value).after operation.log

@[simp] theorem value_pure (a : α) : (pure a : Logged α).value = a := rfl

@[simp] theorem value_bind (operation : Logged α) (next : α → Logged β) :
    (operation >>= next).value = (next operation.value).value := rfl

@[simp] theorem log_pure (a : α) : (pure a : Logged α).log = [] := rfl

@[simp] theorem log_bind (operation : Logged α) (next : α → Logged β) :
    (operation >>= next).log = operation.log ++ (next operation.value).log := rfl

end Logged
end MaterialNode
