import MaterialNode.Code.Program
import MaterialNode.Shader.Stage
import MaterialNode.Text.Quoted
import MaterialNode.Workspace

/-!
# Converting Shader Files

A conversion reads a shader and the conversion template and yields the finished program.
Only the two reads can fail. The records say which lines the header parser passed over and
where the emitted code had to make do with defaults.
-/

namespace MaterialNode

/-- Why a conversion failed. -/
inductive ConversionError where
  /-- The shader could not be read. -/
  | source (path : Text) (cause : FileError)
  /-- The template could not be read. -/
  | template (path : Text) (cause : FileError)
  deriving DecidableEq

namespace ConversionError

/-- The path of the file that could not be read. -/
def path : ConversionError → Text
  | .source path _ => path
  | .template path _ => path

/-- Why the file could not be read. -/
def cause : ConversionError → FileError
  | .source _ cause => cause
  | .template _ cause => cause

/-- The wording of an error. -/
def message : ConversionError → Text
  | .source path cause => "Failed to load hlsl file '" ++ path ++ "': " ++ cause.message
  | .template path cause =>
    "Failed to load output conversion template '" ++ path ++ "': " ++ cause.message

/-- The wording of an error followed by that of its cause. -/
def chain (error : ConversionError) : Text := error.message ++ ": " ++ error.cause.message

end ConversionError

namespace HeaderStep

/-- The records of one header line. -/
def log : HeaderStep → List LogRecord
  | .declared .. => []
  | .skipped line =>
    (match DeclarationKind.ofLine? line.text with
      | some kind =>
        [⟨.trace, .declarations, "line " ++ Text.ofNat line.index ++ " matched the "
          ++ kind.label ++ " classifier but could not be extracted: " ++ line.text.quoted⟩]
      | none => [])
    ++ [⟨.trace, .declarations, "skipping unrecognized line " ++ Text.ofNat line.index ++ ": "
      ++ line.text.quoted⟩]

end HeaderStep

namespace Declarations

/-- The record that counts what a header declares. -/
def countRecord (declarations : Declarations) : LogRecord :=
  ⟨.debug, .declarations, "parsed " ++ Text.ofNat declarations.textures.length
    ++ " texture(s), " ++ Text.ofNat declarations.samplers.size ++ " sampler(s), "
    ++ Text.ofNat declarations.constantBuffers.length ++ " constant buffer(s), "
    ++ Text.ofNat declarations.inputs.length ++ " input(s), "
    ++ Text.ofNat declarations.outputs.length ++ " output(s); "
    ++ Text.ofNat declarations.skipped.length ++ " line(s) skipped"⟩

/-- The declarations of a shader's source lines, with the records of the parser. -/
def parse (lines : List Text) : Logged Declarations :=
  let scan := HeaderScan.ofSource lines
  let declarations := ofLines lines
  ⟨declarations, scan.steps.flatMap HeaderStep.log
    ++ (match scan.discardAt? with
      | some index =>
        [⟨.debug, .declarations, "discard found at line " ++ Text.ofNat index
          ++ ", shader is opacity masked"⟩]
      | none => [])
    ++ [declarations.countRecord]⟩

end Declarations

namespace ConstantBuffer

/-- The record of a buffer whose sample data does not have the buffer's size. -/
def sizeLog (buffer : ConstantBuffer) (samples : Option SampleStore) : List LogRecord :=
  let rows := (buffer.sampleRows samples).length
  if rows = 0 then
    [⟨.debug, .constantBuffers, "no sample data for " ++ buffer.name ++ " ("
      ++ Text.ofNat buffer.count ++ " rows), filling with ones"⟩]
  else if rows ≠ buffer.count then
    [⟨.warn, .constantBuffers, "sample data for " ++ buffer.name ++ " has " ++ Text.ofNat rows
      ++ " rows but the buffer holds " ++ Text.ofNat buffer.count ++ "; "
      ++ (if buffer.count < rows then "truncating" else "padding with ones")⟩]
  else []

end ConstantBuffer

namespace EntryPoint

/-- The records of the inputs of unsupported types. -/
def unsupportedLog (inputs : List StageParameter) : List LogRecord :=
  (inputs.filter fun input => (Shape.ofType? input.elementType).isNone).map fun input =>
    ⟨.debug, .entryPoint, "input " ++ input.name ++ " has unsupported type '"
      ++ input.elementType ++ "', no default emitted"⟩

/-- The records of an entry point. The inputs of a pixel shader are gone through twice, for
their defaults and for their scaling. -/
def log (stage : Stage) (declarations : Declarations) : List LogRecord :=
  match stage with
  | .pixel => unsupportedLog declarations.inputs ++ unsupportedLog declarations.inputs
  | .vertex => []

end EntryPoint

namespace Body

/-- The record of a sample that reads a texture slot that is not declared. -/
def lineLog (slots : SlotSet) (line : Text) : List LogRecord :=
  let call := SampleInstruction.ofLine line
  if ShaderLine.isSample line && (slots.rank? call.textureSlot).isNone then
    [⟨.warn, .body, "sample references undeclared texture slot "
      ++ Text.ofNat call.textureSlot ++ ": " ++ line.quoted⟩]
  else []

/-- The records of the conversion of a body. -/
def log (lines : List Text) (textures : List Texture) : List LogRecord :=
  match start? lines with
  | none =>
    [⟨.debug, .body, "no scratch register sentinel found, instruction body is empty"⟩]
  | some start =>
    (window lines).flatMap (lineLog (boundSlots textures))
      ++ [⟨.debug, .body, "rewrote " ++ Text.ofNat (window lines).length
        ++ " body line(s) starting at line " ++ Text.ofNat start⟩]

end Body

/-- The lines of the conversion template at a path. -/
def readTemplate (files : FileTree) (path : Text) : Logged (Except ConversionError (List Text)) :=
  match files.readText path with
  | .error cause =>
    ⟨.error (.template path cause),
      [⟨.error, .template, "failed to load output conversion template " ++ path ++ ": "
        ++ cause.message⟩]⟩
  | .ok text =>
    ⟨.ok (Text.templateLines text),
      [⟨.debug, .template, "loaded conversion template from " ++ path⟩]⟩

/-- What a conversion needs to know besides the shader's source. -/
structure ConversionOptions where
  /-- The stage of the shader. -/
  stage : Stage
  /-- Sample data for the constant buffers. -/
  samples : Option SampleStore
  /-- The path of the conversion template. -/
  template : Text

namespace ConversionOptions

/-- The records of the steps before the template is read. -/
def emissionLog (options : ConversionOptions) (source : Text) : List LogRecord :=
  let lines := Text.sourceLines source
  let parsed := Declarations.parse lines
  parsed.log ++ parsed.value.constantBuffers.flatMap (·.sizeLog options.samples)
    ++ EntryPoint.log options.stage parsed.value ++ Body.log lines parsed.value.textures

/-- Converts source text. Only the reading of the template can fail; it comes after the
records of the emission. -/
def convertText (options : ConversionOptions) (space : Workspace) (source : Text) :
    Logged (Except ConversionError Program) :=
  let emission := options.emissionLog source
  let template := readTemplate (space.recorded emission).files options.template
  let started := emission ++ template.log
  match template.value with
  | .error error => ⟨.error error, started⟩
  | .ok templateLines =>
    let program := Program.convert source options.stage options.samples templateLines
    ⟨.ok program, started ++ [⟨.debug, .conversion, "emitted "
      ++ Text.ofNat program.outputLines.length ++ " line(s) for " ++ options.stage.name
      ++ " shader (opacity masked: " ++ Text.ofBool program.declarations.masked ++ ")"⟩]⟩

/-- Converts the shader at a path. -/
def convertFile (options : ConversionOptions) (space : Workspace) (path : Text) :
    Logged (Except ConversionError Program) :=
  match space.files.readText path with
  | .error cause =>
    ⟨.error (.source path cause),
      [⟨.error, .conversion, "failed to load hlsl file " ++ path ++ ": " ++ cause.message⟩]⟩
  | .ok source =>
    let opening : List LogRecord :=
      [⟨.info, .conversion, "converting " ++ options.stage.name ++ " shader " ++ path⟩]
    (options.convertText (space.recorded opening) source).after opening

end ConversionOptions
end MaterialNode
