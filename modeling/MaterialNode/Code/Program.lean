import MaterialNode.Code.Buffers
import MaterialNode.Code.Closing
import MaterialNode.Shader.Body
import MaterialNode.Shader.Header

/-!
# Programs under Conversion

A program holds a shader's source lines, what was parsed of them and the lines emitted so
far. Each conversion step adds to the emitted lines and leaves the source alone; the last
step joins the emitted lines into the contents.
-/

namespace MaterialNode

/-- A shader in the course of its conversion. -/
structure Program where
  /-- The stage that the shader is converted for. -/
  stage : Stage
  /-- The non-empty lines of the source. -/
  sourceLines : List Text
  /-- The lines emitted so far. -/
  outputLines : List Text
  /-- What the header declares, once it is parsed. -/
  declarations : Declarations
  /-- The joined output, once the program is finished. -/
  contents : Option Text
  deriving DecidableEq

namespace Program

/-- The program of a source before its first step. -/
def ofSource (source : Text) (stage : Stage) : Program :=
  ⟨stage, Text.sourceLines source, [], Declarations.empty, none⟩

/-- A step of a conversion. -/
inductive Step where
  /-- Parse the header. -/
  | parse
  /-- Emit the constant buffers with the given sample data. -/
  | constantBuffers (samples : Option SampleStore)
  /-- Emit the entry point. -/
  | entryPoint
  /-- Emit the converted body. -/
  | body
  /-- Emit the closing with the lines of a template. -/
  | closing (template : List Text)
  /-- Join the emitted lines into the contents. -/
  | finish
  /-- Change the stage. -/
  | setStage (stage : Stage)

/-- The lines that a step emits. -/
def emitted (program : Program) : Step → List Text
  | .constantBuffers samples => ConstantBuffer.blocks program.declarations.constantBuffers samples
  | .entryPoint => EntryPoint.lines program.stage program.declarations
  | .body => Body.convert program.sourceLines program.declarations.textures
  | .closing template => Closing.lines program.stage program.declarations template
  | .parse | .finish | .setStage _ => []

/-- The program after a step. -/
def step (program : Program) (step : Step) : Program :=
  match step with
  | .parse => { program with declarations := Declarations.ofLines program.sourceLines }
  | .setStage stage => { program with stage := stage }
  | .finish => { program with contents := some (Text.joinLines program.outputLines) }
  | step => { program with outputLines := program.outputLines ++ program.emitted step }

/-- The program after a list of steps. -/
def run (program : Program) (steps : List Step) : Program := steps.foldl Program.step program

/-- The steps of a conversion. -/
def conversion (samples : Option SampleStore) (template : List Text) : List Step :=
  [.parse, .constantBuffers samples, .entryPoint, .body, .closing template, .finish]

/-- The finished program of a source. -/
def convert (source : Text) (stage : Stage) (samples : Option SampleStore)
    (template : List Text) : Program :=
  (ofSource source stage).run (conversion samples template)

/-- No step changes the source lines. -/
@[simp] theorem sourceLines_step (program : Program) (step : Step) :
    (program.step step).sourceLines = program.sourceLines := by
  cases step <;> rfl

/-- Every step appends the lines that it emits. -/
theorem outputLines_step (program : Program) (step : Step) :
    (program.step step).outputLines = program.outputLines ++ program.emitted step := by
  cases step <;> simp [Program.step, emitted]

end Program
end MaterialNode
