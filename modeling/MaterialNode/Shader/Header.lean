import MaterialNode.Shader.Line

/-!
# The Header of a Shader

The header is read line by line. Each line goes to the first kind of declaration that
recognises it; a line that declares nothing is skipped. The line that declares the scratch
registers opens the body, where only a `discard` matters. The first source line names the
shader model and is never read.
-/

namespace MaterialNode

/-- The kinds of declaration lines. -/
inductive DeclarationKind where
  /-- A texture line. -/
  | texture
  /-- A sampler line. -/
  | sampler
  /-- The first line of a constant buffer. -/
  | constantBuffer
  /-- An input parameter. -/
  | input
  /-- An output parameter. -/
  | output
  deriving DecidableEq

namespace DeclarationKind

/-- The kinds in the order in which a line is tried. A texture line also looks like a
parameter, so textures come first. -/
def all : List DeclarationKind := [.texture, .sampler, .constantBuffer, .input, .output]

/-- The name of a kind in messages. -/
def label : DeclarationKind → Text
  | .texture => "texture"
  | .sampler => "sampler"
  | .constantBuffer => "constant buffer"
  | .input => "input"
  | .output => "output"

/-- Whether a line looks like a declaration of the kind. -/
def recognises : DeclarationKind → Text → Bool
  | .texture => ShaderLine.isTexture
  | .sampler => ShaderLine.isSampler
  | .constantBuffer => ShaderLine.isConstantBuffer
  | .input => ShaderLine.isInput
  | .output => ShaderLine.isOutput

/-- The declaration of the kind on a line, given the lines that follow it. The array of a
constant buffer stands two lines below its first line, past the opening brace. -/
def read? (kind : DeclarationKind) (line : Text) (following : List Text) : Option Declaration :=
  match kind with
  | .texture => (ShaderLine.texture? line).map .texture
  | .sampler => (ShaderLine.sampler? line).map .sampler
  | .constantBuffer =>
    (following[1]?.bind ShaderLine.constantBuffer?).map .constantBuffer
  | .input => (ShaderLine.input? line).map .input
  | .output => (ShaderLine.output? line).map .output

/-- The kind that a line is read as: the first that recognises it. -/
def ofLine? (line : Text) : Option DeclarationKind := all.find? (·.recognises line)

end DeclarationKind

namespace Declaration

/-- The number of lines that a declaration takes after its first. -/
def extraLines : Declaration → Nat
  | .constantBuffer _ => 2
  | _ => 0

/-- The declaration that starts on a line, given the lines that follow. There is none when
no kind recognises the line or the first that does cannot read it. -/
def ofLine? (line : Text) (following : List Text) : Option Declaration :=
  (DeclarationKind.ofLine? line).bind (·.read? line following)

end Declaration

/-- What became of one header line. -/
inductive HeaderStep where
  /-- A declaration starts at the line with this index. -/
  | declared (index : Nat) (declaration : Declaration)
  /-- The line was skipped. -/
  | skipped (line : SkippedLine)
  deriving DecidableEq

namespace HeaderStep

/-- `declarations` with the outcome of one more header line. -/
def record (declarations : Declarations) : HeaderStep → Declarations
  | .declared _ declaration => declarations.record declaration
  | .skipped line => declarations.skip line

end HeaderStep

/-- The header of a shader as it was read, and the lines after it. -/
structure HeaderScan where
  /-- The outcomes of the header lines, in order. Lines that belong to the declaration
  before them have none. -/
  steps : List HeaderStep
  /-- The index of the line that opens the body, or the number of lines if none does. -/
  bodyStart : Nat
  /-- The lines from the one that opens the body to the end. -/
  body : List Text

namespace HeaderScan

/-- `scan` with one more outcome before the others. -/
def prepend (step : HeaderStep) (scan : HeaderScan) : HeaderScan :=
  { scan with steps := step :: scan.steps }

/-- Reads header lines of which the first has the given index. The first `covered` lines
belong to the declaration before them and are passed over. -/
def ofLines (index covered : Nat) : List Text → HeaderScan
  | [] => ⟨[], index, []⟩
  | line :: rest =>
    match covered with
    -- A covered line is not looked at, even if it would open the body.
    | covered + 1 => ofLines (index + 1) covered rest
    | 0 =>
      if ShaderLine.opensBody line then ⟨[], index, line :: rest⟩
      else match Declaration.ofLine? line rest with
        | some declaration =>
          (ofLines (index + 1) declaration.extraLines rest).prepend (.declared index declaration)
        | none => (ofLines (index + 1) 0 rest).prepend (.skipped ⟨index, line⟩)

/-- The scan of a shader's source lines, without the first. -/
def ofSource (lines : List Text) : HeaderScan :=
  match lines with
  | [] => ⟨[], 0, []⟩
  | _ :: rest => ofLines 1 0 rest

/-- The index of the first line of the body that discards the fragment. -/
def discardAt? (scan : HeaderScan) : Option Nat :=
  (scan.body.findIdx? ShaderLine.isDiscard).map (scan.bodyStart + ·)

end HeaderScan

namespace Declarations

/-- What the source lines of a shader declare. -/
def ofLines (lines : List Text) : Declarations :=
  let scan := HeaderScan.ofSource lines
  { scan.steps.foldl HeaderStep.record empty with
    masked := scan.body.any ShaderLine.isDiscard }

end Declarations
end MaterialNode
