import MaterialNode.Shader.SampleInstruction

/-!
# The Body of a Shader

The body is the window of instructions from the line that declares the scratch registers
up to the first return. It is converted line by line: a sample reads the material's own
bindings, a `discard` masks the fragment, and every other line is kept.
-/

namespace MaterialNode.Body

/-- The index of the line that opens the body. The first source line is never considered. -/
def start? (lines : List Text) : Option Nat :=
  ((lines.drop 1).findIdx? ShaderLine.opensBody).map (· + 1)

/-- The lines of the body: from the one that opens it up to the first return. -/
def window (lines : List Text) : List Text :=
  match start? lines with
  | some start => (lines.drop start).takeWhile fun line => !ShaderLine.isReturn line
  | none => []

/-- The slots of the declared textures, whose ranks are the material's bindings. -/
def boundSlots (textures : List Texture) : SlotSet := SlotSet.ofList (textures.map (·.slot))

/-- A sample instruction that reads the material's bindings. -/
def bindSample (line : Text) (slots : SlotSet) : Text := (SampleInstruction.ofLine line).render slots

/-- A line in which every `discard` masks the fragment. -/
def maskDiscards (line : Text) : Text :=
  line.replace ShaderLine.discardWord ShaderLine.maskedReturn

/-- A body line as it is emitted. A line that both samples and discards counts as a
sample. -/
def convertLine (slots : SlotSet) (line : Text) : Text :=
  if ShaderLine.isSample line then bindSample line slots
  else if ShaderLine.isDiscard line then maskDiscards line
  else line

/-- The emitted body of a shader. -/
def convert (lines : List Text) (textures : List Texture) : List Text :=
  (window lines).map (convertLine (boundSlots textures))

/-- The emitted body has one line per line of the window. -/
theorem length_convert (lines : List Text) (textures : List Texture) :
    (convert lines textures).length = (window lines).length := by
  simp [convert]

end MaterialNode.Body
