import MaterialNode.Shader.Declaration
import MaterialNode.Text.Cut
import MaterialNode.Text.Numeral

/-!
# Shader Lines

A disassembled shader has one declaration or instruction to a line:

    // ps_5_0
    Texture2D<float4> t0 : register(t0);
    SamplerState s0_s : register(s0);
    cbuffer cb0 : register(b0)
    {
      float4 cb0[4];
    }
    void main(
      float4 v0 : TEXCOORD0,
      out float4 o0 : SV_Target0)
    {
      float4 r0,r1;
      r0.xyzw = t0.Sample(s0_s, v0.xy).xyzw;
      if (r0.w < 0.5) discard;
      return;
    }

A line is recognised by a keyword that it contains, and its fields are cut out at the
first occurrence of fixed delimiters. This module holds the keywords, the delimiters and
the readers of single lines.
-/

namespace MaterialNode.ShaderLine

/-- The joint declaration of the first two scratch registers. It separates the header
from the instructions. -/
def scratchRegisters : Text := "r0,r1"

/-- The unconditional return, which ends the instructions. -/
def returnStatement : Text := "return;"

/-- The instruction that drops a fragment. -/
def discardWord : Text := "discard"

/-- What `discard` becomes: the fragment is masked and the entry point is left. -/
def maskedReturn : Text := "\x7b output.OpacityMask = 0; return output; \x7d"

/-- Whether a line opens the instructions. -/
def opensBody (line : Text) : Bool := line.has scratchRegisters

/-- Whether a line holds the return that ends the instructions. -/
def isReturn (line : Text) : Bool := line.has returnStatement

/-- Whether a line declares a texture. -/
def isTexture (line : Text) : Bool := line.has "Texture"

/-- Whether a line declares a sampler. -/
def isSampler (line : Text) : Bool := line.has "SamplerState"

/-- Whether a line opens the declaration of a constant buffer. -/
def isConstantBuffer (line : Text) : Bool := line.has "cbuffer"

/-- Whether a line declares a stage input. A line with a question mark is a conditional
instruction and no input. -/
def isInput (line : Text) : Bool := line.has " v" && line.has " : " && !line.has "?"

/-- Whether a line declares a stage output. -/
def isOutput (line : Text) : Bool := line.has "out" && line.has " : "

/-- Whether a line is an instruction that samples a texture. -/
def isSample (line : Text) : Bool := line.has "Sample"

/-- Whether a line is an instruction that discards the fragment. -/
def isDiscard (line : Text) : Bool := line.has discardWord

/-- The texture that `Texture2D<float4> t0 : register(t0);` declares. -/
def texture? (line : Text) : Option Texture := do
  let dimension ← line.before? "<"
  let elementType ← (← line.after? "<").before? ">"
  let tail ← line.after? "> "
  let name := (tail.upTo " : ").trim
  return ⟨dimension.trim, elementType.trim, name, name.registerNumber 1⟩

/-- The slot of the sampler that `SamplerState s0_s : register(s0);` declares: the single
character before the closing parenthesis. -/
def sampler? (line : Text) : Option Nat := do
  let inner ← (← line.after? "(").before? ")"
  let last ← inner.getLast?
  return Text.registerNumber [last] 0

/-- The constant buffer that an array line such as `float4 cb0[12];` declares. -/
def constantBuffer? (line : Text) : Option ConstantBuffer := do
  let left ← line.before? "["
  let name : Text := "cb" ++ (← left.after? " cb").trimEnd
  let count ← (← line.after? "[").before? "]"
  let elementType ← line.before? "cb"
  return ⟨name, elementType.trim, Text.toRegister count.numberAtStart, name.registerNumber 2⟩

/-- The input that a parameter line such as `float4 v0 : TEXCOORD0,` declares. The
semantic ends at a comma. -/
def input? (line : Text) : Option StageParameter := do
  let rest ← line.after? " v"
  let name : Text := "v" ++ (rest.upTo " : ").trim
  let semantic ← line.after? " : "
  let elementType ← line.before? " v"
  return ⟨name, elementType.trim, name.registerNumber 1, (semantic.upTo ",").trim⟩

/-- The output that a parameter line such as `out float4 o0 : SV_Target0,` declares. The
semantic ends before the last character of the line, a comma or a parenthesis. -/
def output? (line : Text) : Option StageParameter := do
  let rest ← line.after? "out "
  let name : Text := "o" ++ ((← rest.after? " o").upTo " : ").trim
  let semantic ← line.after? " : "
  let elementType ← rest.before? " o"
  return ⟨name, elementType.trim, name.registerNumber 1, Text.trim semantic.trimEnd.dropLast⟩

end MaterialNode.ShaderLine
