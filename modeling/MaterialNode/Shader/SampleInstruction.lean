import MaterialNode.Shader.Line

/-!
# Sample Instructions

An instruction such as `r0.xyzw = t0.Sample(s0_s, v0.xy).xyzw;` names the texture slot and
the sampler slot that it reads. This module takes it apart and writes the same read in
terms of a material's dense texture bindings.
-/

namespace MaterialNode

/-- The pieces of a sample instruction. -/
structure SampleInstruction where
  /-- All that stands before the first equals sign, spaces included. -/
  target : Text
  /-- The number after the last `t` before `.Sample`. -/
  textureSlot : Nat
  /-- The number between `(s` and `_s`. -/
  samplerSlot : Int
  /-- The text between the first `, ` and the parenthesis that closes it. -/
  coordinate : Text
  /-- The text after the first `).`, with the semicolon. -/
  suffix : Text
  deriving DecidableEq

namespace SampleInstruction

/-- The pieces of the instruction on a line. A piece that is missing is empty or zero. -/
def ofLine (line : Text) : SampleInstruction where
  target := (line.before? "=").getD []
  textureSlot :=
    match (line.before? ".Sample").bind (Text.afterLast? 't') with
    | some digits => Text.toRegister digits.numberAtStart
    | none => 0
  samplerSlot :=
    match line.after? "(s" with
    | some tail => (tail.upTo "_s").numberAtStart
    | none => 0
  coordinate :=
    match line.after? ", " with
    | some tail => tail.upTo ")"
    | none => []
  suffix := (line.after? ").").getD []

/-- The same read from the material's bindings. The texture is named by the rank of its
slot, or by -1 when it is not declared; the sampler is named by its slot less one. -/
def render (call : SampleInstruction) (slots : SlotSet) : Text :=
  let rank : Int := match slots.rank? call.textureSlot with
    | some rank => rank
    | none => -1
  call.target ++ "= Material_Texture2D_" ++ Text.ofInt rank
    ++ ".SampleLevel(Material_Texture2D_" ++ Text.ofInt (call.samplerSlot - 1)
    ++ "Sampler, " ++ call.coordinate ++ ",0)." ++ call.suffix

end SampleInstruction
end MaterialNode
