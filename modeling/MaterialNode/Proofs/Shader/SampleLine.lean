import MaterialNode.Proofs.Text.Numeral
import MaterialNode.Shader.Body

/-!
# Written Sample Instructions

Sample instructions as the disassembler writes them. Five searches over the whole line take an
instruction apart. Its target holds none of the delimiters that are searched for, and the equals
sign after it is part of none, so each search passes the target and finds its delimiter at the
call.
-/

namespace MaterialNode

open Text

/-- A sample instruction such as `r0.xyzw = t0.Sample(s0_s, v0.xy).xyzw;`. -/
structure WrittenSample where
  /-- What stands before the equals sign. -/
  target : Text
  /-- The digits of the texture slot. -/
  texture : Text
  /-- The digits of the sampler slot. -/
  sampler : Text
  /-- The coordinate that is sampled. -/
  coordinate : Text
  /-- What stands after the call, from the point on. -/
  suffix : Text
  deriving DecidableEq

namespace WrittenSample

/-- The line of an instruction. -/
def line (call : WrittenSample) : Text :=
  call.target ++ "= t" ++ call.texture ++ ".Sample(s" ++ call.sampler ++ "_s, "
    ++ call.coordinate ++ ")." ++ call.suffix

/-- The line of an instruction that reads the given binding of a material. -/
def boundLine (call : WrittenSample) (binding : Int) : Text :=
  call.target ++ "= Material_Texture2D_" ++ ofInt binding ++ ".SampleLevel(Material_Texture2D_"
    ++ ofInt (digitsValue call.sampler - 1) ++ "Sampler, " ++ call.coordinate ++ ",0)."
    ++ call.suffix

/-- The target holds no delimiter, the slots are numerals in range and the coordinate does not
close the call. -/
structure IsWellFormed (call : WrittenSample) : Prop where
  /-- The target has no equals sign. -/
  target_equals : '=' ∉ call.target
  /-- The target does not hold the name of the method. -/
  target_method : ¬ (".Sample" : Text) <:+: call.target
  /-- The target does not name a sampler. -/
  target_sampler : ¬ ("(s" : Text) <:+: call.target
  /-- The target does not separate arguments. -/
  target_comma : ¬ (", " : Text) <:+: call.target
  /-- The target does not close a call. -/
  target_close : ¬ (")." : Text) <:+: call.target
  /-- The texture slot is a numeral. -/
  texture_digits : IsDigits call.texture
  /-- The texture slot is in range. -/
  texture_lt : digitsValue call.texture < registerBound
  /-- The sampler slot is a numeral. -/
  sampler_digits : IsDigits call.sampler
  /-- The sampler slot is in range. -/
  sampler_le : digitsValue call.sampler ≤ maxNumber
  /-- The coordinate ends at the first parenthesis. -/
  coordinate_close : ')' ∉ call.coordinate

variable {call : WrittenSample}

theorem isSample_line (call : WrittenSample) : ShaderLine.isSample call.line = true := by
  rw [ShaderLine.isSample, has_iff_infix]
  refine ⟨call.target ++ "= t" ++ call.texture ++ ".", "(s" ++ call.sampler ++ "_s, "
    ++ call.coordinate ++ ")." ++ call.suffix, ?_⟩
  simp [line]

/-! ## Searches -/

/-- What stands before the method is the target and the texture. -/
theorem cut?_method (h : call.IsWellFormed) :
    cut? ".Sample" call.line
      = some (call.target ++ '=' :: (" t" ++ call.texture),
          "(s" ++ call.sampler ++ "_s, " ++ call.coordinate ++ ")." ++ call.suffix) := by
  have hline : call.line = call.target ++ '=' :: ((" t" ++ call.texture) ++ (".Sample"
      ++ ("(s" ++ call.sampler ++ "_s, " ++ call.coordinate ++ ")." ++ call.suffix))) := by
    simp [line]
  have hpoint : '.' ∉ (" t" ++ call.texture : Text) := by
    rw [List.mem_append, not_or]
    exact ⟨by decide, h.texture_digits.not_mem (by decide)⟩
  rw [hline]
  exact cut?_past (d := '.') rfl (by decide) (has_eq_false_iff.2 h.target_method) hpoint _

/-- The sampler is named after the first parenthesis of the call. -/
theorem cut?_sampler (htarget : ¬ ("(s" : Text) <:+: call.target) (htexture : IsDigits call.texture) :
    cut? "(s" call.line
      = some (call.target ++ '=' :: (" t" ++ call.texture ++ ".Sample"),
          call.sampler ++ ("_s, " ++ call.coordinate ++ ")." ++ call.suffix)) := by
  have hline : call.line = call.target ++ '=' :: ((" t" ++ call.texture ++ ".Sample") ++ ("(s"
      ++ (call.sampler ++ ("_s, " ++ call.coordinate ++ ")." ++ call.suffix)))) := by
    simp [line]
  have hopen : '(' ∉ (" t" ++ call.texture ++ ".Sample" : Text) := by
    rw [List.mem_append, List.mem_append, not_or, not_or]
    exact ⟨⟨by decide, htexture.not_mem (by decide)⟩, by decide⟩
  rw [hline]
  exact cut?_past (d := '(') rfl (by decide) (has_eq_false_iff.2 htarget) hopen _

/-- The digits of the sampler end at the underscore. -/
theorem cut?_samplerEnd (hsampler : IsDigits call.sampler) :
    cut? "_s" (call.sampler ++ ("_s, " ++ call.coordinate ++ ")." ++ call.suffix))
      = some (call.sampler, ", " ++ call.coordinate ++ ")." ++ call.suffix) :=
  cut?_eq_some '_' rfl (hsampler.not_mem (by decide)) (by simp)

/-- The coordinate stands after the first comma of the call. -/
theorem cut?_coordinate (h : call.IsWellFormed) :
    cut? ", " call.line
      = some (call.target ++ '=' :: (" t" ++ call.texture ++ ".Sample(s" ++ call.sampler ++ "_s"),
          call.coordinate ++ (")." ++ call.suffix)) := by
  have hline : call.line = call.target ++ '=' :: ((" t" ++ call.texture ++ ".Sample(s"
      ++ call.sampler ++ "_s") ++ (", " ++ (call.coordinate ++ (")." ++ call.suffix)))) := by
    simp [line]
  have hcomma : ',' ∉ (" t" ++ call.texture ++ ".Sample(s" ++ call.sampler ++ "_s" : Text) := by
    simp only [List.mem_append, not_or]
    exact ⟨⟨⟨⟨by decide, h.texture_digits.not_mem (by decide)⟩, by decide⟩,
      h.sampler_digits.not_mem (by decide)⟩, by decide⟩
  rw [hline]
  exact cut?_past (d := ',') rfl (by decide) (has_eq_false_iff.2 h.target_comma) hcomma _

/-- The suffix stands after the parenthesis that closes the call. -/
theorem cut?_suffix (h : call.IsWellFormed) :
    cut? ")." call.line
      = some (call.target ++ '=' :: (" t" ++ call.texture ++ ".Sample(s" ++ call.sampler ++ "_s, "
          ++ call.coordinate), call.suffix) := by
  have hline : call.line = call.target ++ '=' :: ((" t" ++ call.texture ++ ".Sample(s"
      ++ call.sampler ++ "_s, " ++ call.coordinate) ++ (")." ++ call.suffix)) := by
    simp [line]
  have hclose : ')' ∉ (" t" ++ call.texture ++ ".Sample(s" ++ call.sampler ++ "_s, "
      ++ call.coordinate : Text) := by
    simp only [List.mem_append, not_or]
    exact ⟨⟨⟨⟨⟨by decide, h.texture_digits.not_mem (by decide)⟩, by decide⟩,
      h.sampler_digits.not_mem (by decide)⟩, by decide⟩, h.coordinate_close⟩
  rw [hline]
  exact cut?_past (d := ')') rfl (by decide) (has_eq_false_iff.2 h.target_close) hclose _

/-! ## Reading -/

/-- The sampler slot is the number that its digits spell, up to the largest number, whatever the
other pieces of the call are. -/
theorem samplerSlot_line (htarget : ¬ ("(s" : Text) <:+: call.target)
    (htexture : IsDigits call.texture) (hsampler : IsDigits call.sampler) :
    (SampleInstruction.ofLine call.line).samplerSlot
      = ((min (digitsValue call.sampler) maxNumber : Nat) : Int) := by
  simp only [SampleInstruction.ofLine, after?, upTo, before?, cut?_sampler htarget htexture,
    cut?_samplerEnd hsampler, Option.map_some, Option.getD_some, numberAtStart_of_isDigits hsampler]

/-- A sample instruction is taken apart into its pieces. -/
theorem ofLine_line (h : call.IsWellFormed) :
    SampleInstruction.ofLine call.line
      = ⟨call.target, digitsValue call.texture, digitsValue call.sampler, call.coordinate,
          call.suffix⟩ := by
  have htarget : cut? "=" call.line
      = some (call.target, " t" ++ call.texture ++ ".Sample(s" ++ call.sampler ++ "_s, "
          ++ call.coordinate ++ ")." ++ call.suffix) :=
    cut?_eq_some '=' rfl h.target_equals (by simp [line])
  have hclose : cut? ")" (call.coordinate ++ (")." ++ call.suffix))
      = some (call.coordinate, "." ++ call.suffix) :=
    cut?_eq_some ')' rfl h.coordinate_close (by simp)
  -- The slot is looked for from the end, so it does not matter what letters the target has.
  have hslot : afterLast? 't' (call.target ++ '=' :: (" t" ++ call.texture))
      = some call.texture := by
    have hpieces : call.target ++ '=' :: (" t" ++ call.texture)
        = call.target ++ ['=', ' '] ++ 't' :: call.texture := by
      simp
    rw [hpieces]
    exact afterLast?_append_cons (h.texture_digits.not_mem (by decide)) _
  have htexture : toRegister (numberAtStart call.texture) = digitsValue call.texture :=
    toRegister_numberAtStart h.texture_digits h.texture_lt
  have hsampler : numberAtStart call.sampler = digitsValue call.sampler := by
    rw [numberAtStart_of_isDigits h.sampler_digits, Nat.min_eq_left h.sampler_le]
  simp only [SampleInstruction.ofLine, before?, after?, upTo, htarget, cut?_method h,
    cut?_sampler h.target_sampler h.texture_digits, cut?_samplerEnd h.sampler_digits,
    cut?_coordinate h, cut?_suffix h, hclose, hslot, htexture, hsampler, Option.map_some,
    Option.getD_some, Option.bind_some]

/-- A sample instruction is converted to one that reads the binding of its texture, or the
binding -1 if its texture is not bound. -/
theorem bindSample_line (h : call.IsWellFormed) (slots : SlotSet) :
    Body.bindSample call.line slots
      = call.boundLine (((slots.rank? (digitsValue call.texture)).map Int.ofNat).getD (-1)) := by
  rw [Body.bindSample, ofLine_line h, SampleInstruction.render]
  cases slots.rank? (digitsValue call.texture) <;> simp [boundLine]

end WrittenSample

end MaterialNode
