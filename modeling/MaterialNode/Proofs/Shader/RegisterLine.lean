import MaterialNode.Proofs.Text.Identifier
import MaterialNode.Shader.Line

/-!
# Written Registers

Textures, samplers and constant buffers as the disassembler writes them, and how each is read
back:

- a texture, in any dimension and of any type (`texture?_textureLine`);
- a sampler, as the last digit of its register number (`sampler?_samplerLine`);
- the array of a constant buffer, unless its type holds `cb` (`constantBuffer?_arrayLine`).
-/

namespace MaterialNode

open Text

/-! ## Lines -/

/-- A texture as it is written. -/
def textureLine (dimension elementType : Text) (register : Nat) : Text :=
  dimension ++ "<" ++ elementType ++ "> t" ++ ofNat register ++ " : register(t"
    ++ ofNat register ++ ");"

/-- A sampler as it is written. -/
def samplerLine (register : Nat) : Text :=
  "SamplerState s" ++ ofNat register ++ "_s : register(s" ++ ofNat register ++ ");"

/-- The first line of a constant buffer as it is written. -/
def bufferLine (register : Nat) : Text :=
  "cbuffer cb" ++ ofNat register ++ " : register(b" ++ ofNat register ++ ")"

/-- The array of a constant buffer as it is written. -/
def arrayLine (elementType : Text) (register count : Nat) : Text :=
  "  " ++ elementType ++ " cb" ++ ofNat register ++ "[" ++ ofNat count ++ "];"

variable {dimension elementType : Text} {register count : Nat}

section NotMem

variable {mark : Char} (hname : isNameCharacter mark = false)

include hname

/-- A texture holds no character that stands neither in a name nor between its fields. -/
theorem not_mem_textureLine (hdimension : IsIdentifier dimension)
    (htype : IsIdentifier elementType) (hfixed : mark ∉ ("<> :();" : Text)) :
    mark ∉ textureLine dimension elementType register := by
  have hword : mark ∉ ("registrt" : Text) := IsIdentifier.not_mem (by decide) hname
  have hdigits : mark ∉ ofNat register := (isIdentifier_ofNat register).not_mem hname
  simp_all [textureLine, hdimension.not_mem hname, htype.not_mem hname]

/-- A sampler holds no character that stands neither in a name nor between its fields. -/
theorem not_mem_samplerLine (hfixed : mark ∉ (" :();" : Text)) :
    mark ∉ samplerLine register := by
  have hword : mark ∉ ("SamplerState_registers" : Text) :=
    IsIdentifier.not_mem (by decide) hname
  have hdigits : mark ∉ ofNat register := (isIdentifier_ofNat register).not_mem hname
  unfold samplerLine
  simp_all

/-- The first line of a constant buffer holds no character that stands neither in a name nor
between its fields. -/
theorem not_mem_bufferLine (hfixed : mark ∉ (" :()" : Text)) : mark ∉ bufferLine register := by
  have hword : mark ∉ ("cbufferregisterb" : Text) := IsIdentifier.not_mem (by decide) hname
  have hdigits : mark ∉ ofNat register := (isIdentifier_ofNat register).not_mem hname
  unfold bufferLine
  simp_all

end NotMem

/-! ## Reading -/

/-- A texture is read back. -/
theorem texture?_textureLine (hdimension : IsIdentifier dimension)
    (htype : IsIdentifier elementType) (hregister : register < registerBound) :
    ShaderLine.texture? (textureLine dimension elementType register)
      = some ⟨dimension, elementType, 't' :: ofNat register, register⟩ := by
  -- What follows the name is not looked at.
  obtain ⟨rest, hrest⟩ : ∃ rest, rest = "register(t" ++ ofNat register ++ ");" := ⟨_, rfl⟩
  have hclose : '>' ∉ elementType := htype.not_mem (by decide)
  have hclose' : '>' ∉ dimension ++ '<' :: elementType := by
    rw [List.mem_append, List.mem_cons, not_or, not_or]
    exact ⟨hdimension.not_mem (by decide), by decide, hclose⟩
  have hname : IsIdentifier ('t' :: ofNat register) := isIdentifier_registerName (by decide) register
  have hdimensionCut : cut? "<" (textureLine dimension elementType register)
      = some (dimension, elementType ++ ("> " ++ ('t' :: ofNat register ++ (" : " ++ rest)))) :=
    cut?_eq_some '<' rfl (hdimension.not_mem (by decide)) (by simp [textureLine, hrest])
  have htypeCut : cut? ">" (elementType ++ ("> " ++ ('t' :: ofNat register ++ (" : " ++ rest))))
      = some (elementType, ' ' :: ('t' :: ofNat register ++ (" : " ++ rest))) :=
    cut?_eq_some '>' rfl hclose (by simp)
  have htailCut : cut? "> " (textureLine dimension elementType register)
      = some (dimension ++ '<' :: elementType, 't' :: ofNat register ++ (" : " ++ rest)) :=
    cut?_eq_some '>' rfl hclose' (by simp [textureLine, hrest])
  have hnameCut : cut? " : " ('t' :: ofNat register ++ (" : " ++ rest))
      = some ('t' :: ofNat register, rest) :=
    cut?_eq_some ' ' rfl (hname.not_mem (by decide)) (by simp)
  have hnumber : registerNumber ('t' :: ofNat register) 1 = register :=
    registerNumber_append_ofNat ['t'] (by decide) hregister
  simp only [ShaderLine.texture?, before?, after?, upTo, hdimensionCut, htypeCut, htailCut,
    hnameCut, Option.map_some, Option.getD_some, Option.bind_eq_bind, Option.bind_some,
    hdimension.trim_eq, htype.trim_eq, hname.trim_eq, hnumber]
  rfl

theorem getLast?_ofNat (n : Nat) : (ofNat n).getLast? = some (Nat.digitChar (n % 10)) := by
  unfold ofNat
  rcases Nat.lt_or_ge n 10 with hlt | hge
  · rw [Nat.toDigits_of_lt_base hlt, Nat.mod_eq_of_lt hlt]
    rfl
  · rw [Nat.toDigits_of_base_le (by decide) hge]
    exact List.getLast?_concat

/-- A sampler is read back as the last digit of its register number. -/
theorem sampler?_samplerLine (register : Nat) :
    ShaderLine.sampler? (samplerLine register) = some (register % 10) := by
  have hopen : '(' ∉ "SamplerState s" ++ ofNat register ++ "_s : register" := by
    rw [List.mem_append, List.mem_append, not_or, not_or]
    exact ⟨⟨by decide, (isIdentifier_ofNat register).not_mem (by decide)⟩, by decide⟩
  have hname : IsIdentifier ('s' :: ofNat register) := isIdentifier_registerName (by decide) register
  have hopenCut : cut? "(" (samplerLine register)
      = some ("SamplerState s" ++ ofNat register ++ "_s : register",
          's' :: ofNat register ++ ");") := by
    refine cut?_eq_some '(' rfl hopen ?_
    unfold samplerLine
    simp
  have hcloseCut : cut? ")" ('s' :: ofNat register ++ ");")
      = some ('s' :: ofNat register, [';']) :=
    cut?_eq_some ')' rfl (hname.not_mem (by decide)) (by simp)
  have hlast : ('s' :: ofNat register).getLast? = some (Nat.digitChar (register % 10)) := by
    rw [List.getLast?_cons, getLast?_ofNat]
    rfl
  -- The last digit is the spelling of a number of its own.
  have hdigit : registerNumber [Nat.digitChar (register % 10)] 0 = register % 10 := by
    have hspelled : ofNat (register % 10) = [Nat.digitChar (register % 10)] :=
      Nat.toDigits_of_lt_base (Nat.mod_lt _ (by decide))
    have hlt : register % 10 < registerBound := by
      have : 10 < registerBound := by decide
      omega
    rw [← hspelled]
    exact registerNumber_append_ofNat [] (by simp) hlt
  simp only [ShaderLine.sampler?, after?, before?, hopenCut, hcloseCut, Option.map_some,
    Option.bind_eq_bind, Option.bind_some, hlast, hdigit]
  rfl

/-- The name of a constant buffer starts at the space after its type. The space before the type is
followed by the type, which does not start with `cb`. -/
theorem cut?_name_arrayLine (htype : IsIdentifier elementType)
    (hfree : ¬ ("cb" : Text) <:+: elementType) :
    cut? " cb" ("  " ++ elementType ++ " cb" ++ ofNat register)
      = some ("  " ++ elementType, ofNat register) := by
  have hstart : ¬ [' ', 'c', 'b'] <+:
      ' ' :: (elementType ++ ([' ', 'c', 'b'] ++ ofNat register)) := by
    rw [List.cons_prefix_cons]
    rintro ⟨-, hword⟩
    exact hfree (prefix_of_prefix_append_cons (c := ' ') elementType (by decide) hword).isInfix
  have hleft : ("  " ++ elementType ++ " cb" ++ ofNat register : Text)
      = ' ' :: ' ' :: (elementType ++ ([' ', 'c', 'b'] ++ ofNat register)) := by
    simp
  change cut? [' ', 'c', 'b'] _ = _
  rw [hleft, cut?_cons_skip (by simp), cut?_cons_skip hstart,
    cut?_append _ (htype.not_mem (by decide)), cut?_self_append]
  simp

/-- The type of a constant buffer is cut out with the space after it. -/
theorem cut?_type_arrayLine (hfree : ¬ ("cb" : Text) <:+: elementType) :
    cut? "cb" (arrayLine elementType register count)
      = some (' ' :: ' ' :: (elementType ++ [' ']),
          ofNat register ++ ("[" ++ (ofNat count ++ "];"))) := by
  have hline : arrayLine elementType register count = ' ' :: ' ' :: (elementType
      ++ ' ' :: (['c', 'b'] ++ (ofNat register ++ ("[" ++ (ofNat count ++ "];"))))) := by
    unfold arrayLine
    simp
  have hnone : has elementType ['c', 'b'] = false := has_eq_false_iff.2 hfree
  change cut? ['c', 'b'] _ = _
  rw [hline, cut?_cons_skip (by simp), cut?_cons_skip (by simp),
    cut?_append_cons (by decide) hnone, cut?_self_append]
  simp

/-- The array of a constant buffer is read back if its type does not hold `cb`. -/
theorem constantBuffer?_arrayLine (htype : IsIdentifier elementType)
    (hfree : ¬ ("cb" : Text) <:+: elementType) (hregister : register < registerBound)
    (hcount : count < registerBound) :
    ShaderLine.constantBuffer? (arrayLine elementType register count)
      = some ⟨"cb" ++ ofNat register, elementType, count, register⟩ := by
  have hopen : '[' ∉ "  " ++ elementType ++ " cb" ++ ofNat register := by
    rw [List.mem_append, List.mem_append, List.mem_append, not_or, not_or, not_or]
    exact ⟨⟨⟨by decide, htype.not_mem (by decide)⟩, by decide⟩,
      (isIdentifier_ofNat register).not_mem (by decide)⟩
  have hopenCut : cut? "[" (arrayLine elementType register count)
      = some ("  " ++ elementType ++ " cb" ++ ofNat register, ofNat count ++ "];") := by
    refine cut?_eq_some '[' rfl hopen ?_
    unfold arrayLine
    simp
  have hcountCut : cut? "]" (ofNat count ++ "];") = some (ofNat count, [';']) :=
    cut?_eq_some ']' rfl ((isIdentifier_ofNat count).not_mem (by decide)) (by simp)
  have htrim : trim (elementType ++ [' ']) = elementType :=
    trim_append_space fun c hc => isBlank_eq_false_of_isNameCharacter (htype.all_name c hc)
  have hdigits : trimEnd (ofNat register) = ofNat register :=
    trimEnd_eq_self fun c hc => isBlank_eq_false_of_isDigit (isDigits_ofNat register c hc)
  have hnumber : registerNumber ("cb" ++ ofNat register) 2 = register :=
    registerNumber_append_ofNat ['c', 'b'] (by decide) hregister
  simp only [ShaderLine.constantBuffer?, before?, after?, hopenCut, hcountCut,
    cut?_name_arrayLine htype hfree, cut?_type_arrayLine hfree, Option.map_some,
    Option.bind_eq_bind, Option.bind_some, trim_space_cons, htrim, hdigits,
    toRegister_ofNat hcount, hnumber]
  rfl

end MaterialNode
