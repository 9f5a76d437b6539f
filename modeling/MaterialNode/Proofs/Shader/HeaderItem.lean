import MaterialNode.Proofs.Shader.ParameterLine
import MaterialNode.Proofs.Shader.RegisterLine

/-!
# Header Items

The items of a shader's header as the disassembler writes them, and what each of them is read
as. A parameter whose fields are clear is read back, and so is every other item whatever its fields
are (`ofLine?_of_isClear`). What a parameter that is not clear is read as is none of these
(`ofLine?_of_not_isClear`).
-/

namespace MaterialNode

open Text

/-! ## Items -/

/-- An item of a shader's header. -/
inductive HeaderItem where
  /-- A texture with its dimension, such as `Texture2D`, and its type. -/
  | texture (dimension elementType : Text) (register : Nat)
  /-- A sampler. -/
  | sampler (register : Nat)
  /-- The block of a constant buffer. -/
  | buffer (elementType : Text) (register count : Nat)
  /-- A stage parameter with the character that ends it. -/
  | parameter (kind : ParameterKind) (elementType : Text) (register : Nat) (semantic : Text)
    (closing : Char)
  /-- A line that declares nothing. -/
  | filler (line : Text)
  deriving DecidableEq

/-- A line that declares nothing and does not open the body. -/
structure IsFiller (line : Text) : Prop where
  /-- The line does not open the body. -/
  scratch : ¬ ("r0,r1" : Text) <:+: line
  /-- The line is no texture. -/
  texture : ¬ ("Texture" : Text) <:+: line
  /-- The line is no sampler. -/
  sampler : ¬ ("SamplerState" : Text) <:+: line
  /-- The line opens no constant buffer. -/
  buffer : ¬ ("cbuffer" : Text) <:+: line
  /-- The line is no output, and looks like an input only if it is a conditional instruction. -/
  parameter : (" : " : Text) <:+: line →
    ¬ ("out" : Text) <:+: line ∧ ((" v" : Text) <:+: line → ("?" : Text) <:+: line)

instance (line : Text) : Decidable (IsFiller line) :=
  decidable_of_iff (has line "r0,r1" = false ∧ has line "Texture" = false
      ∧ has line "SamplerState" = false ∧ has line "cbuffer" = false
      ∧ (has line " : " = true →
        has line "out" = false ∧ (has line " v" = true → has line "?" = true))) <| by
    simp only [has_eq_false_iff, has_iff_infix]
    exact ⟨fun h => ⟨h.1, h.2.1, h.2.2.1, h.2.2.2.1, h.2.2.2.2⟩,
      fun h => ⟨h.scratch, h.texture, h.sampler, h.buffer, h.parameter⟩⟩

namespace HeaderItem

/-- The first line of an item. -/
def firstLine : HeaderItem → Text
  | .texture dimension elementType register => textureLine dimension elementType register
  | .sampler register => samplerLine register
  | .buffer _ register _ => bufferLine register
  | .parameter kind elementType register semantic closing =>
    parameterLine kind elementType register semantic closing
  | .filler line => line

/-- The lines of an item after its first. -/
def otherLines : HeaderItem → List Text
  | .buffer elementType register count => ["\x7b", arrayLine elementType register count, "\x7d"]
  | _ => []

/-- The lines of an item. -/
def lines (item : HeaderItem) : List Text := item.firstLine :: item.otherLines

/-- The declaration that an item stands for. -/
def declaration? : HeaderItem → Option Declaration
  | .texture dimension elementType register =>
    some (.texture ⟨dimension, elementType, 't' :: ofNat register, register⟩)
  | .sampler register => some (.sampler register)
  | .buffer elementType register count =>
    some (.constantBuffer ⟨"cb" ++ ofNat register, elementType, count, register⟩)
  | .parameter kind elementType register semantic _ =>
    some (kind.declaration ⟨kind.letter :: ofNat register, elementType, register, semantic⟩)
  | .filler _ => none

/-- The lines of an item that declare nothing, if its first line has the given index: a filler
and the closing brace of a constant buffer. -/
def skipped (index : Nat) : HeaderItem → List SkippedLine
  | .buffer .. => [⟨index + 3, "\x7d"⟩]
  | .filler line => [⟨index, line⟩]
  | _ => []

/-- The fields of an item are spelled as the dialect spells them: identifiers and register
numbers in range. The number of a sampler has one digit, and an input ends in a comma. -/
def IsSpelled : HeaderItem → Prop
  | .texture dimension elementType register =>
    IsIdentifier dimension ∧ ("Texture" : Text) <:+: dimension ∧ IsIdentifier elementType
      ∧ register < registerBound
  | .sampler register => register ≤ 9
  | .buffer elementType register count =>
    IsIdentifier elementType ∧ ¬ ("cb" : Text) <:+: elementType ∧ register < registerBound
      ∧ count < registerBound
  | .parameter kind elementType register semantic closing =>
    IsIdentifier elementType ∧ IsIdentifier semantic ∧ register < registerBound
      ∧ EndsParameter closing ∧ (kind = .input → closing = ',')
  | .filler line => IsFiller line

instance : DecidablePred IsSpelled
  | .texture .. => inferInstanceAs (Decidable (_ ∧ _ ∧ _ ∧ _))
  | .sampler _ => inferInstanceAs (Decidable (_ ≤ _))
  | .buffer .. => inferInstanceAs (Decidable (_ ∧ ¬ _ ∧ _ ∧ _))
  | .parameter .. => inferInstanceAs (Decidable (_ ∧ _ ∧ _ ∧ _ ∧ (_ → _)))
  | .filler line => inferInstanceAs (Decidable (IsFiller line))

/-- The fields of a parameter cannot be taken for a keyword or for the name of an input. -/
def IsClear : HeaderItem → Prop
  | .parameter kind elementType _ semantic _ =>
    HasNoKeyword elementType ∧ HasNoKeyword semantic ∧ elementType.head? ≠ some 'v'
      ∧ (kind = .output → semantic.head? ≠ some 'v')
  | _ => True

instance : DecidablePred IsClear
  | .parameter .. => inferInstanceAs (Decidable (_ ∧ _ ∧ _ ∧ (_ → _)))
  | .texture .. | .sampler _ | .buffer .. | .filler _ => inferInstanceAs (Decidable True)

end HeaderItem

/-! ## Kinds -/

/-- A texture is taken for a texture. -/
theorem kind_textureLine {dimension : Text} (hdimension : ("Texture" : Text) <:+: dimension)
    (elementType : Text) (register : Nat) :
    DeclarationKind.ofLine? (textureLine dimension elementType register) = some .texture := by
  have htexture : ShaderLine.isTexture (textureLine dimension elementType register) = true := by
    rw [ShaderLine.isTexture, has_iff_infix]
    obtain ⟨left, right, rfl⟩ := hdimension
    exact ⟨left, right ++ "<" ++ elementType ++ "> t" ++ ofNat register ++ " : register(t"
      ++ ofNat register ++ ");", by simp [textureLine]⟩
  rw [DeclarationKind.ofLine?_eq, if_pos htexture]

/-- A sampler is taken for a sampler. -/
theorem kind_samplerLine (register : Nat) :
    DeclarationKind.ofLine? (samplerLine register) = some .sampler := by
  have htexture : ShaderLine.isTexture (samplerLine register) = false := by
    refine has_eq_false_of_not_mem (c := 'T') (by decide) ?_
    unfold samplerLine
    simpa using (isDigits_ofNat register).not_mem (by decide)
  have hsampler : ShaderLine.isSampler (samplerLine register) = true := by
    rw [ShaderLine.isSampler, has_iff_infix]
    exact ⟨[], " s" ++ ofNat register ++ "_s : register(s" ++ ofNat register ++ ");", by
      unfold samplerLine
      simp⟩
  rw [DeclarationKind.ofLine?_eq, htexture, if_neg (by decide), if_pos hsampler]

/-- The first line of a constant buffer is taken for a constant buffer. -/
theorem kind_bufferLine (register : Nat) :
    DeclarationKind.ofLine? (bufferLine register) = some .constantBuffer := by
  have hdigits : ∀ {c : Char}, isDigit c = false → c ∉ ofNat register := fun hc =>
    (isDigits_ofNat register).not_mem hc
  have htexture : ShaderLine.isTexture (bufferLine register) = false := by
    refine has_eq_false_of_not_mem (c := 'T') (by decide) ?_
    unfold bufferLine
    simpa using hdigits (by decide)
  have hsampler : ShaderLine.isSampler (bufferLine register) = false := by
    refine has_eq_false_of_not_mem (c := 'S') (by decide) ?_
    unfold bufferLine
    simpa using hdigits (by decide)
  have hbuffer : ShaderLine.isConstantBuffer (bufferLine register) = true := by
    rw [ShaderLine.isConstantBuffer, has_iff_infix]
    exact ⟨[], " cb" ++ ofNat register ++ " : register(b" ++ ofNat register ++ ")", by
      unfold bufferLine
      simp⟩
  -- The marks of textures and samplers are looked for before that of buffers.
  rw [DeclarationKind.ofLine?_eq, htexture, hsampler, if_neg (by decide), if_neg (by decide),
    if_pos hbuffer]

/-- A line that declares nothing is taken for no declaration. -/
theorem IsFiller.kind_eq_none {line : Text} (h : IsFiller line) :
    DeclarationKind.ofLine? line = none := by
  have htexture : ShaderLine.isTexture line = false := has_eq_false_iff.2 h.texture
  have hsampler : ShaderLine.isSampler line = false := has_eq_false_iff.2 h.sampler
  have hbuffer : ShaderLine.isConstantBuffer line = false := has_eq_false_iff.2 h.buffer
  have hinput : ShaderLine.isInput line = false := by
    rw [← Bool.not_eq_true]
    intro hinput
    simp only [ShaderLine.isInput, Bool.and_eq_true, Bool.not_eq_true', has_iff_infix,
      has_eq_false_iff] at hinput
    exact hinput.2 ((h.parameter hinput.1.2).2 hinput.1.1)
  have houtput : ShaderLine.isOutput line = false := by
    rw [← Bool.not_eq_true]
    intro houtput
    simp only [ShaderLine.isOutput, Bool.and_eq_true, has_iff_infix] at houtput
    exact (h.parameter houtput.2).1 houtput.1
  simp [DeclarationKind.ofLine?_eq, htexture, hsampler, hbuffer, hinput, houtput]

namespace HeaderItem

variable {item : HeaderItem}

/-- No item opens the body. -/
theorem opensBody_firstLine (h : item.IsSpelled) : ShaderLine.opensBody item.firstLine = false := by
  cases item with
  | texture dimension elementType register =>
    exact has_eq_false_of_not_mem (c := ',') (by decide)
      (not_mem_textureLine (by decide) h.1 h.2.2.1 (by decide))
  | sampler register =>
    exact has_eq_false_of_not_mem (c := ',') (by decide)
      (not_mem_samplerLine (by decide) (by decide))
  | buffer elementType register count =>
    exact has_eq_false_of_not_mem (c := ',') (by decide)
      (not_mem_bufferLine (by decide) (by decide))
  | parameter kind elementType register semantic closing =>
    obtain ⟨htype, hsemantic, -, hclosing, -⟩ := h
    exact opensBody_parameterLine htype hsemantic hclosing
  | filler line => exact has_eq_false_iff.2 h.scratch

/-! ## Reading Back -/

/-- A clear parameter is read back. -/
theorem ofLine?_parameterLine {kind : ParameterKind} {elementType semantic : Text}
    {register : Nat} {closing : Char}
    (h : (parameter kind elementType register semantic closing).IsSpelled)
    (hclear : (parameter kind elementType register semantic closing).IsClear)
    (following : List Text) :
    Declaration.ofLine? (parameterLine kind elementType register semantic closing) following
      = (parameter kind elementType register semantic closing).declaration? := by
  obtain ⟨htype, hsemantic, hregister, hclosing, hcomma⟩ := h
  obtain ⟨hkeyword, hkeyword', hstart, hstart'⟩ := hclear
  have hkind : DeclarationKind.ofLine? (parameterLine kind elementType register semantic closing)
      = some kind.lineKind :=
    (kind_parameterLine_iff htype hsemantic hclosing).2
      ⟨⟨hkeyword, hkeyword'⟩, fun hout => ⟨hstart, hstart' hout⟩⟩
  rw [Declaration.ofLine?_of_kind hkind]
  -- An input is read up to its comma, an output up to the last character of its line.
  cases kind with
  | input =>
    obtain rfl := hcomma rfl
    rw [ParameterKind.lineKind, DeclarationKind.read?,
      input?_parameterLine htype hstart hsemantic hregister]
    rfl
  | output =>
    rw [ParameterKind.lineKind, DeclarationKind.read?,
      output?_parameterLine htype hsemantic hregister hclosing]
    rfl

/-- An item is read back if it is clear. -/
theorem ofLine?_of_isClear (h : item.IsSpelled) (hclear : item.IsClear) (following : List Text) :
    Declaration.ofLine? item.firstLine (item.otherLines ++ following) = item.declaration? := by
  cases item with
  | texture dimension elementType register =>
    obtain ⟨hdimension, hkeyword, htype, hregister⟩ := h
    rw [firstLine, Declaration.ofLine?_of_kind (kind_textureLine hkeyword elementType register),
      DeclarationKind.read?, texture?_textureLine hdimension htype hregister]
    rfl
  | sampler register =>
    have hdigit : register % 10 = register := Nat.mod_eq_of_lt (Nat.lt_succ_of_le h)
    rw [firstLine, Declaration.ofLine?_of_kind (kind_samplerLine register),
      DeclarationKind.read?, sampler?_samplerLine, hdigit]
    rfl
  | buffer elementType register count =>
    obtain ⟨htype, hfree, hregister, hcount⟩ := h
    rw [firstLine, Declaration.ofLine?_of_kind (kind_bufferLine register), otherLines,
      DeclarationKind.read?]
    -- The array is the second line after the first.
    simp only [List.cons_append, List.getElem?_cons_succ, List.getElem?_cons_zero,
      Option.bind_some, constantBuffer?_arrayLine htype hfree hregister hcount]
    rfl
  | parameter kind elementType register semantic closing =>
    exact ofLine?_parameterLine h hclear _
  | filler line =>
    rw [firstLine, Declaration.ofLine?, IsFiller.kind_eq_none h]
    rfl

/-! ## Misreading -/

/-- A parameter that is taken for an input but is not clear is read as a stray input. -/
theorem isStray_of_not_isClear {kind : ParameterKind} {elementType semantic : Text}
    {register : Nat} {closing : Char}
    (h : (parameter kind elementType register semantic closing).IsSpelled)
    (hclear : ¬ (parameter kind elementType register semantic closing).IsClear)
    {input : StageParameter} {following : List Text}
    (hread : Declaration.ofLine? (parameterLine kind elementType register semantic closing)
      following = some (.input input)) : input.IsStray := by
  obtain ⟨htype, hsemantic, hregister, hclosing, -⟩ := h
  have hkind := Declaration.kind_of_ofLine? hread
  rw [Declaration.ofLine?_of_kind hkind] at hread
  obtain ⟨_, hinput, hsome⟩ := Option.map_eq_some_iff.1 hread
  cases hsome
  by_cases htypeStart : elementType.head? = some 'v'
  · exact isStray_of_type htype htypeStart hinput
  · cases kind with
    | input =>
      -- An input of its own kind is clear unless its type starts with the letter.
      obtain ⟨⟨hkeyword, hkeyword'⟩, -⟩ := (kind_parameterLine_iff htype hsemantic hclosing).1 hkind
      exact absurd ⟨hkeyword, hkeyword', htypeStart, fun hout => by cases hout⟩ hclear
    | output =>
      have hrecognised := (isInput_parameterLine htype hsemantic hclosing).1
        (DeclarationKind.recognises_of_ofLine? hkind)
      have hstart : semantic.head? = some 'v' := by
        rcases hrecognised with hstart | hkind | hstart
        · exact absurd hstart htypeStart
        · cases hkind
        · exact hstart
      exact isStray_of_semantic htype htypeStart hstart hinput

/-- A parameter that is taken for an output is clear. -/
theorem isClear_of_output {kind : ParameterKind} {elementType semantic : Text}
    {register : Nat} {closing : Char}
    (h : (parameter kind elementType register semantic closing).IsSpelled)
    (hkind : DeclarationKind.ofLine? (parameterLine kind elementType register semantic closing)
      = some .output) : (parameter kind elementType register semantic closing).IsClear := by
  obtain ⟨htype, hsemantic, -, hclosing, -⟩ := h
  -- A line of an input is not taken for an output.
  cases kind with
  | input =>
    have hinput : ShaderLine.isInput (parameterLine .input elementType register semantic closing)
        = true :=
      (isInput_parameterLine htype hsemantic hclosing).2 (.inr (.inl rfl))
    rw [DeclarationKind.ofLine?_eq, if_pos hinput] at hkind
    repeat' split at hkind
    all_goals cases hkind
  | output =>
    obtain ⟨⟨hkeyword, hkeyword'⟩, hstart⟩ :=
      (kind_parameterLine_iff htype hsemantic hclosing).1 hkind
    exact ⟨hkeyword, hkeyword', (hstart rfl).1, fun _ => (hstart rfl).2⟩

/-- An item that is not clear is skipped, read as a stray input or read as a constant buffer. -/
theorem ofLine?_of_not_isClear (h : item.IsSpelled) (hclear : ¬ item.IsClear)
    (following : List Text) :
    Declaration.ofLine? item.firstLine following = none
      ∨ (∃ input : StageParameter, input.IsStray
          ∧ Declaration.ofLine? item.firstLine following = some (.input input))
      ∨ ∃ buffer, Declaration.ofLine? item.firstLine following = some (.constantBuffer buffer) := by
  cases item with
  | texture | sampler | buffer | filler => exact absurd trivial hclear
  | parameter kind elementType register semantic closing =>
    obtain ⟨htype, hsemantic, -, hclosing, -⟩ := id h
    rw [firstLine]
    cases hread : Declaration.ofLine? (parameterLine kind elementType register semantic closing)
        following with
    | none => exact .inl rfl
    | some declaration =>
      have hkind := Declaration.kind_of_ofLine? hread
      -- A parameter lacks the delimiters of a texture and of a sampler.
      cases declaration with
      | texture texture =>
        rw [Declaration.ofLine?_of_kind hkind, Declaration.kind, DeclarationKind.read?,
          texture?_parameterLine htype hsemantic hclosing] at hread
        cases hread
      | sampler slot =>
        rw [Declaration.ofLine?_of_kind hkind, Declaration.kind, DeclarationKind.read?,
          sampler?_parameterLine htype hsemantic hclosing] at hread
        cases hread
      | constantBuffer buffer => exact .inr (.inr ⟨buffer, rfl⟩)
      | input input => exact .inr (.inl ⟨input, isStray_of_not_isClear h hclear hread, rfl⟩)
      | output output => exact absurd (isClear_of_output h hkind) hclear

end HeaderItem

end MaterialNode
