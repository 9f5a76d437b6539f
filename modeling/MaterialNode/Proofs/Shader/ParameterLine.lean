import MaterialNode.Proofs.Shader.DeclarationKind
import MaterialNode.Proofs.Text.Identifier

/-!
# Written Stage Parameters

Stage inputs and outputs as the disassembler writes them. A parameter has no keyword of its own
that only it has, so its fields can mislead the reader: a type or semantic that holds the keyword
of another kind takes the line to that kind, and one that starts with a `v` makes the line look
like an input. Parameters whose fields do neither are read back.
-/

namespace MaterialNode

open Text

/-! ## Lines -/

/-- The two kinds of stage parameters. -/
inductive ParameterKind where
  /-- A stage input. -/
  | input
  /-- A stage output. -/
  | output
  deriving DecidableEq

namespace ParameterKind

/-- What stands before the type of a parameter, without the space that parts them. -/
def opening : ParameterKind → Text
  | .input => " "
  | .output => "  out"

/-- The letter that the name of a parameter starts with. -/
def letter : ParameterKind → Char
  | .input => 'v'
  | .output => 'o'

/-- The declaration of a parameter. -/
def declaration : ParameterKind → StageParameter → Declaration
  | .input => .input
  | .output => .output

/-- The kind of line that a parameter is meant to be. -/
def lineKind : ParameterKind → DeclarationKind
  | .input => .input
  | .output => .output

end ParameterKind

/-- A stage parameter as it is written, with the character that ends it. -/
def parameterLine (kind : ParameterKind) (elementType : Text) (register : Nat) (semantic : Text)
    (closing : Char) : Text :=
  kind.opening ++ " " ++ elementType ++ " " ++ kind.letter :: ofNat register ++ " : " ++ semantic
    ++ [closing]

/-- A parameter ends in a comma or, if it is the last, in a parenthesis. -/
def EndsParameter (closing : Char) : Prop := closing = ',' ∨ closing = ')'

instance (closing : Char) : Decidable (EndsParameter closing) :=
  inferInstanceAs (Decidable (_ ∨ _))

variable {kind : ParameterKind} {pattern elementType semantic : Text} {register : Nat}
  {closing : Char}

/-- What stands before a type holds nothing but spaces and the word `out`. -/
theorem ParameterKind.not_mem_opening {mark : Char} (h : mark ∉ (" out" : Text)) :
    mark ∉ kind.opening := by
  cases kind <;> simp_all [ParameterKind.opening]

theorem ParameterKind.ne_letter {mark : Char} (h : mark ∉ ("vo" : Text)) : mark ≠ kind.letter := by
  cases kind <;> simp_all [ParameterKind.letter]

/-- The name of a parameter is an identifier. -/
theorem ParameterKind.isIdentifier_name (kind : ParameterKind) (register : Nat) :
    IsIdentifier (kind.letter :: Text.ofNat register) := by
  cases kind <;> exact isIdentifier_registerName (by decide) register

/-- A parameter has a keyword exactly when its type or its semantic has it. The keyword lacks
the fixed characters of the line, and one of its characters stands in no name. -/
theorem has_parameterLine (mark : Char) (hmark : mark ∈ pattern) (hfixed : mark ∉ (" outv" : Text))
    (hdigit : isDigit mark = false) (hpattern : ∀ c ∈ (" :,)" : Text), c ∉ pattern)
    (hclosing : EndsParameter closing) :
    has (parameterLine kind elementType register semantic closing) pattern
      = (has elementType pattern || has semantic pattern) := by
  have hspace : ' ' ∉ pattern := hpattern ' ' (by decide)
  have hcolon : ':' ∉ pattern := hpattern ':' (by decide)
  have hend : closing ∉ pattern := by
    rcases hclosing with rfl | rfl
    · exact hpattern ',' (by decide)
    · exact hpattern ')' (by decide)
  have hopening : has kind.opening pattern = false :=
    has_eq_false_of_not_mem hmark (ParameterKind.not_mem_opening (by simp_all))
  have hname : has (kind.letter :: ofNat register) pattern = false := by
    refine has_eq_false_of_not_mem hmark ?_
    rw [List.mem_cons, not_or]
    exact ⟨ParameterKind.ne_letter (by simp_all), (isDigits_ofNat register).not_mem hdigit⟩
  have hnil : has [] pattern = false := has_eq_false_of_not_mem hmark (by simp)
  -- The pattern lacks the characters between the pieces, so it stands in one of them.
  have hline : parameterLine kind elementType register semantic closing
      = kind.opening ++ ' ' :: (elementType ++ ' ' :: (kind.letter :: ofNat register
        ++ ' ' :: ([] ++ ':' :: ([] ++ ' ' :: (semantic ++ closing :: []))))) := by
    simp [parameterLine]
  rw [hline, has_append_cons hspace, has_append_cons hspace, has_append_cons hspace,
    has_append_cons hcolon, has_append_cons hspace, has_append_cons hend, hopening, hname, hnil]
  simp

/-- A parameter holds no character that stands neither in a name nor between its fields. -/
theorem not_mem_parameterLine (htype : IsIdentifier elementType)
    (hsemantic : IsIdentifier semantic) (hclosing : EndsParameter closing) {mark : Char}
    (hname : isNameCharacter mark = false) (hfixed : mark ∉ (" :,)" : Text)) :
    mark ∉ parameterLine kind elementType register semantic closing := by
  have hword : mark ∉ ("outv" : Text) := IsIdentifier.not_mem (by decide) hname
  have hdigits : mark ∉ ofNat register := (isIdentifier_ofNat register).not_mem hname
  have hend : mark ≠ closing := by
    rcases hclosing with rfl | rfl <;> simp_all
  have hopening : mark ∉ kind.opening := ParameterKind.not_mem_opening (by simp_all)
  have hletter : mark ≠ kind.letter := ParameterKind.ne_letter (by simp_all)
  simp_all [parameterLine, htype.not_mem hname, hsemantic.not_mem hname]

/-- A parameter does not open the body. -/
theorem opensBody_parameterLine (htype : IsIdentifier elementType)
    (hsemantic : IsIdentifier semantic) (hclosing : EndsParameter closing) :
    ShaderLine.opensBody (parameterLine kind elementType register semantic closing) = false := by
  -- The line without its last character, which may be the comma of the scratch registers.
  obtain ⟨start, hstart⟩ : ∃ start, start = kind.opening ++ " " ++ elementType ++ " "
      ++ kind.letter :: ofNat register ++ " : " ++ semantic := ⟨_, rfl⟩
  have hcomma : ',' ∉ start := by
    rw [hstart]
    simp only [List.mem_append, not_or]
    exact ⟨⟨⟨⟨⟨⟨ParameterKind.not_mem_opening (by decide), by decide⟩,
      htype.not_mem (by decide)⟩, by decide⟩, (kind.isIdentifier_name register).not_mem (by decide)⟩,
      by decide⟩, hsemantic.not_mem (by decide)⟩
  have hline : parameterLine kind elementType register semantic closing = start ++ [closing] := by
    rw [hstart]
    rfl
  rw [hline, ShaderLine.opensBody, has_eq_false_iff, List.infix_concat_iff]
  rintro (⟨tail, htail⟩ | hpart)
  · -- The scratch registers end in a digit.
    have hlast := congrArg List.getLast? htail
    simp [ShaderLine.scratchRegisters] at hlast
    rcases hclosing with rfl | rfl <;> simp at hlast
  · exact hcomma (hpart.subset (by decide))

/-- The colon after a name is found there if no colon comes before. -/
theorem cut?_colon_append {left : Text} (hleft : ':' ∉ left) (rest : Text) :
    cut? " : " (left ++ kind.letter :: (ofNat register ++ (" : " ++ rest)))
      = some (left ++ kind.letter :: ofNat register, rest) := by
  have hnone : has left [' ', ':', ' '] = false := has_eq_false_of_not_mem (by decide) hleft
  have hletter : kind.letter ∉ [' ', ':', ' '] := by cases kind <;> decide
  change cut? [' ', ':', ' '] _ = _
  rw [cut?_append_cons hletter hnone,
    cut?_append _ ((isIdentifier_ofNat register).not_mem (by decide))]
  change ((cut? [' ', ':', ' '] ([' ', ':', ' '] ++ rest)).map _).map _ = _
  rw [cut?_self_append]
  simp

/-- The colon of a parameter is found after its name. -/
theorem cut?_colon_parameterLine (htype : IsIdentifier elementType) :
    cut? " : " (parameterLine kind elementType register semantic closing)
      = some (kind.opening ++ ' ' :: (elementType ++ ' ' :: kind.letter :: ofNat register),
          semantic ++ [closing]) := by
  have hline : parameterLine kind elementType register semantic closing
      = kind.opening ++ ' ' :: (elementType ++ [' ']) ++ kind.letter :: (ofNat register
        ++ (" : " ++ (semantic ++ [closing]))) := by
    simp [parameterLine]
  have hcolon : ':' ∉ kind.opening ++ ' ' :: (elementType ++ [' ']) := by
    have hopening : ':' ∉ kind.opening := ParameterKind.not_mem_opening (by decide)
    simpa [hopening] using htype.not_mem (by decide)
  rw [hline, cut?_colon_append hcolon]
  simp

/-- A parameter looks like an input exactly when its type, its name or its semantic starts with
a `v`. -/
theorem isInput_parameterLine (htype : IsIdentifier elementType)
    (hsemantic : IsIdentifier semantic) (hclosing : EndsParameter closing) :
    ShaderLine.isInput (parameterLine kind elementType register semantic closing) = true
      ↔ elementType.head? = some 'v' ∨ kind = .input ∨ semantic.head? = some 'v' := by
  have hcolon : has (parameterLine kind elementType register semantic closing) " : " = true := by
    rw [has, cut?_colon_parameterLine htype]
    rfl
  have hquestion : has (parameterLine kind elementType register semantic closing) "?" = false := by
    rw [has_parameterLine '?' (by decide) (by decide) (by decide) (by simp) hclosing,
      has_eq_false_of_not_mem (c := '?') (by decide) (htype.not_mem (by decide)),
      has_eq_false_of_not_mem (c := '?') (by decide) (hsemantic.not_mem (by decide))]
    rfl
  have hline : parameterLine kind elementType register semantic closing
      = kind.opening ++ ' ' :: (elementType ++ ' ' :: (kind.letter :: ofNat register
        ++ ' ' :: ([':'] ++ ' ' :: (semantic ++ [closing])))) := by
    simp [parameterLine]
  -- Apart from the four spaces no piece of the line holds both characters of the pair.
  have hpair : ∀ {text : Text}, ' ' ∉ text → ¬ [' ', 'v'] <:+: text := fun h hpart =>
    h (hpart.subset (by simp))
  have hopening : ¬ [' ', 'v'] <:+: kind.opening := fun hpart =>
    ParameterKind.not_mem_opening (show 'v' ∉ (" out" : Text) by decide)
      (hpart.subset (by simp))
  have hname : ' ' ∉ kind.letter :: ofNat register :=
    (kind.isIdentifier_name register).not_mem (by decide)
  have hsingle : ¬ [' ', 'v'] <:+: [':'] := hpair (by decide)
  have hend : ' ' ∉ semantic ++ [closing] := by
    rw [List.mem_append, List.mem_singleton, not_or]
    refine ⟨hsemantic.not_mem (by decide), ?_⟩
    rcases hclosing with rfl | rfl <;> decide
  have hletter : kind.letter = 'v' ↔ kind = .input := by cases kind <;> decide
  rw [ShaderLine.isInput, hcolon, hquestion, Bool.and_true, Bool.not_false, Bool.and_true,
    has_iff_infix, hline]
  change [' ', 'v'] <:+: _ ↔ _
  rw [pair_infix_append_cons_iff (by decide), pair_infix_append_cons_iff (by decide),
    pair_infix_append_cons_iff (by decide), pair_infix_append_cons_iff (by decide),
    htype.head?_append, hsemantic.head?_append]
  simp [hpair (htype.not_mem (by decide)), hpair hname, hpair hend, hopening, hsingle, hletter]

theorem isOutput_parameterLine (htype : IsIdentifier elementType) :
    ShaderLine.isOutput (parameterLine .output elementType register semantic closing) = true := by
  have hout : has (parameterLine .output elementType register semantic closing) "out" = true := by
    refine has_iff_infix.2 ⟨"  ", " " ++ elementType ++ " " ++ 'o' :: ofNat register ++ " : " ++ semantic
      ++ [closing], by simp [parameterLine, ParameterKind.opening, ParameterKind.letter]⟩
  rw [ShaderLine.isOutput, hout, has, cut?_colon_parameterLine htype]
  rfl

/-- A word that holds no keyword of a texture, a sampler or a constant buffer. -/
structure HasNoKeyword (word : Text) : Prop where
  /-- The word does not hold the keyword of a texture. -/
  texture : ¬ ("Texture" : Text) <:+: word
  /-- The word does not hold the keyword of a sampler. -/
  sampler : ¬ ("SamplerState" : Text) <:+: word
  /-- The word does not hold the keyword of a constant buffer. -/
  buffer : ¬ ("cbuffer" : Text) <:+: word

instance (word : Text) : Decidable (HasNoKeyword word) :=
  decidable_of_iff (has word "Texture" = false ∧ has word "SamplerState" = false
      ∧ has word "cbuffer" = false) <| by
    simp only [has_eq_false_iff]
    exact ⟨fun h => ⟨h.1, h.2.1, h.2.2⟩, fun h => ⟨h.texture, h.sampler, h.buffer⟩⟩

/-- Two words hold no keyword exactly when none of the three tests finds one. -/
theorem hasNoKeyword_and_iff {first second : Text} : HasNoKeyword first ∧ HasNoKeyword second ↔
    (has first "Texture" || has second "Texture") = false
      ∧ (has first "SamplerState" || has second "SamplerState") = false
      ∧ (has first "cbuffer" || has second "cbuffer") = false := by
  simp only [Bool.or_eq_false_iff, has_eq_false_iff]
  constructor
  · rintro ⟨h, h'⟩
    exact ⟨⟨h.texture, h'.texture⟩, ⟨h.sampler, h'.sampler⟩, ⟨h.buffer, h'.buffer⟩⟩
  · rintro ⟨⟨ht, ht'⟩, ⟨hs, hs'⟩, ⟨hb, hb'⟩⟩
    exact ⟨⟨ht, hs, hb⟩, ⟨ht', hs', hb'⟩⟩

/-- A parameter goes to its own kind exactly when its fields hold no keyword and, for an output,
do not start with a `v`. -/
theorem kind_parameterLine_iff (htype : IsIdentifier elementType)
    (hsemantic : IsIdentifier semantic) (hclosing : EndsParameter closing) :
    DeclarationKind.ofLine? (parameterLine kind elementType register semantic closing)
        = some kind.lineKind
      ↔ (HasNoKeyword elementType ∧ HasNoKeyword semantic)
        ∧ (kind = .output → elementType.head? ≠ some 'v' ∧ semantic.head? ≠ some 'v') := by
  have hinput : ShaderLine.isInput (parameterLine kind elementType register semantic closing)
      = true ↔ elementType.head? = some 'v' ∨ kind = .input ∨ semantic.head? = some 'v' :=
    isInput_parameterLine htype hsemantic hclosing
  rw [DeclarationKind.ofLine?_eq, ShaderLine.isTexture, ShaderLine.isSampler,
    ShaderLine.isConstantBuffer,
    has_parameterLine 'T' (by decide) (by decide) (by decide) (by simp) hclosing,
    has_parameterLine 'S' (by decide) (by decide) (by decide) (by simp) hclosing,
    has_parameterLine 'c' (by decide) (by decide) (by decide) (by simp) hclosing,
    hasNoKeyword_and_iff]
  -- Each keyword takes the line away from its own kind; without any the letters decide.
  cases has elementType "Texture" || has semantic "Texture" with
  | true => cases kind <;> simp [ParameterKind.lineKind]
  | false =>
    cases has elementType "SamplerState" || has semantic "SamplerState" with
    | true => cases kind <;> simp [ParameterKind.lineKind]
    | false =>
      cases has elementType "cbuffer" || has semantic "cbuffer" with
      | true => cases kind <;> simp [ParameterKind.lineKind]
      | false =>
        cases kind with
        | input => simp [ParameterKind.lineKind, hinput]
        | output => simp [ParameterKind.lineKind, hinput, isOutput_parameterLine htype]

/-! ## Reading -/

/-- An input is read up to the first comma of what follows its colon, if its type does not start
with the letter of its name. -/
theorem input?_parameterLine_upTo (htype : IsIdentifier elementType)
    (hstart : elementType.head? ≠ some 'v') (hregister : register < registerBound)
    (semantic : Text) (closing : Char) :
    ShaderLine.input? (parameterLine .input elementType register semantic closing)
      = some ⟨'v' :: ofNat register, elementType, register,
          trim (upTo (semantic ++ [closing]) ",")⟩ := by
  -- The second space is followed by the type, which does not start with the letter.
  have hnameCut : cut? " v" (parameterLine .input elementType register semantic closing)
      = some ("  " ++ elementType, ofNat register ++ (" : " ++ (semantic ++ [closing]))) := by
    have hline : parameterLine .input elementType register semantic closing
        = ' ' :: ' ' :: (elementType
          ++ ([' ', 'v'] ++ (ofNat register ++ (" : " ++ (semantic ++ [closing]))))) := by
      simp [parameterLine, ParameterKind.opening, ParameterKind.letter]
    change cut? [' ', 'v'] _ = _
    rw [hline, cut?_cons_skip (by simp),
      cut?_cons_append [] htype.ne_nil (htype.not_mem (by decide)) hstart, cut?_self_append]
    simp
  have hcolonCut : cut? " : " (ofNat register ++ (" : " ++ (semantic ++ [closing])))
      = some (ofNat register, semantic ++ [closing]) :=
    cut?_eq_some ' ' rfl ((isIdentifier_ofNat register).not_mem (by decide)) rfl
  have hnumber : registerNumber ('v' :: ofNat register) 1 = register :=
    registerNumber_append_ofNat ['v'] (by decide) hregister
  have htrim : trim ("  " ++ elementType) = elementType := by simp [htype.trim_eq]
  have hname : "v" ++ ofNat register = 'v' :: ofNat register := by simp
  have hdigits : upTo (ofNat register ++ (" : " ++ (semantic ++ [closing]))) " : "
      = ofNat register := by
    rw [upTo, before?, hcolonCut]
    rfl
  simp only [ShaderLine.input?, before?, after?, hnameCut, hdigits,
    cut?_colon_parameterLine htype, Option.map_some, Option.bind_eq_bind, Option.bind_some,
    (isIdentifier_ofNat register).trim_eq, htrim, hname, hnumber]
  rfl

/-- An input that ends in a comma is read back if its type does not start with the letter of its
name. -/
theorem input?_parameterLine (htype : IsIdentifier elementType)
    (hstart : elementType.head? ≠ some 'v') (hsemantic : IsIdentifier semantic)
    (hregister : register < registerBound) :
    ShaderLine.input? (parameterLine .input elementType register semantic ',')
      = some ⟨'v' :: ofNat register, elementType, register, semantic⟩ := by
  have hcommaCut : cut? "," (semantic ++ [',']) = some (semantic, []) :=
    cut?_eq_some ',' rfl (hsemantic.not_mem (by decide)) (by simp)
  have hcomma : upTo (semantic ++ [',']) "," = semantic := by
    rw [upTo, before?, hcommaCut]
    rfl
  rw [input?_parameterLine_upTo htype hstart hregister, hcomma, hsemantic.trim_eq]

/-- An input that ends in a parenthesis keeps the parenthesis in its semantic: there is no comma to
end it. -/
theorem input?_parameterLine_parenthesis (htype : IsIdentifier elementType)
    (hstart : elementType.head? ≠ some 'v') (hsemantic : IsIdentifier semantic)
    (hregister : register < registerBound) :
    ShaderLine.input? (parameterLine .input elementType register semantic ')')
      = some ⟨'v' :: ofNat register, elementType, register, semantic ++ [')']⟩ := by
  have hcomma : ',' ∉ semantic ++ [')'] := by
    rw [List.mem_append, not_or]
    exact ⟨hsemantic.not_mem (by decide), by decide⟩
  have hnone : before? (semantic ++ [')']) "," = none := by
    rw [before?, Option.map_eq_none_iff, cut?_eq_none_iff, ← has_eq_false_iff]
    exact has_eq_false_of_not_mem (c := ',') (by decide) hcomma
  have hblank : ∀ c ∈ semantic ++ [')'], isBlank c = false := by
    intro c hc
    rcases List.mem_append.1 hc with hc | hc
    · exact isBlank_eq_false_of_isNameCharacter (hsemantic.all_name c hc)
    · obtain rfl := List.mem_singleton.1 hc
      decide
  rw [input?_parameterLine_upTo htype hstart hregister, upTo, hnone, Option.getD_none,
    trim_eq_self hblank]

/-- An input that is the declaration of no input line: its type is missing or has a colon, or its
name has the letter of an output. -/
def StageParameter.IsStray (input : StageParameter) : Prop :=
  input.elementType = [] ∨ ':' ∈ input.elementType ∨ 'o' ∈ input.name

/-- What an input line declares is no stray input. -/
theorem not_isStray (htype : IsIdentifier elementType) (slot : Nat) (semantic : Text) :
    ¬ StageParameter.IsStray ⟨'v' :: ofNat register, elementType, slot, semantic⟩ := by
  rintro (hnil | hcolon | hletter)
  · exact htype.ne_nil hnil
  · exact htype.not_mem (by decide) hcolon
  · rcases List.mem_cons.1 hletter with hletter | hletter
    · revert hletter
      decide
    · exact (isDigits_ofNat register).not_mem (by decide) hletter

/-- A parameter whose type starts with the letter of an input is read as a stray input if it is
read as an input at all: the name is looked for inside the type. -/
theorem isStray_of_type (htype : IsIdentifier elementType)
    (hstart : elementType.head? = some 'v') {input : StageParameter}
    (hread : ShaderLine.input? (parameterLine kind elementType register semantic closing)
      = some input) : input.IsStray := by
  obtain ⟨tail, rfl⟩ := List.head?_eq_some_iff.1 hstart
  have hline : parameterLine kind ('v' :: tail) register semantic closing
      = kind.opening ++ ([' ', 'v'] ++ (tail ++ [' '] ++ kind.letter :: (ofNat register
        ++ (" : " ++ (semantic ++ [closing]))))) := by
    simp [parameterLine]
  have hcut : cut? " v" (parameterLine kind ('v' :: tail) register semantic closing)
      = some (kind.opening, tail ++ [' '] ++ kind.letter :: (ofNat register
        ++ (" : " ++ (semantic ++ [closing])))) := by
    change cut? [' ', 'v'] _ = _
    rw [hline]
    cases kind with
    | input =>
      change cut? [' ', 'v'] (' ' :: ([' ', 'v'] ++ _)) = _
      rw [cut?_cons_skip (by simp), cut?_self_append]
      rfl
    | output =>
      change cut? [' ', 'v'] (' ' :: ' ' :: (['o', 'u', 't'] ++ ([' ', 'v'] ++ _))) = _
      rw [cut?_cons_skip (by simp), cut?_cons_skip (by simp), cut?_append _ (by decide),
        cut?_self_append]
      rfl
  have hcolon : ':' ∉ tail ++ [' '] := by
    have hmem : ':' ∉ 'v' :: tail := htype.not_mem (by decide)
    simpa using hmem
  simp only [ShaderLine.input?, before?, after?, upTo, hcut, cut?_colon_append hcolon,
    cut?_colon_parameterLine htype, Option.map_some, Option.getD_some, Option.bind_eq_bind,
    Option.bind_some] at hread
  cases hread
  cases kind with
  | input =>
    -- Only the space before the type is left of it.
    exact .inl (show trim [' '] = [] by decide)
  | output =>
    -- The name goes on to the colon and so takes in the name of the output.
    refine .inr (.inr (List.mem_append_right _ (mem_trim (by decide) ?_)))
    simp [ParameterKind.letter]

/-- An output of which only the semantic starts with the letter of an input is read as a stray
input: the name is looked for past the colon. -/
theorem isStray_of_semantic (htype : IsIdentifier elementType)
    (htypeStart : elementType.head? ≠ some 'v') (hstart : semantic.head? = some 'v')
    {input : StageParameter}
    (hread : ShaderLine.input? (parameterLine .output elementType register semantic closing)
      = some input) : input.IsStray := by
  obtain ⟨tail, rfl⟩ := List.head?_eq_some_iff.1 hstart
  have hname : ' ' ∉ 'o' :: ofNat register :=
    (isIdentifier_registerName (by decide) register).not_mem (by decide)
  have hline : parameterLine .output elementType register ('v' :: tail) closing
      = ' ' :: ' ' :: (['o', 'u', 't'] ++ ' ' :: (elementType ++ ' ' :: ('o' :: ofNat register
        ++ ' ' :: ([':'] ++ ([' ', 'v'] ++ (tail ++ [closing])))))) := by
    simp [parameterLine, ParameterKind.opening, ParameterKind.letter]
  have hcut : cut? " v" (parameterLine .output elementType register ('v' :: tail) closing)
      = some ("  out " ++ elementType ++ " o" ++ ofNat register ++ " :", tail ++ [closing]) := by
    change cut? [' ', 'v'] _ = _
    rw [hline, cut?_cons_skip (by simp), cut?_cons_skip (by simp), cut?_append _ (by decide),
      cut?_cons_append [] htype.ne_nil (htype.not_mem (by decide)) htypeStart,
      cut?_cons_append [] (by simp) hname (by simp),
      cut?_cons_append [] (by simp) (by decide) (by simp), cut?_self_append]
    simp
  simp only [ShaderLine.input?, before?, after?, hcut, cut?_colon_parameterLine htype,
    Option.map_some, Option.bind_eq_bind, Option.bind_some] at hread
  cases hread
  -- The type takes in everything up to the semantic.
  exact .inr (.inl (mem_trim (by decide) (by simp)))

/-- An output is read back. -/
theorem output?_parameterLine (htype : IsIdentifier elementType)
    (hsemantic : IsIdentifier semantic) (hregister : register < registerBound)
    (hclosing : EndsParameter closing) :
    ShaderLine.output? (parameterLine .output elementType register semantic closing)
      = some ⟨'o' :: ofNat register, elementType, register, semantic⟩ := by
  have houtCut : cut? "out " (parameterLine .output elementType register semantic closing)
      = some ([' ', ' '], elementType
          ++ (" o" ++ (ofNat register ++ (" : " ++ (semantic ++ [closing]))))) :=
    cut?_eq_some 'o' rfl (by decide)
      (by simp [parameterLine, ParameterKind.opening, ParameterKind.letter])
  have hnameCut : cut? " o" (elementType
        ++ (" o" ++ (ofNat register ++ (" : " ++ (semantic ++ [closing])))))
      = some (elementType, ofNat register ++ (" : " ++ (semantic ++ [closing]))) :=
    cut?_eq_some ' ' rfl (htype.not_mem (by decide)) rfl
  have hcolonCut : cut? " : " (ofNat register ++ (" : " ++ (semantic ++ [closing])))
      = some (ofNat register, semantic ++ [closing]) :=
    cut?_eq_some ' ' rfl ((isIdentifier_ofNat register).not_mem (by decide)) rfl
  have hblank : isBlank closing = false := by rcases hclosing with rfl | rfl <;> decide
  have hend : (trimEnd (semantic ++ [closing])).dropLast = semantic := by
    rw [trimEnd_append_of_not_blank semantic hblank, List.dropLast_concat]
  have hnumber : registerNumber ('o' :: ofNat register) 1 = register :=
    registerNumber_append_ofNat ['o'] (by decide) hregister
  have hname : "o" ++ ofNat register = 'o' :: ofNat register := by simp
  simp only [ShaderLine.output?, before?, after?, upTo, houtCut, hnameCut, hcolonCut,
    cut?_colon_parameterLine htype, Option.map_some, Option.getD_some, Option.bind_eq_bind,
    Option.bind_some, (isIdentifier_ofNat register).trim_eq, htype.trim_eq, hend, hsemantic.trim_eq, hname, hnumber]
  rfl

theorem texture?_parameterLine (htype : IsIdentifier elementType)
    (hsemantic : IsIdentifier semantic) (hclosing : EndsParameter closing) :
    ShaderLine.texture? (parameterLine kind elementType register semantic closing) = none := by
  have hcut : cut? "<" (parameterLine kind elementType register semantic closing) = none :=
    cut?_eq_none_iff.2 fun hpart =>
      not_mem_parameterLine htype hsemantic hclosing (by decide) (by decide)
        (hpart.subset (show '<' ∈ ("<" : Text) by decide))
  rw [ShaderLine.texture?, before?, hcut]
  rfl

theorem sampler?_parameterLine (htype : IsIdentifier elementType)
    (hsemantic : IsIdentifier semantic) (hclosing : EndsParameter closing) :
    ShaderLine.sampler? (parameterLine kind elementType register semantic closing) = none := by
  have hcut : cut? "(" (parameterLine kind elementType register semantic closing) = none :=
    cut?_eq_none_iff.2 fun hpart =>
      not_mem_parameterLine htype hsemantic hclosing (by decide) (by decide)
        (hpart.subset (show '(' ∈ ("(" : Text) by decide))
  rw [ShaderLine.sampler?, after?, hcut]
  rfl

end MaterialNode
