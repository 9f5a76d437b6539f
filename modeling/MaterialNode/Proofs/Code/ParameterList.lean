import Mathlib.Data.List.Basic
import MaterialNode.Code.EntryPoint
import MaterialNode.Proofs.Text.Cut
import MaterialNode.Proofs.Text.Fields

/-!
# Parameter Lists

The signature of an entry point has a line for each parameter, with the comma after it. The last
parameter closes the list, so a list of parameters and the signature that is read from the lines are
the same thing. A vertex shader that has textures but no inputs is the exception: no texture closes
the list, so the parenthesis comes after a comma (`isParameterList_signatureText_iff`).

## Main definitions

* `Text.linesAfter`: the lines after a given one.
* `EntryPoint.signatureText`: the text between the parentheses of `main`, without comments.
* `EntryPoint.IsParameterList`: a text is a well-formed list of parameters.
-/

namespace MaterialNode

/-! ## Passages of Lines -/

namespace Text

/-- The lines after the first one that passes a test. -/
def linesAfter (test : Text → Bool) (lines : List Text) : List Text :=
  (lines.dropWhile fun line => !test line).drop 1

theorem linesAfter_append_cons {test : Text → Bool} {before : List Text} {line : Text}
    (hbefore : ∀ line ∈ before, test line = false) (hline : test line = true)
    (rest : List Text) : linesAfter test (before ++ line :: rest) = rest := by
  have hskipped : ∀ line ∈ before, (!test line) = true := fun line hmem => by
    rw [hbefore line hmem, Bool.not_false]
  rw [linesAfter, List.dropWhile_append_of_pos hskipped,
    List.dropWhile_cons_of_neg (by rw [hline]; decide), List.drop_one, List.tail_cons]

end Text

namespace EntryPoint

open Text

/-! ## Parameters -/

/-- A parameter in a signature. -/
def parameter (elementType name : Text) : Text := "   " ++ elementType ++ " " ++ name

/-- The parameters of a vertex entry point: the textures, then the inputs. -/
def vertexParameters (declarations : Declarations) : List Text :=
  (declarations.textures.map fun texture => parameter texture.elementType texture.name)
    ++ declarations.inputs.map fun input => parameter input.elementType input.name

/-- A line without its comment and the blanks before that. -/
def withoutComment (line : Text) : Text := trimEnd (line.upTo "//")

/-- The text of a vertex signature, from the line that opens it to the brace, without comments. -/
def signatureText (lines : List Text) : Text :=
  ((linesAfter (· == ("void main(" : Text)) lines).takeWhile (· != ("\x7b" : Text))).flatMap
    withoutComment

/-- `IsParameterList parameters text` holds if a text consists of parameters in their order, with one
comma between neighbours and none after the last, and one parenthesis that closes the list. -/
structure IsParameterList (parameters : List Text) (text : Text) : Prop where
  /-- The parameters are joined by commas, and the parenthesis comes last. -/
  eq_joinWith : text = joinWith "," parameters ++ ")"
  /-- There is no other comma. -/
  count_comma : text.count ',' = parameters.length - 1
  /-- There is no other closing parenthesis. -/
  count_parenthesis : text.count ')' = 1

/-- Whether a text has none of the characters that part and close the parameters of a signature or
start a comment. -/
def IsPlain (text : Text) : Prop := Avoids ",)/" text

instance (text : Text) : Decidable (IsPlain text) :=
  inferInstanceAs (Decidable (Avoids ",)/" text))

/-- Whether the types and the names that a signature shows are plain. -/
structure HasPlainParameters (declarations : Declarations) : Prop where
  /-- The types and the names of the textures are plain. -/
  textures : ∀ texture ∈ declarations.textures, IsPlain texture.elementType ∧ IsPlain texture.name
  /-- The types and the names of the inputs are plain. -/
  inputs : ∀ input ∈ declarations.inputs, IsPlain input.elementType ∧ IsPlain input.name

/-- A parameter has no other characters than spaces and those of its type and its name. -/
theorem avoids_parameter {marks elementType name : Text} (hspace : ' ' ∉ marks)
    (htype : Avoids marks elementType) (hname : Avoids marks name) :
    Avoids marks (parameter elementType name) := by
  have hspaces : ∀ count, Avoids marks (List.replicate count ' ') := by
    intro count c hc hmem
    rw [List.eq_of_mem_replicate hmem] at hc
    exact hspace hc
  exact (((hspaces 3).append htype).append (hspaces 1)).append hname

theorem IsPlain.parameter {elementType name : Text} (htype : IsPlain elementType)
    (hname : IsPlain name) : IsPlain (parameter elementType name) :=
  avoids_parameter (by decide) htype hname

theorem HasPlainParameters.vertexParameters {declarations : Declarations}
    (h : HasPlainParameters declarations) :
    ∀ text ∈ vertexParameters declarations, IsPlain text := by
  intro text htext
  rcases List.mem_append.1 htext with htext | htext
  · obtain ⟨texture, htexture, rfl⟩ := List.mem_map.1 htext
    obtain ⟨htype, hname⟩ := h.textures texture htexture
    exact htype.parameter hname
  · obtain ⟨input, hinput, rfl⟩ := List.mem_map.1 htext
    obtain ⟨htype, hname⟩ := h.inputs input hinput
    exact htype.parameter hname

/-! ## Comments -/

/-- A line that ends with a mark after a plain text has no comment. -/
theorem withoutComment_of_isPlain {text : Text} (h : IsPlain text) {mark : Char}
    (hslash : mark ≠ '/') (hblank : isBlank mark = false) :
    withoutComment (text ++ [mark]) = text ++ [mark] := by
  have hnone : before? (text ++ [mark]) "//" = none := by
    rw [before?, Option.map_eq_none_iff, cut?_eq_none_iff, ← has_eq_false_iff]
    refine has_eq_false_of_not_mem (c := '/') (by decide) ?_
    simp [h '/' (by decide), hslash.symm]
  rw [withoutComment, upTo, hnone, Option.getD_none, trimEnd_append_of_not_blank text hblank]

/-- A comment is cut off with the blank before it. -/
theorem withoutComment_append_comment {text : Text} (h : IsPlain text) {mark : Char}
    (hslash : mark ≠ '/') (hblank : isBlank mark = false) (comment : Text) :
    withoutComment (text ++ [mark] ++ " // " ++ comment) = text ++ [mark] := by
  have hslashes : '/' ∉ text ++ [mark] ++ [' '] := by simp [h '/' (by decide), hslash.symm]
  have hline : text ++ [mark] ++ " // " ++ comment
      = text ++ [mark] ++ [' '] ++ (("//" : Text) ++ ' ' :: comment) := by simp
  have hcut : before? (text ++ [mark] ++ " // " ++ comment) "//"
      = some (text ++ [mark] ++ [' ']) := by
    rw [hline, before?_append rfl hslashes]
  rw [withoutComment, upTo, hcut, Option.getD_some, trimEnd_append_space,
    trimEnd_append_of_not_blank text hblank]

/-! ## Signatures -/

theorem inputParameters_singleton (input : StageParameter) : inputParameters [input]
    = [parameter input.elementType input.name ++ [')'] ++ " // " ++ input.semantic] := rfl

theorem inputParameters_cons (input : StageParameter) {inputs : List StageParameter}
    (hne : inputs ≠ []) : inputParameters (input :: inputs)
      = (parameter input.elementType input.name ++ [','] ++ " // " ++ input.semantic)
        :: inputParameters inputs := by
  rw [inputParameters, if_neg (mt List.isEmpty_iff.1 hne)]
  rfl

theorem head?_of_mem_inputParameters {inputs : List StageParameter} {line : Text}
    (h : line ∈ inputParameters inputs) : line.head? = some ' ' := by
  induction inputs with
  | nil => cases h
  | cons input inputs ih =>
    rcases List.mem_cons.1 h with rfl | h
    · rfl
    · exact ih h

/-- The lines of a vertex signature are those of the textures and of the inputs, and the parenthesis
if there are no inputs. -/
theorem signatureLines_vertexLines (declarations : Declarations) :
    (linesAfter (· == ("void main(" : Text)) (vertexLines declarations)).takeWhile
        (· != ("\x7b" : Text))
      = declarations.textures.map textureParameter ++ inputParameters declarations.inputs
        ++ ((if declarations.inputs.isEmpty then [")"] else []) : List Text) := by
  have hlines : vertexLines declarations
      = ([comparisonMacro, wrapperOpener] ++ declarations.outputs.map outputField ++ [[]])
        ++ "void main(".toList
        :: ((declarations.textures.map textureParameter ++ inputParameters declarations.inputs
          ++ ((if declarations.inputs.isEmpty then [")"] else []) : List Text))
          ++ ["\x7b".toList]) := by
    simp [vertexLines]
  have hbefore : ∀ line ∈ [comparisonMacro, wrapperOpener]
      ++ declarations.outputs.map outputField ++ [[]], (line == "void main(".toList) = false := by
    intro line hline
    simp only [List.mem_append, List.mem_map] at hline
    rcases hline with (hline | ⟨output, -, rfl⟩) | hline
    · revert line
      decide
    · -- The fields of the wrapper end with a semicolon, so none of them opens the signature.
      have hlast : (outputField output).getLast? = some ';' := List.getLast?_concat
      refine beq_eq_false_iff_ne.2 (ne_of_apply_ne List.getLast? ?_)
      rw [hlast]
      decide
    · revert line
      decide
  have hinner : ∀ line ∈ declarations.textures.map textureParameter
      ++ inputParameters declarations.inputs
      ++ ((if declarations.inputs.isEmpty then [")"] else []) : List Text),
      (line != "\x7b".toList) = true := by
    intro line hline
    -- What starts with a blank or is a parenthesis is no brace.
    have hblank : line.head? = some ' ' → (line != "\x7b".toList) = true := by
      intro hhead
      refine bne_iff_ne.2 (ne_of_apply_ne List.head? ?_)
      rw [hhead]
      decide
    simp only [List.mem_append, List.mem_map] at hline
    rcases hline with (⟨texture, -, rfl⟩ | hline) | hline
    · exact hblank rfl
    · exact hblank (head?_of_mem_inputParameters hline)
    · split at hline
      · obtain rfl := List.mem_singleton.1 hline
        decide
      · cases hline
  rw [hlines, linesAfter_append_cons hbefore (by decide), List.takeWhile_append_of_pos hinner]
  simp

/-- The lines of textures are their parameters, each with a comma. -/
theorem flatMap_textureParameter {textures : List Texture}
    (hplain : ∀ texture ∈ textures, IsPlain texture.elementType ∧ IsPlain texture.name) :
    (textures.map textureParameter).flatMap withoutComment
      = (textures.map fun texture => parameter texture.elementType texture.name).flatMap
          (· ++ ([','] : Text)) := by
  rw [List.flatMap_map, List.flatMap_map]
  refine List.flatMap_congr fun texture htexture => ?_
  obtain ⟨htype, hname⟩ := hplain texture htexture
  exact withoutComment_of_isPlain (htype.parameter hname) (by decide) (by decide)

/-- The lines of inputs are their parameters with commas between them and the parenthesis at the
end. -/
theorem flatMap_inputParameters {inputs : List StageParameter} (hne : inputs ≠ [])
    (hplain : ∀ input ∈ inputs, IsPlain input.elementType ∧ IsPlain input.name) :
    (inputParameters inputs).flatMap withoutComment
      = joinWith [','] (inputs.map fun input => parameter input.elementType input.name)
        ++ [')'] := by
  induction inputs with
  | nil => exact absurd rfl hne
  | cons input inputs ih =>
    obtain ⟨⟨htype, hname⟩, hinputs⟩ := List.forall_mem_cons.1 hplain
    have hparameter := htype.parameter hname
    by_cases hrest : inputs = []
    · -- The last input closes the list.
      rw [hrest, inputParameters_singleton, List.flatMap_cons, List.flatMap_nil, List.append_nil,
        withoutComment_append_comment hparameter (by decide) (by decide)]
      rfl
    · rw [inputParameters_cons _ hrest, List.flatMap_cons, ih hrest hinputs, List.map_cons,
        withoutComment_append_comment hparameter (by decide) (by decide),
        joinWith_cons _ _ (mt List.map_eq_nil_iff.1 hrest), List.append_assoc _ _ [')']]

variable {declarations : Declarations}

/-- With inputs, the text of a signature is the parameters with commas between them and the
parenthesis at the end. -/
theorem signatureText_of_inputs (h : HasPlainParameters declarations)
    (hinputs : declarations.inputs ≠ []) : signatureText (lines .vertex declarations)
      = joinWith [','] (vertexParameters declarations) ++ [')'] := by
  have hclosed : declarations.inputs.isEmpty = false := by simpa using hinputs
  rw [signatureText, lines, signatureLines_vertexLines, hclosed, List.flatMap_append,
    List.flatMap_append, flatMap_textureParameter h.textures,
    flatMap_inputParameters hinputs h.inputs, vertexParameters,
    joinWith_append_eq_flatMap _ _ (mt List.map_eq_nil_iff.1 hinputs)]
  simp

/-- Without inputs, each texture has a comma after it, and the parenthesis comes after that. -/
theorem signatureText_of_no_inputs (h : HasPlainParameters declarations)
    (hinputs : declarations.inputs = []) : signatureText (lines .vertex declarations)
      = (vertexParameters declarations).flatMap (· ++ ([','] : Text)) ++ [')'] := by
  rw [signatureText, lines, signatureLines_vertexLines, vertexParameters, hinputs,
    List.flatMap_append, List.flatMap_append, flatMap_textureParameter h.textures]
  simp [inputParameters]
  rfl

/-- Plain parameters with commas between them and a parenthesis at the end are a list of
parameters. -/
theorem isParameterList_joinWith {parameters : List Text}
    (h : ∀ parameter ∈ parameters, IsPlain parameter) :
    IsParameterList parameters (joinWith [','] parameters ++ [')']) where
  eq_joinWith := rfl
  count_comma := by
    rw [List.count_append, count_joinWith fun parameter hmem => h parameter hmem ',' (by decide)]
    rfl
  count_parenthesis := by
    have hnone : ')' ∉ joinWith [','] parameters :=
      not_mem_joinWith (by decide) fun parameter hmem => h parameter hmem ')' (by decide)
    rw [List.count_append, List.count_eq_zero.2 hnone]
    rfl

/-- The signature of a vertex shader is the list of its textures and inputs unless it has textures
and no inputs. In that case nothing but the parenthesis comes after the last comma. -/
theorem isParameterList_signatureText_iff (h : HasPlainParameters declarations) :
    (IsParameterList (vertexParameters declarations) (signatureText (lines .vertex declarations))
        ↔ declarations.textures = [] ∨ declarations.inputs ≠ [])
      ∧ (declarations.textures ≠ [] → declarations.inputs = [] →
          signatureText (lines .vertex declarations)
            = joinWith "," (vertexParameters declarations) ++ ",)") := by
  have hopen : declarations.textures ≠ [] → declarations.inputs = [] →
      signatureText (lines .vertex declarations)
        = joinWith [','] (vertexParameters declarations) ++ [',', ')'] := by
    intro htextures hinputs
    have hne : vertexParameters declarations ≠ [] := by
      simpa [vertexParameters, hinputs] using htextures
    rw [signatureText_of_no_inputs h hinputs, flatMap_append_eq_joinWith _ hne, List.append_assoc]
    rfl
  refine ⟨⟨fun hlist => ?_, fun hclosed => ?_⟩, hopen⟩
  · by_contra hnot
    obtain ⟨htextures, hinputs⟩ := not_or.1 hnot
    -- The list and what the lines make of it differ in the last comma.
    have heq := hlist.eq_joinWith
    rw [hopen htextures (not_not.1 hinputs)] at heq
    cases List.append_cancel_left heq
  · by_cases hinputs : declarations.inputs = []
    · have htextures : declarations.textures = [] := hclosed.resolve_right (not_not.2 hinputs)
      have hnone : vertexParameters declarations = [] := by simp [vertexParameters, htextures, hinputs]
      rw [signatureText_of_no_inputs h hinputs, hnone]
      exact isParameterList_joinWith (List.forall_mem_nil _)
    · rw [signatureText_of_inputs h hinputs]
      exact isParameterList_joinWith h.vertexParameters

/-- A texture and nothing else. -/
def oneTexture : Declarations :=
  { Declarations.empty with textures := [⟨"Texture2D", "float4", "t0", 0⟩] }

/-- Two textures and two inputs. -/
def texturedVertex : Declarations :=
  { Declarations.empty with
    textures := [⟨"Texture2D", "float4", "t0", 0⟩, ⟨"TextureCube", "float4", "t3", 3⟩]
    inputs := [⟨"v0", "float4", 0, "POSITION0"⟩, ⟨"v1", "float2", 1, "TEXCOORD0"⟩] }

theorem isParameterList_signatureText_texturedVertex :
    HasPlainParameters texturedVertex
      ∧ IsParameterList (vertexParameters texturedVertex)
          (signatureText (lines .vertex texturedVertex))
      ∧ HasPlainParameters oneTexture
      ∧ signatureText (lines .vertex oneTexture)
          = joinWith "," (vertexParameters oneTexture) ++ ",)" := by
  have hplain : HasPlainParameters texturedVertex := ⟨by decide, by decide⟩
  have hplainOne : HasPlainParameters oneTexture := ⟨by decide, by decide⟩
  exact ⟨hplain, (isParameterList_signatureText_iff hplain).1.2 (.inr (by decide)), hplainOne,
    (isParameterList_signatureText_iff hplainOne).2 (by decide) rfl⟩

/-- The texts that a vertex signature shows. -/
def shownTexts (declarations : Declarations) : List Text :=
  (declarations.textures.flatMap fun texture => [texture.elementType, texture.name])
    ++ declarations.inputs.flatMap fun input => [input.elementType, input.name, input.semantic]

/-- No condition on the texts that a signature shows makes it a list of parameters: that of one
texture ends in a comma and the parenthesis. -/
theorem not_forall_isParameterList_signatureText : ¬ ∀ declarations : Declarations,
    (∀ text ∈ shownTexts declarations, Avoids ",()\x7b\x7d/\n\r" text) →
      IsParameterList (vertexParameters declarations)
        (signatureText (lines .vertex declarations)) := by
  intro hall
  have hcount := (hall oneTexture (by decide)).count_comma
  exact absurd hcount (by decide +kernel)

end EntryPoint
end MaterialNode
