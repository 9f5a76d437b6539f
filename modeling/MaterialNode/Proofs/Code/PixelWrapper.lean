import MaterialNode.Proofs.Code.EmittedLines
import MaterialNode.Proofs.Code.ParameterList

/-!
# The Pixel Wrapper and its Call

The names of a pixel wrapper are spelled out in four places: the signature of `main`, the call at the
end of the code, the static defaults of the inputs before the wrapper, and the lines of `main` that
scale the inputs. Each of these is read back here from the lines alone, the way a compiler would read
them. Signature and call have the same names in the same order, and defaults and scalings have the
same inputs with as many components as their types (`isCoherentWrapper_convert`).

## Main definitions

* `EntryPoint.signatureNames?`, `EntryPoint.callNames?`: the names in a signature and in a call.
* `EntryPoint.StaticDefault.ofLine?`, `EntryPoint.Scaling.ofLine?`: what a default and a scaling say.
* `EntryPoint.IsCoherentWrapper`: what is read of a wrapper fits together.
-/

namespace MaterialNode

/-! ## Bare Names -/

namespace Text

/-- A name without any of the characters that the parts of emitted lines are told apart by. -/
structure IsBareName (text : Text) : Prop where
  /-- A name is not empty. -/
  ne_nil : text ≠ []
  /-- A bare name has no space, separator or bracket. -/
  avoids : Avoids " ,.=()\x7b\x7d" text

instance (text : Text) : Decidable (IsBareName text) :=
  decidable_of_iff (text ≠ [] ∧ Avoids " ,.=()\x7b\x7d" text)
    ⟨fun h => ⟨h.1, h.2⟩, fun h => ⟨h.ne_nil, h.avoids⟩⟩

/-- Components that are selected from a value, as they are written. -/
def selection (name components : Text) : Text := name ++ '.' :: components

namespace IsBareName

variable {name : Text}

theorem avoids_list (h : IsBareName name) : Avoids ",)" name := h.avoids.mono (by decide)

theorem words_eq (h : IsBareName name) : words name = [name] :=
  words_of_not_mem h.ne_nil (h.avoids ' ' (by decide))

theorem words_selection (h : IsBareName name) {components : Text} (hspace : ' ' ∉ components) :
    words (selection name components) = [selection name components] := by
  refine words_of_not_mem (List.append_ne_nil_of_right_ne_nil name (List.cons_ne_nil _ _)) ?_
  have hname : ' ' ∉ name := h.avoids ' ' (by decide)
  simp [selection, hname, hspace]

end IsBareName

/-- The lines up to the first one that passes a test, with that one. -/
def linesThrough (test : Text → Bool) (lines : List Text) : List Text :=
  (lines.takeWhile fun line => !test line) ++ (lines.dropWhile fun line => !test line).take 1

theorem linesThrough_append_cons {test : Text → Bool} {before : List Text} {line : Text}
    (hbefore : ∀ line ∈ before, test line = false) (hline : test line = true)
    (rest : List Text) : linesThrough test (before ++ line :: rest) = before ++ [line] := by
  have hskipped : ∀ line ∈ before, (!test line) = true := fun line hmem => by
    rw [hbefore line hmem, Bool.not_false]
  rw [linesThrough, List.takeWhile_append_of_pos hskipped, List.dropWhile_append_of_pos hskipped]
  simp [hline]

/-- The texts of a list, which commas part, up to what closes it. -/
def listed? (closer text : Text) : Option (List Text) := (before? text closer).map (fields ',')

/-- A list is read back if no text in it has a comma or the parenthesis that closes the list. -/
theorem listed?_joinWith {pieces : List Text} {closer : Text} (hne : pieces ≠ [])
    (hcloser : closer.head? = some ')') (h : ∀ piece ∈ pieces, Avoids ",)" piece) (rest : Text) :
    listed? closer (joinWith [','] pieces ++ (closer ++ rest)) = some pieces := by
  have hparenthesis : ')' ∉ joinWith [','] pieces :=
    not_mem_joinWith (by decide) fun piece hpiece => h piece hpiece ')' (by decide)
  have hcomma : ∀ piece ∈ pieces, ',' ∉ piece := fun piece hpiece => h piece hpiece ',' (by decide)
  rw [listed?, before?_append hcloser hparenthesis, Option.map_some, fields_joinWith hne hcomma]

end Text

namespace EntryPoint

open Text

/-! ## Readers -/

/-- The name in a parameter, which is the second of its two words. -/
def parameterName? (text : Text) : Option Text :=
  match words text with
  | [_, name] => some name
  | _ => none

/-- The text of the first pixel signature in some lines, which goes from the line that opens it
through the first line that ends with the coordinate and a parenthesis. -/
def pixelSignature (lines : List Text) : Text :=
  (linesThrough ("tx)" : Text).isSuffixOf
    (linesAfter (· == ("FMaterialAttributes main(" : Text)) lines)).flatten

/-- The names of the parameters in that signature. -/
def signatureNames? (lines : List Text) : Option (List Text) :=
  (listed? ")" (pixelSignature lines)).bind fun parameters => parameters.mapM parameterName?

/-- The names of the arguments in a call of the wrapper. -/
def callNames? (line : Text) : Option (List Text) :=
  (after? line "return s.main(").bind (listed? ");")

/-- What a static default says: the type and the name of an input, and how many components it
gives. -/
structure StaticDefault where
  /-- The type of the input. -/
  elementType : Text
  /-- The name of the input. -/
  name : Text
  /-- The number of components of the value. -/
  components : Nat
  deriving DecidableEq

/-- The static default in a line. Commas part the components of its value. -/
def StaticDefault.ofLine? (line : Text) : Option StaticDefault :=
  match words line with
  | keyword :: elementType :: name :: equals :: value =>
    if keyword = "static".toList ∧ equals = "=".toList then
      some ⟨elementType, name, (fields ',' value.flatten).length⟩
    else none
  | _ => none

/-- Components that are selected from a value. -/
structure Selection where
  /-- The name of the value. -/
  name : Text
  /-- The number of components. -/
  components : Nat
  deriving DecidableEq

/-- The selection in a text, a name and the letters of the components after a point. -/
def Selection.ofText? (text : Text) : Option Selection :=
  (cut? "." text).map fun parts => ⟨parts.1, parts.2.length⟩

/-- What a scaling says: components of a target are the product of other components. -/
structure Scaling where
  /-- What is assigned. -/
  target : Selection
  /-- The first factor. -/
  factor : Selection
  /-- The second factor. -/
  scale : Selection
  deriving DecidableEq

/-- The scaling in a line. -/
def Scaling.ofLine? (line : Text) : Option Scaling :=
  match words line with
  | [target, equals, factor, times, scale] =>
    if equals = "=".toList ∧ times = "*".toList then do
      return ⟨← Selection.ofText? target, ← Selection.ofText? factor,
        ← Selection.ofText? (scale.upTo ";")⟩
    else none
  | _ => none

/-! ## Coherence -/

/-- The types of inputs that have a default, with their numbers of components. -/
def componentCounts : List (Text × Nat) :=
  [("float4", 4), ("float3", 3), ("uint", 1), ("int", 1), ("float", 1)]

/-- The inputs of these types in their order, with their numbers of components. -/
def countedInputs (inputs : List StageParameter) : List (StageParameter × Nat) :=
  inputs.filterMap fun input => (componentCounts.lookup input.elementType).map fun count =>
    (input, count)

/-- The names that a call passes: those of the textures in their order and the coordinate. -/
def passedNames (textures : List Texture) : List Text := textures.map Texture.name ++ [coordinate]

/-- `IsCoherentWrapper declarations code entry` holds if the wrapper that the code has for some
declarations, with its entry point, fits together. -/
structure IsCoherentWrapper (declarations : Declarations) (code entry : List Text) : Prop where
  /-- The entry point is part of the code. -/
  entry_isInfix : entry <:+: code
  /-- The signature has the names of the textures and the coordinate. -/
  signature : signatureNames? code = some (passedNames declarations.textures)
  /-- The call at the end has the same names. -/
  call : code.getLast?.bind callNames? = some (passedNames declarations.textures)
  /-- The lines before the macro are defaults of the inputs that have one, with all components. -/
  defaults : (entry.takeWhile (· != comparisonMacro)).mapM StaticDefault.ofLine?
    = some ((countedInputs declarations.inputs).map fun input =>
        ⟨input.1.elementType, input.1.name, input.2⟩)
  /-- The lines after the scratch registers scale the same inputs, with all components. -/
  scalings : (linesAfter (· == ("  float4 o0,o1,o2;" : Text)) entry).mapM Scaling.ofLine?
    = some ((countedInputs declarations.inputs).map fun input =>
        ⟨⟨input.1.name, input.2⟩, ⟨input.1.name, input.2⟩, ⟨"tx", input.2⟩⟩)

/-- Whether the names that a pixel wrapper spells out are bare. -/
structure HasBareNames (declarations : Declarations) : Prop where
  /-- The types and the names of the textures are bare. -/
  textures : ∀ texture ∈ declarations.textures,
    IsBareName texture.elementType ∧ IsBareName texture.name
  /-- The names of the inputs are bare. -/
  inputs : ∀ input ∈ declarations.inputs, IsBareName input.name

/-! ## Signature and Call -/

/-- The types and the names of the parameters of a pixel signature. -/
def pixelParameters (textures : List Texture) : List (Text × Text) :=
  (textures.map fun texture => (texture.elementType, texture.name))
    ++ ([("float2", coordinate)] : List (Text × Text))

theorem pixelParameters_ne_nil (textures : List Texture) : pixelParameters textures ≠ [] :=
  List.append_ne_nil_of_right_ne_nil _ (List.cons_ne_nil _ _)

theorem passedNames_eq_map (textures : List Texture) :
    passedNames textures = (pixelParameters textures).map Prod.snd := by
  simp [passedNames, pixelParameters]

theorem HasBareNames.pixelParameters {declarations : Declarations} (h : HasBareNames declarations) :
    ∀ pair ∈ pixelParameters declarations.textures, IsBareName pair.1 ∧ IsBareName pair.2 := by
  intro pair hpair
  rcases List.mem_append.1 hpair with hpair | hpair
  · obtain ⟨texture, htexture, rfl⟩ := List.mem_map.1 hpair
    exact h.textures texture htexture
  · obtain rfl := List.mem_singleton.1 hpair
    decide

theorem words_parameter {elementType name : Text} (htype : IsBareName elementType)
    (hname : IsBareName name) : words (parameter elementType name) = [elementType, name] := by
  have htext : parameter elementType name
      = ' ' :: ' ' :: ' ' :: (elementType ++ ' ' :: name) := by
    unfold parameter
    simp only [List.append_assoc]
    rfl
  rw [htext, words_space_cons, words_space_cons, words_space_cons, words_append_cons,
    htype.words_eq, hname.words_eq]
  rfl

theorem parameterName?_parameter {elementType name : Text} (htype : IsBareName elementType)
    (hname : IsBareName name) : parameterName? (parameter elementType name) = some name := by
  rw [parameterName?, words_parameter htype hname]

/-- The lines of a signature are its parameters with commas between them and the parenthesis at the
end. -/
theorem flatten_signature (textures : List Texture) :
    (textures.map textureParameter ++ ["   float2 tx)".toList]).flatten
      = joinWith [','] ((pixelParameters textures).map fun pair => parameter pair.1 pair.2)
        ++ [')'] := by
  rw [pixelParameters, List.map_append, List.map_singleton,
    joinWith_append_eq_flatMap _ _ (List.cons_ne_nil _ _), List.map_map, List.flatMap_map,
    List.flatten_append, ← List.flatMap_def, List.append_assoc]
  rfl

/-- A list of parameters is read back as their names. -/
theorem names_of_joinWith {pairs : List (Text × Text)} (hne : pairs ≠ [])
    (h : ∀ pair ∈ pairs, IsBareName pair.1 ∧ IsBareName pair.2) :
    ((listed? ")" (joinWith [','] (pairs.map fun pair => parameter pair.1 pair.2) ++ [')'])).bind
        fun parameters => parameters.mapM parameterName?)
      = some (pairs.map Prod.snd) := by
  have havoids : ∀ piece ∈ pairs.map fun pair => parameter pair.1 pair.2,
      Avoids ",)" piece := by
    intro piece hpiece
    obtain ⟨pair, hpair, rfl⟩ := List.mem_map.1 hpiece
    obtain ⟨htype, hname⟩ := h pair hpair
    exact avoids_parameter (by decide) htype.avoids_list hname.avoids_list
  have hlisted : listed? ")" (joinWith [','] (pairs.map fun pair => parameter pair.1 pair.2)
      ++ [')']) = some (pairs.map fun pair => parameter pair.1 pair.2) :=
    listed?_joinWith (mt List.map_eq_nil_iff.1 hne) rfl havoids []
  have hnames : ∀ pair ∈ pairs, parameterName? (parameter pair.1 pair.2) = some pair.2 := by
    intro pair hpair
    obtain ⟨htype, hname⟩ := h pair hpair
    exact parameterName?_parameter htype hname
  rw [hlisted, Option.bind_some, mapM_map_eq_some_map hnames]

/-- The arguments of a call are the passed names with commas between them. -/
theorem callLine_eq_joinWith (textures : List Texture) :
    Closing.callLine textures
      = ("return s.main(" : Text) ++ (joinWith [','] (passedNames textures) ++ (");" : Text)) := by
  have hnames : joinWith [','] (passedNames textures)
      = textures.flatMap Closing.textureArgument ++ coordinate := by
    rw [passedNames, joinWith_append_eq_flatMap _ _ (List.cons_ne_nil _ _), List.flatMap_map]
    rfl
  rw [hnames]
  unfold Closing.callLine
  simp only [List.append_assoc]

theorem callNames?_callLine {textures : List Texture}
    (h : ∀ name ∈ passedNames textures, IsBareName name) :
    callNames? (Closing.callLine textures) = some (passedNames textures) := by
  have hne : passedNames textures ≠ [] :=
    List.append_ne_nil_of_right_ne_nil _ (List.cons_ne_nil _ _)
  have hafter : after? (Closing.callLine textures) "return s.main("
      = some (joinWith [','] (passedNames textures) ++ (");" : Text)) := by
    rw [after?, callLine_eq_joinWith, cut?_self_append]
    rfl
  have hlisted : listed? ");" (joinWith [','] (passedNames textures) ++ (");" : Text))
      = some (passedNames textures) :=
    listed?_joinWith hne rfl (fun name hname => (h name hname).avoids_list) []
  rw [callNames?, hafter, Option.bind_some, hlisted]

/-! ## Defaults and Scalings -/

/-- The numbers of components are those of the shapes. -/
theorem lookup_componentCounts (elementType : Text) : componentCounts.lookup elementType
    = (Shape.ofType? elementType).map fun shape => shape.components.length := by
  by_cases hlisted : elementType ∈ componentCounts.map Prod.fst
  · -- There are five types to look at.
    revert elementType
    decide
  · -- A type that is not listed has no shape.
    have hnone : Shape.ofType? elementType = none := by
      simp only [componentCounts, List.map_cons, List.map_nil, List.mem_cons, List.not_mem_nil,
        or_false, not_or] at hlisted
      simp only [Shape.ofType?, hlisted, if_false, or_self]
    rw [hnone, Option.map_none, List.lookup_eq_none_iff]
    intro entry hentry
    refine bne_iff_ne.2 ?_
    rintro rfl
    exact hlisted (List.mem_map_of_mem hentry)

theorem countedInputs_eq_map (inputs : List StageParameter) : countedInputs inputs
    = (shapedInputs inputs).map fun input => (input.1, input.2.components.length) := by
  rw [countedInputs, shapedInputs, List.map_filterMap]
  refine List.filterMap_congr fun input _ => ?_
  rw [lookup_componentCounts, Option.map_map, Option.map_map]
  rfl

/-- The types that have a shape are bare names. -/
theorem isBareName_of_ofType? {elementType : Text} {shape : Shape}
    (h : Shape.ofType? elementType = some shape) : IsBareName elementType := by
  have hlookup := lookup_componentCounts elementType
  rw [h, Option.map_some] at hlookup
  -- A type with a shape has an entry, and the types of all entries are bare.
  obtain ⟨before, after, hentries, -⟩ := List.lookup_eq_some_iff.1 hlookup
  have hall : ∀ entry ∈ componentCounts, IsBareName entry.1 := by decide
  exact hall (elementType, shape.components.length)
    (hentries ▸ List.mem_append_right before List.mem_cons_self)

/-- A default is read back as the type, the name and the components of its input. -/
theorem ofLine?_defaultLine {input : StageParameter × Shape}
    (htype : IsBareName input.1.elementType) (hname : IsBareName input.1.name) :
    StaticDefault.ofLine? (defaultLine input)
      = some ⟨input.1.elementType, input.1.name, input.2.components.length⟩ := by
  obtain ⟨input, shape⟩ := input
  have hline : defaultLine (input, shape) = ("static" : Text) ++ ' ' :: (input.elementType
      ++ ' ' :: (input.name ++ ' ' :: ('=' :: ' ' :: (shape.ones ++ [';'])))) := by
    unfold defaultLine
    simp only [List.append_assoc]
    rfl
  have hwords : words (defaultLine (input, shape)) = ("static" : Text) :: input.elementType
      :: input.name :: words ('=' :: ' ' :: (shape.ones ++ [';'])) := by
    rw [hline, words_append_cons, words_append_cons, words_append_cons, htype.words_eq,
      hname.words_eq]
    rfl
  rw [StaticDefault.ofLine?, hwords]
  cases shape <;> rfl

theorem ofText?_selection {name : Text} (h : IsBareName name) (components : Text) :
    Selection.ofText? (selection name components) = some ⟨name, components.length⟩ := by
  have hcut : cut? "." (selection name components) = some (name, components) :=
    cut?_eq_some '.' rfl (h.avoids '.' (by decide)) rfl
  rw [Selection.ofText?, hcut]
  rfl

/-- A scaling is read back as the components of its input, twice, and as many of the coordinate. -/
theorem ofLine?_scaleLine {input : StageParameter × Shape} (hname : IsBareName input.1.name) :
    Scaling.ofLine? (scaleLine input)
      = some ⟨⟨input.1.name, input.2.components.length⟩,
          ⟨input.1.name, input.2.components.length⟩, ⟨"tx", input.2.components.length⟩⟩ := by
  obtain ⟨input, shape⟩ := input
  have hline : scaleLine (input, shape) = ' ' :: ' ' :: (selection input.name shape.components
      ++ ' ' :: (("=" : Text) ++ ' ' :: (selection input.name shape.components
        ++ ' ' :: (("*" : Text)
          ++ ' ' :: (selection coordinate shape.coordinateComponents ++ [';']))))) := by
    unfold scaleLine selection
    simp only [List.append_assoc, List.cons_append]
    rfl
  have hinput : words (selection input.name shape.components)
      = [selection input.name shape.components] :=
    hname.words_selection (by cases shape <;> decide)
  -- The coordinate and its components are fixed texts for each shape.
  have hcoordinate : words (selection coordinate shape.coordinateComponents ++ [';'])
      = [selection coordinate shape.coordinateComponents ++ [';']] := by cases shape <;> rfl
  have hscale : Selection.ofText?
      (upTo (selection coordinate shape.coordinateComponents ++ [';']) ";")
      = some ⟨"tx", shape.components.length⟩ := by cases shape <;> rfl
  have hwords : words (scaleLine (input, shape)) = [selection input.name shape.components, "=",
      selection input.name shape.components, "*",
      selection coordinate shape.coordinateComponents ++ [';']] := by
    rw [hline, words_space_cons, words_space_cons, words_append_cons, words_append_cons,
      words_append_cons, words_append_cons, hinput, hcoordinate]
    rfl
  rw [Scaling.ofLine?, hwords]
  simp only [ofText?_selection hname, hscale]
  rfl

/-! ## The Lines of a Converted Shader -/

variable {declarations : Declarations}

/-- Texture parameters end with a comma. -/
theorem getLast?_textureParameter (texture : Texture) :
    (textureParameter texture).getLast? = some ',' := List.getLast?_concat

/-- The lines of constant buffers start with a small letter, a brace or nothing. -/
theorem head?_ne_of_mem_blocks {buffers : List ConstantBuffer} {samples : Option SampleStore}
    {line : Text} (h : line ∈ ConstantBuffer.blocks buffers samples) : line.head? ≠ some 'F' := by
  obtain ⟨buffer, -, hline⟩ := List.mem_flatMap.1 h
  unfold ConstantBuffer.block at hline
  simp only [List.mem_cons, List.mem_append, List.mem_map, List.mem_replicate, List.not_mem_nil,
    or_false] at hline
  -- The head of the block starts with its keyword, and a row with its type.
  have hkeyword : some 's' ≠ some 'F' := by decide
  have hrow : some 'f' ≠ some 'F' := by decide
  rcases hline with rfl | rfl | (⟨row, -, rfl⟩ | ⟨-, rfl⟩) | rfl | rfl
  · exact hkeyword
  · decide
  · exact hrow
  · exact hrow
  · decide
  · decide

/-- The signature of a pixel shader is found after lines that do not open one, and its names are
those that the call passes. -/
theorem signatureNames?_append (h : HasBareNames declarations) {before : List Text}
    (hbefore : ∀ line ∈ before, line.head? ≠ some 'F') (after : List Text) :
    signatureNames? (before ++ pixelLines declarations ++ after)
      = some (passedNames declarations.textures) := by
  have hsplit : before ++ pixelLines declarations ++ after
      = (before ++ (shapedInputs declarations.inputs).map defaultLine
          ++ [comparisonMacro, wrapperOpener])
        ++ "FMaterialAttributes main(".toList :: (declarations.textures.map textureParameter
          ++ "   float2 tx)".toList :: ((["\x7b", "  FMaterialAttributes output;",
            "  float4 o0,o1,o2;"] : List Text)
          ++ (shapedInputs declarations.inputs).map scaleLine ++ after)) := by
    unfold pixelLines
    simp only [List.append_assoc, List.cons_append, List.nil_append]
    rfl
  have hopener : ∀ line ∈ before ++ (shapedInputs declarations.inputs).map defaultLine
      ++ [comparisonMacro, wrapperOpener], (line == "FMaterialAttributes main(".toList) = false := by
    intro line hline
    have hhead : line.head? ≠ some 'F' := by
      simp only [List.mem_append, List.mem_map] at hline
      rcases hline with (hline | ⟨input, -, rfl⟩) | hline
      · exact hbefore line hline
      · show some 's' ≠ some 'F'
        decide
      · revert line
        decide
    exact beq_eq_false_iff_ne.2 (ne_of_apply_ne List.head? hhead)
  have hinner : ∀ line ∈ declarations.textures.map textureParameter,
      ("tx)" : Text).isSuffixOf line = false := by
    intro line hline
    obtain ⟨texture, -, rfl⟩ := List.mem_map.1 hline
    -- The line ends with its comma, so it does not end with a parenthesis.
    refine Bool.eq_false_iff.2 fun hsuffix => ?_
    obtain ⟨start, hstart⟩ := List.isSuffixOf_iff_suffix.1 hsuffix
    have hlast : (textureParameter texture).getLast? = some ')' := by
      rw [← hstart, List.getLast?_append]
      rfl
    cases hlast.symm.trans (getLast?_textureParameter texture)
  rw [signatureNames?, pixelSignature, hsplit, linesAfter_append_cons hopener (by decide),
    linesThrough_append_cons hinner (by decide), flatten_signature,
    names_of_joinWith (pixelParameters_ne_nil _) h.pixelParameters, passedNames_eq_map]

/-- The lines before the macro are the defaults of the inputs that have one. -/
theorem defaults_of_pixelLines (h : HasBareNames declarations) :
    ((pixelLines declarations).takeWhile (· != comparisonMacro)).mapM StaticDefault.ofLine?
      = some ((countedInputs declarations.inputs).map fun input =>
          ⟨input.1.elementType, input.1.name, input.2⟩) := by
  have hdefault : ∀ line ∈ (shapedInputs declarations.inputs).map defaultLine,
      (line != comparisonMacro) = true := by
    intro line hline
    obtain ⟨input, -, rfl⟩ := List.mem_map.1 hline
    exact bne_iff_ne.2 (ne_of_apply_ne List.head? (show some 's' ≠ some '#' by decide))
  have hlines : (pixelLines declarations).takeWhile (· != comparisonMacro)
      = (shapedInputs declarations.inputs).map defaultLine := by
    unfold pixelLines
    simp only [List.append_assoc, List.cons_append]
    -- The macro is the first line that is no default.
    rw [List.takeWhile_append_of_pos hdefault, List.takeWhile_cons_of_neg (by decide),
      List.append_nil]
  have hread : ∀ input ∈ shapedInputs declarations.inputs,
      StaticDefault.ofLine? (defaultLine input)
        = some ⟨input.1.elementType, input.1.name, input.2.components.length⟩ := by
    intro input hinput
    obtain ⟨hmem, hshape⟩ := mem_shapedInputs_iff.1 hinput
    exact ofLine?_defaultLine (isBareName_of_ofType? hshape) (h.inputs input.1 hmem)
  rw [hlines, mapM_map_eq_some_map hread, countedInputs_eq_map, List.map_map]
  rfl

/-- The lines after the scratch registers scale the same inputs. -/
theorem scalings_of_pixelLines (h : HasBareNames declarations) :
    (linesAfter (· == ("  float4 o0,o1,o2;" : Text)) (pixelLines declarations)).mapM
        Scaling.ofLine?
      = some ((countedInputs declarations.inputs).map fun input =>
          ⟨⟨input.1.name, input.2⟩, ⟨input.1.name, input.2⟩, ⟨"tx", input.2⟩⟩) := by
  have hsplit : pixelLines declarations
      = ((shapedInputs declarations.inputs).map defaultLine
          ++ ([comparisonMacro, wrapperOpener, "FMaterialAttributes main("] : List Text)
          ++ declarations.textures.map textureParameter
          ++ (["   float2 tx)", "\x7b", "  FMaterialAttributes output;"] : List Text))
        ++ "  float4 o0,o1,o2;".toList :: (shapedInputs declarations.inputs).map scaleLine := by
    unfold pixelLines
    simp only [List.append_assoc, List.cons_append, List.nil_append]
    rfl
  have hbefore : ∀ line ∈ (shapedInputs declarations.inputs).map defaultLine
      ++ ([comparisonMacro, wrapperOpener, "FMaterialAttributes main("] : List Text)
      ++ declarations.textures.map textureParameter
      ++ (["   float2 tx)", "\x7b", "  FMaterialAttributes output;"] : List Text),
      (line == "  float4 o0,o1,o2;".toList) = false := by
    intro line hline
    simp only [List.mem_append, List.mem_map] at hline
    rcases hline with ((⟨input, -, rfl⟩ | hline) | ⟨texture, -, rfl⟩) | hline
    · exact beq_eq_false_iff_ne.2 (ne_of_apply_ne List.head? (show some 's' ≠ some ' ' by decide))
    · revert line
      decide
    · -- The scratch registers start like a parameter, but they end with a semicolon.
      refine beq_eq_false_iff_ne.2 (ne_of_apply_ne List.getLast? ?_)
      rw [getLast?_textureParameter]
      decide
    · revert line
      decide
  have hread : ∀ input ∈ shapedInputs declarations.inputs, Scaling.ofLine? (scaleLine input)
      = some ⟨⟨input.1.name, input.2.components.length⟩,
          ⟨input.1.name, input.2.components.length⟩, ⟨"tx", input.2.components.length⟩⟩ := by
    intro input hinput
    exact ofLine?_scaleLine (h.inputs input.1 (mem_shapedInputs_iff.1 hinput).1)
  rw [hsplit, linesAfter_append_cons hbefore (by decide), mapM_map_eq_some_map hread,
    countedInputs_eq_map, List.map_map]
  rfl

/-- The wrapper of a converted pixel shader with bare names is coherent, whatever the template is:
signature and call have the same names in the same order, and defaults and scalings have the same
inputs, which are those of supported types, with all components. -/
theorem isCoherentWrapper_convert (source template : Text) (samples : Option SampleStore) :
    let program := Program.convert source .pixel samples (templateLines template)
    HasBareNames program.declarations →
      IsCoherentWrapper program.declarations (crlfLines (program.contents.getD []))
        (program.emitted .entryPoint) := by
  intro program h
  have hlines : ∀ line ∈ program.outputLines, IsLine line := fun _ =>
    Program.isLine_of_mem_outputLines fun _ => isLine_of_mem_templateLines
  have hcontents : program.contents.getD [] = joinLines program.outputLines := rfl
  -- The entry point stands between the constant buffers and the body.
  have houtput : program.outputLines
      = ConstantBuffer.blocks program.declarations.constantBuffers samples
        ++ pixelLines program.declarations
        ++ (Body.convert program.sourceLines program.declarations.textures
          ++ Closing.lines .pixel program.declarations (templateLines template)) :=
    (Program.outputLines_convert source .pixel samples _).trans (List.append_assoc _ _ _)
  have hnames : ∀ name ∈ passedNames program.declarations.textures, IsBareName name := by
    rw [passedNames_eq_map]
    intro name hname
    obtain ⟨pair, hpair, rfl⟩ := List.mem_map.1 hname
    exact (h.pixelParameters pair hpair).2
  -- The code is joined from lines, so its lines are the emitted ones.
  rw [hcontents, crlfLines_joinLines hlines, houtput]
  constructor
  case entry_isInfix =>
    exact ⟨_, _, rfl⟩
  case signature =>
    exact signatureNames?_append h (fun _ => head?_ne_of_mem_blocks) _
  case call =>
    rw [List.getLast?_append, List.getLast?_append, Closing.getLast?_lines]
    exact callNames?_callLine hnames
  case defaults =>
    exact defaults_of_pixelLines h
  case scalings =>
    exact scalings_of_pixelLines h

/-- A shader that declares a texture twice and an input of a type that has no default. -/
def mixedPixel : Text := joinWith ['\n'] ["// ps_5_0", "Texture2D<float4> t0 : register(t0);",
  "TextureCube<float4> t3 : register(t3);", "Texture2D<float4> t0 : register(t0);",
  "  float3 v1 : TEXCOORD1,", "  float2 v2 : TEXCOORD2,", "  uint v3 : TEXCOORD3,",
  "  float4 r0,r1;", "  return;"]

theorem declarations_mixedPixel : Declarations.ofLines (Text.sourceLines mixedPixel)
    = ⟨[⟨"Texture2D", "float4", "t0", 0⟩, ⟨"TextureCube", "float4", "t3", 3⟩,
        ⟨"Texture2D", "float4", "t0", 0⟩], [],
      [⟨"v1", "float3", 1, "TEXCOORD1"⟩, ⟨"v2", "float2", 2, "TEXCOORD2"⟩,
        ⟨"v3", "uint", 3, "TEXCOORD3"⟩], [], SlotSet.empty, false, []⟩ := by
  decide +kernel

/-- The wrapper of this shader has the texture twice and defaults for two of the three inputs. -/
theorem isCoherentWrapper_convert_mixedPixel :
    let program := Program.convert mixedPixel .pixel none (templateLines "return output;")
    let code := crlfLines (program.contents.getD [])
    HasBareNames program.declarations
      ∧ signatureNames? code = some (["t0", "t3", "t0", "tx"] : List Text)
      ∧ code.getLast?.bind callNames? = some (["t0", "t3", "t0", "tx"] : List Text)
      ∧ ((program.emitted .entryPoint).takeWhile (· != comparisonMacro)).mapM
          StaticDefault.ofLine? = some [⟨"float3", "v1", 3⟩, ⟨"uint", "v3", 1⟩] := by
  intro program code
  have hdeclarations : program.declarations = _ := declarations_mixedPixel
  have hbare : HasBareNames program.declarations := by
    rw [hdeclarations]
    exact ⟨by decide, by decide⟩
  have hcoherent := isCoherentWrapper_convert mixedPixel "return output;" none hbare
  have hnames : passedNames program.declarations.textures
      = (["t0", "t3", "t0", "tx"] : List Text) := by
    rw [hdeclarations]
    rfl
  have hcounted : ((countedInputs program.declarations.inputs).map fun input =>
      (⟨input.1.elementType, input.1.name, input.2⟩ : StaticDefault))
      = [⟨"float3", "v1", 3⟩, ⟨"uint", "v3", 1⟩] := by
    rw [hdeclarations]
    decide
  rw [← hnames, ← hcounted]
  exact ⟨hbare, hcoherent.signature, hcoherent.call, hcoherent.defaults⟩

end EntryPoint
end MaterialNode
