import MaterialNode.Code.Program
import MaterialNode.Proofs.Shader.DeclaredText
import MaterialNode.Proofs.Shader.EmittedBody
import MaterialNode.Proofs.Text.Pieces

/-!
# Emitted Lines

Every step of a conversion emits lines: texts without line feeds, since the source lines, the lines
of the template and the texts that are declared have none. The contents of a finished program are
these lines joined, so the lines can be read back from them (`pieces_contents_convert`).
-/

namespace MaterialNode

open Text

/-! ## Templates -/

namespace Text

theorem stripReturn_subset (line : Text) : stripReturn line ⊆ line := by
  rw [stripReturn]
  split
  · exact List.dropLast_subset line
  · exact List.Subset.refl line

/-- Stripping the terminators of pieces leaves lines that are parts of pieces. -/
theorem exists_subset_of_mem_stripTerminators {pieces : List Text} {line : Text}
    (h : line ∈ stripTerminators pieces) : ∃ piece ∈ pieces, line ⊆ piece := by
  fun_induction stripTerminators pieces with
  | case1 => cases h
  | case2 last =>
    obtain rfl := List.mem_singleton.1 h
    exact ⟨_, List.mem_cons_self, List.Subset.refl _⟩
  | case3 piece rest _ ih =>
    rcases List.mem_cons.1 h with rfl | h
    · exact ⟨piece, List.mem_cons_self, stripReturn_subset piece⟩
    · obtain ⟨other, hother, hsubset⟩ := ih h
      exact ⟨other, List.mem_cons_of_mem piece hother, hsubset⟩

theorem isLine_of_mem_templateLines {template line : Text} (h : line ∈ templateLines template) :
    IsLine line := by
  obtain ⟨hline, -⟩ := List.mem_filter.1 h
  obtain ⟨piece, hpiece, hsubset⟩ := exists_subset_of_mem_stripTerminators hline
  -- The pieces are cut at line feeds, and stripping brings none in.
  have hfeed : IsLine piece := not_mem_of_mem_fields hpiece
  exact hfeed.of_subset hsubset

end Text

/-! ## Constant Buffers -/

/-- Numbers with six places are spelled with digits, a sign and a point, or with a word. -/
theorem Binary64.not_mem_writeSixPlaces {c : Char} (hdigit : isDigit c = false)
    (hmark : c ∉ ("-.infNaN" : Text)) (x : Binary64) : c ∉ x.writeSixPlaces := by
  have hnumber : ∀ n, c ∉ ofNat n := fun n => (isDigits_ofNat n).not_mem hdigit
  have hzeros : ∀ count, c ∉ List.replicate count '0' := by
    intro count hmem
    rw [List.eq_of_mem_replicate hmem] at hdigit
    cases hdigit
  have hword : ∀ word ⊆ ("-.infNaN" : Text), c ∉ word := fun _ hword hmem => hmark (hword hmem)
  have hmillionths : ∀ n, c ∉ writeMillionths n := by
    intro n
    have hpoint : c ≠ '.' := List.ne_of_not_mem_cons (hword ['.'] (by decide))
    simp only [writeMillionths, List.mem_append, List.mem_cons, hnumber, hpoint, hzeros, or_self,
      not_false_eq_true]
  have hmagnitude : c ∉ (if x.isFinite then writeMillionths x.millionths
      else if x.fractionField = 0 then "inf" else "NaN") := by
    split
    · exact hmillionths _
    · split
      · exact hword "inf" (by decide)
      · exact hword "NaN" (by decide)
  -- The sign is one of the marks, and so is each word for a number that is not finite.
  rw [writeSixPlaces]
  split
  · exact List.not_mem_cons_of_ne_of_not_mem
      (List.ne_of_not_mem_cons (hword ['-'] (by decide))) hmagnitude
  · exact hmagnitude

/-- Sample rows are written with digits and a few other characters. -/
theorem SampleRow.not_mem_write {c : Char} (hdigit : isDigit c = false)
    (hmark : c ∉ ("float4(-.infNaN, )" : Text)) (row : SampleRow) : c ∉ row.write := by
  have hfixed : ∀ part ⊆ ("float4(-.infNaN, )" : Text), c ∉ part :=
    fun _ hpart hmem => hmark (hpart hmem)
  -- A row is four numbers, each with a fixed text before and after it.
  have hnumber : ∀ {before after : Text} (x : Binary64), c ∉ before → c ∉ after →
      c ∉ before ++ x.writeSixPlaces ++ after := by
    intro before after x hbefore hafter
    have hplaces := x.not_mem_writeSixPlaces hdigit (hfixed _ (by decide))
    simp only [List.mem_append, hbefore, hplaces, hafter, or_self, not_false_eq_true]
  have hcomma : c ∉ (", " : Text) := hfixed _ (by decide)
  unfold write
  exact hnumber row.w (hnumber row.z (hnumber row.y (hnumber row.x (hfixed _ (by decide)) hcomma)
    hcomma) hcomma) (hfixed _ (by decide))

/-- The block of a buffer consists of lines if its type and its name are lines. -/
theorem ConstantBuffer.isLine_of_mem_block {buffer : ConstantBuffer}
    (hbuffer : ∀ text ∈ (Declaration.constantBuffer buffer).texts, IsLine text)
    {samples : Option SampleStore} {line : Text} (h : line ∈ buffer.block samples) :
    IsLine line := by
  have htype : IsLine buffer.elementType := hbuffer _ (by simp [Declaration.texts])
  have hname : IsLine buffer.name := hbuffer _ (by simp [Declaration.texts])
  have hheader : IsLine buffer.header := by
    unfold header
    simp only [isLine_append_iff, htype, hname, isLine_ofNat, and_true]
    decide
  unfold block at h
  simp only [List.mem_cons, List.mem_append, List.mem_map, List.mem_replicate, List.not_mem_nil,
    or_false] at h
  -- The lines of a block are its head, the braces and the rows between them.
  rcases h with rfl | rfl | (⟨row, -, rfl⟩ | ⟨-, rfl⟩) | rfl | rfl
  · exact hheader
  · decide
  · exact row.not_mem_write (by decide) (by decide)
  · decide
  · decide
  · decide

/-! ## Entry Points -/

namespace EntryPoint

variable {declarations : Declarations} {line : Text}

theorem isLine_textureParameter {texture : Texture}
    (htexture : ∀ text ∈ (Declaration.texture texture).texts, IsLine text) :
    IsLine (textureParameter texture) := by
  have htype : IsLine texture.elementType := htexture _ (by simp [Declaration.texts])
  have hname : IsLine texture.name := htexture _ (by simp [Declaration.texts])
  unfold textureParameter
  simp only [isLine_append_iff, htype, hname, and_true]
  decide

theorem Shape.isLine_parts (shape : Shape) :
    IsLine shape.ones ∧ IsLine shape.components ∧ IsLine shape.coordinateComponents := by
  cases shape <;> decide

/-- The inputs of supported shapes are those whose type has a shape. -/
theorem mem_shapedInputs_iff {inputs : List StageParameter} {input : StageParameter × Shape} :
    input ∈ shapedInputs inputs
      ↔ input.1 ∈ inputs ∧ Shape.ofType? input.1.elementType = some input.2 := by
  simp only [shapedInputs, List.mem_filterMap, Option.map_eq_some_iff]
  constructor
  · rintro ⟨declared, hdeclared, shape, hshape, rfl⟩
    exact ⟨hdeclared, hshape⟩
  · rintro ⟨hinput, hshape⟩
    exact ⟨input.1, hinput, input.2, hshape, rfl⟩

theorem mem_of_mem_shapedInputs {inputs : List StageParameter} {input : StageParameter × Shape}
    (h : input ∈ shapedInputs inputs) : input.1 ∈ inputs :=
  (mem_shapedInputs_iff.1 h).1

theorem isLine_of_mem_pixelLines (hdeclarations : declarations.HasLines)
    (h : line ∈ pixelLines declarations) : IsLine line := by
  -- The lines for the inputs are built from declared types and names and from fixed texts.
  have hinputs : ∀ input ∈ shapedInputs declarations.inputs, IsLine input.1.elementType
      ∧ IsLine input.1.name := by
    intro input hinput
    have hmem := mem_of_mem_shapedInputs hinput
    exact ⟨hdeclarations.inputs input.1 hmem _ (by simp [Declaration.texts]),
      hdeclarations.inputs input.1 hmem _ (by simp [Declaration.texts])⟩
  unfold pixelLines at h
  simp only [List.mem_append, List.mem_map] at h
  rcases h with (((⟨input, hinput, rfl⟩ | h) | ⟨texture, htexture, rfl⟩) | h) | ⟨input, hinput, rfl⟩
  · obtain ⟨htype, hname⟩ := hinputs input hinput
    obtain ⟨hones, -, -⟩ := input.2.isLine_parts
    unfold defaultLine
    simp only [isLine_append_iff, htype, hname, hones, and_true]
    decide
  · revert line
    decide
  · exact isLine_textureParameter (hdeclarations.textures texture htexture)
  · revert line
    decide
  · obtain ⟨-, hname⟩ := hinputs input hinput
    obtain ⟨-, hcomponents, hcoordinate⟩ := input.2.isLine_parts
    unfold scaleLine
    simp only [isLine_append_iff, hname, hcomponents, hcoordinate, and_true]
    decide

theorem isLine_of_mem_inputParameters {inputs : List StageParameter}
    (hinputs : ∀ input ∈ inputs, ∀ text ∈ (Declaration.input input).texts, IsLine text)
    (h : line ∈ inputParameters inputs) : IsLine line := by
  induction inputs with
  | nil => cases h
  | cons input inputs ih =>
    obtain ⟨hinput, hinputs⟩ := List.forall_mem_cons.1 hinputs
    rcases List.mem_cons.1 h with rfl | h
    · have htype : IsLine input.elementType := hinput _ (by simp [Declaration.texts])
      have hname : IsLine input.name := hinput _ (by simp [Declaration.texts])
      have hsemantic : IsLine input.semantic := hinput _ (by simp [Declaration.texts])
      have hmark : IsLine (if inputs.isEmpty then ")" else "," : String) := by
        split <;> decide
      simp only [isLine_append_iff, htype, hname, hsemantic, hmark, and_true]
      decide
    · exact ih hinputs h

theorem isLine_of_mem_vertexLines (hdeclarations : declarations.HasLines)
    (h : line ∈ vertexLines declarations) : IsLine line := by
  unfold vertexLines at h
  simp only [List.mem_append, List.mem_map] at h
  -- The lines in the order in which they are put together.
  rcases h with (((((h | ⟨output, houtput, rfl⟩) | h) | ⟨texture, htexture, rfl⟩) | h) | h) | h
  · revert line
    decide
  · have htype : IsLine output.elementType :=
      hdeclarations.outputs output houtput _ (by simp [Declaration.texts])
    have hname : IsLine output.name :=
      hdeclarations.outputs output houtput _ (by simp [Declaration.texts])
    unfold outputField
    simp only [isLine_append_iff, htype, hname, and_true]
    decide
  · revert line
    decide
  · exact isLine_textureParameter (hdeclarations.textures texture htexture)
  · exact isLine_of_mem_inputParameters hdeclarations.inputs h
  · split at h
    · revert line
      decide
    · cases h
  · revert line
    decide

/-- The entry point of a stage consists of lines if the declarations do. -/
theorem isLine_of_mem_lines {stage : Stage} (hdeclarations : declarations.HasLines)
    (h : line ∈ lines stage declarations) : IsLine line := by
  cases stage with
  | pixel => exact isLine_of_mem_pixelLines hdeclarations h
  | vertex => exact isLine_of_mem_vertexLines hdeclarations h

end EntryPoint

/-! ## Bodies -/

namespace SampleInstruction

/-! The pieces of a sample instruction are parts of its line. -/

theorem target_subset (line : Text) : (ofLine line).target ⊆ line :=
  (target_isPrefix line).subset

theorem coordinate_subset (line : Text) : (ofLine line).coordinate ⊆ line :=
  (coordinate_isInfix line).subset

theorem suffix_subset (line : Text) : (ofLine line).suffix ⊆ line :=
  (suffix_isSuffix line).subset

/-- A rewritten sample instruction is a line as well. -/
theorem isLine_render {line : Text} (h : IsLine line) (slots : SlotSet) :
    IsLine ((ofLine line).render slots) := by
  unfold render
  simp only [isLine_append_iff, h.of_subset (target_subset line),
    h.of_subset (coordinate_subset line), h.of_subset (suffix_subset line), isLine_ofInt, and_true,
    true_and]
  decide

end SampleInstruction

theorem Body.isLine_convertLine {line : Text} (h : IsLine line) (slots : SlotSet) :
    IsLine (convertLine slots line) := by
  unfold convertLine
  split
  · exact SampleInstruction.isLine_render h slots
  · split
    · exact h.replace (by decide)
    · exact h

/-- The window of a body shows lines of the source. -/
theorem Body.mem_of_mem_window {lines : List Text} {line : Text} (h : line ∈ window lines) :
    line ∈ lines := by
  unfold window at h
  split at h
  · exact List.mem_of_mem_drop ((List.takeWhile_prefix _).subset h)
  · cases h

/-! ## Closings -/

theorem Closing.isLine_callLine {textures : List Texture}
    (htextures : ∀ texture ∈ textures, ∀ text ∈ (Declaration.texture texture).texts, IsLine text) :
    IsLine (callLine textures) := by
  have harguments : IsLine (textures.flatMap textureArgument) := by
    intro hmem
    obtain ⟨texture, htexture, hfeed⟩ := List.mem_flatMap.1 hmem
    have hname : IsLine texture.name := htextures texture htexture _ (by simp [Declaration.texts])
    have hcomma : IsLine "," := by decide
    exact hname.append hcomma hfeed
  unfold callLine
  simp only [isLine_append_iff, harguments, and_true]
  decide

theorem Closing.isLine_of_mem_lines {stage : Stage} {declarations : Declarations}
    {template : List Text} (hdeclarations : declarations.HasLines)
    (htemplate : ∀ line ∈ template, IsLine line) {line : Text}
    (h : line ∈ lines stage declarations template) : IsLine line := by
  unfold lines at h
  simp only [List.mem_append, List.mem_map] at h
  rcases h with (⟨line, hline, rfl⟩ | h) | h
  · have hindent : IsLine indent := by decide
    exact hindent.append (htemplate line hline)
  · revert line
    decide
  · cases stage with
    | pixel =>
      simp only [List.mem_cons, List.not_mem_nil, or_false] at h
      rcases h with rfl | rfl
      · decide
      · exact isLine_callLine hdeclarations.textures
    | vertex => cases h

/-- The call is the last line of the closing of a pixel shader. -/
theorem Closing.getLast?_lines (declarations : Declarations) (template : List Text) :
    (lines .pixel declarations template).getLast? = some (callLine declarations.textures) := by
  unfold lines
  rw [List.getLast?_append]
  rfl

/-! ## Programs -/

namespace Program

/-- A finished program has emitted its buffers, its entry point, its body and its closing. -/
theorem outputLines_convert (source : Text) (stage : Stage) (samples : Option SampleStore)
    (template : List Text) :
    let declarations := Declarations.ofLines (Text.sourceLines source)
    (convert source stage samples template).outputLines
      = ConstantBuffer.blocks declarations.constantBuffers samples
        ++ EntryPoint.lines stage declarations
        ++ Body.convert (Text.sourceLines source) declarations.textures
        ++ Closing.lines stage declarations template := rfl

/-- A conversion emits lines. -/
theorem isLine_of_mem_outputLines {source : Text} {stage : Stage} {samples : Option SampleStore}
    {template : List Text} (htemplate : ∀ line ∈ template, IsLine line) {line : Text}
    (h : line ∈ (convert source stage samples template).outputLines) : IsLine line := by
  have hdeclarations : (Declarations.ofLines (Text.sourceLines source)).HasLines :=
    Declarations.hasLines_ofLines fun _ => isLine_of_mem_sourceLines
  rw [outputLines_convert] at h
  simp only [List.mem_append] at h
  rcases h with ((h | h) | h) | h
  · obtain ⟨buffer, hbuffer, hline⟩ := List.mem_flatMap.1 h
    exact ConstantBuffer.isLine_of_mem_block (hdeclarations.constantBuffers buffer hbuffer) hline
  · exact EntryPoint.isLine_of_mem_lines hdeclarations h
  · obtain ⟨line, hline, rfl⟩ := List.mem_map.1 h
    exact Body.isLine_convertLine (isLine_of_mem_sourceLines (Body.mem_of_mem_window hline)) _
  · exact Closing.isLine_of_mem_lines hdeclarations htemplate h

theorem outputLines_convert_ne_nil (source : Text) (stage : Stage) (samples : Option SampleStore)
    (template : List Text) : (convert source stage samples template).outputLines ≠ [] := by
  rw [outputLines_convert, Closing.lines.eq_def]
  simp

/-- The lines that a conversion emitted are read back from the contents: these end with a
terminator, the pieces between the terminators before it are the lines, and no line holds a line
feed. -/
theorem pieces_contents_convert (source : Text) (stage : Stage) (samples : Option SampleStore)
    (template : Text) :
    let program := convert source stage samples (templateLines template)
    (∃ body, program.contents = some (body ++ lineEnd)
        ∧ pieces lineEnd body = program.outputLines)
      ∧ ∀ line ∈ program.outputLines, IsLine line := by
  intro program
  have hlines : ∀ line ∈ program.outputLines, IsLine line := fun _ =>
    isLine_of_mem_outputLines fun _ => isLine_of_mem_templateLines
  obtain ⟨body, hbody, hpieces⟩ :=
    exists_joinLines_eq (outputLines_convert_ne_nil source stage samples _) hlines
  exact ⟨⟨body, congrArg some hbody, hpieces⟩, hlines⟩

end Program

end MaterialNode
