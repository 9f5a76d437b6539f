import MaterialNode.Proofs.Shader.DeclarationKind
import MaterialNode.Proofs.Shader.HeaderScan
import MaterialNode.Proofs.Text.Characters

/-!
# The Texts of a Declaration

Every text that a header declares is cut out of one source line, up to the letters that are put
before the names of registers. What no source line holds, a line feed in particular, is therefore
not in the declarations either (`hasLines_ofLines`).
-/

namespace MaterialNode

open Text

/-- The letters that are put before the names of registers. -/
def registerLetters : Text := "cbvo"

namespace Declaration

/-- The texts that a declaration holds. -/
def texts : Declaration → List Text
  | .texture declared => [declared.dimension, declared.elementType, declared.name]
  | .sampler _ => []
  | .constantBuffer declared => [declared.elementType, declared.name]
  | .input declared | .output declared => [declared.elementType, declared.name, declared.semantic]

/-- Whether the texts of a declaration are spelled with register letters and the characters of a
line. -/
def IsCutFrom (declaration : Declaration) (line : Text) : Prop :=
  ∀ text ∈ declaration.texts, text ⊆ registerLetters ++ line

end Declaration

/-! ## Single Lines -/

namespace ShaderLine

variable {line : Text}

/-- What a line holds it also holds after the register letters. -/
theorem subset_registerLetters_append {text : Text} (h : text ⊆ line) :
    text ⊆ registerLetters ++ line :=
  List.Subset.trans h (List.subset_append_right registerLetters line)

theorem trim_subset_registerLetters_append {text : Text} (h : text ⊆ line) :
    trim text ⊆ registerLetters ++ line :=
  subset_registerLetters_append (List.Subset.trans (trim_subset text) h)

/-- A name of register letters and what a line holds. -/
theorem append_subset_registerLetters_append {letters text : Text}
    (hletters : letters ⊆ registerLetters) (h : text ⊆ line) :
    letters ++ text ⊆ registerLetters ++ line := by
  refine List.append_subset.2 ⟨?_, subset_registerLetters_append h⟩
  exact List.Subset.trans hletters (List.subset_append_left registerLetters line)

theorem isCutFrom_texture {texture : Texture} (h : texture? line = some texture) :
    (Declaration.texture texture).IsCutFrom line := by
  simp only [texture?, Option.bind_eq_bind, Option.bind_eq_some_iff, Option.pure_def,
    Option.some.injEq] at h
  obtain ⟨dimension, hdimension, opened, hopened, elementType, htype, tail, htail, rfl⟩ := h
  have helement : elementType ⊆ line :=
    List.Subset.trans (subset_of_before? htype) (subset_of_after? hopened)
  have hname : tail.upTo " : " ⊆ line :=
    List.Subset.trans (upTo_subset tail " : ") (subset_of_after? htail)
  simp only [Declaration.IsCutFrom, Declaration.texts, List.forall_mem_cons]
  exact ⟨trim_subset_registerLetters_append (subset_of_before? hdimension),
    trim_subset_registerLetters_append helement, trim_subset_registerLetters_append hname, by simp⟩

theorem isCutFrom_constantBuffer {buffer : ConstantBuffer} (h : constantBuffer? line = some buffer) :
    (Declaration.constantBuffer buffer).IsCutFrom line := by
  simp only [constantBuffer?, Option.bind_eq_bind, Option.bind_eq_some_iff, Option.pure_def,
    Option.some.injEq] at h
  obtain ⟨left, hleft, tail, htail, _, -, _, -, elementType, htype, rfl⟩ := h
  have hregister : tail ⊆ line :=
    List.Subset.trans (subset_of_after? htail) (subset_of_before? hleft)
  have hname : trimEnd tail ⊆ line := List.Subset.trans (trimEnd_subset tail) hregister
  simp only [Declaration.IsCutFrom, Declaration.texts, List.forall_mem_cons]
  exact ⟨trim_subset_registerLetters_append (subset_of_before? htype),
    append_subset_registerLetters_append (by decide) hname, by simp⟩

theorem isCutFrom_input {input : StageParameter} (h : input? line = some input) :
    (Declaration.input input).IsCutFrom line := by
  simp only [input?, Option.bind_eq_bind, Option.bind_eq_some_iff, Option.pure_def,
    Option.some.injEq] at h
  obtain ⟨rest, hrest, semantic, hsemantic, elementType, htype, rfl⟩ := h
  have hregister : rest.upTo " : " ⊆ line :=
    List.Subset.trans (upTo_subset rest " : ") (subset_of_after? hrest)
  have hname : trim (rest.upTo " : ") ⊆ line := List.Subset.trans (trim_subset _) hregister
  have htag : semantic.upTo "," ⊆ line :=
    List.Subset.trans (upTo_subset semantic ",") (subset_of_after? hsemantic)
  simp only [Declaration.IsCutFrom, Declaration.texts, List.forall_mem_cons]
  exact ⟨trim_subset_registerLetters_append (subset_of_before? htype),
    append_subset_registerLetters_append (by decide) hname,
    trim_subset_registerLetters_append htag, by simp⟩

theorem isCutFrom_output {output : StageParameter} (h : output? line = some output) :
    (Declaration.output output).IsCutFrom line := by
  simp only [output?, Option.bind_eq_bind, Option.bind_eq_some_iff, Option.pure_def,
    Option.some.injEq] at h
  obtain ⟨rest, hrest, register, hregister, semantic, hsemantic, elementType, htype, rfl⟩ := h
  have hopened : rest ⊆ line := subset_of_after? hrest
  have helement : elementType ⊆ line := List.Subset.trans (subset_of_before? htype) hopened
  have htail : register ⊆ line := List.Subset.trans (subset_of_after? hregister) hopened
  have hname : trim (register.upTo " : ") ⊆ line :=
    List.Subset.trans (trim_subset _) (List.Subset.trans (upTo_subset register " : ") htail)
  have htag : semantic.trimEnd.dropLast ⊆ line := by
    refine List.Subset.trans (List.dropLast_subset _) ?_
    exact List.Subset.trans (trimEnd_subset semantic) (subset_of_after? hsemantic)
  simp only [Declaration.IsCutFrom, Declaration.texts, List.forall_mem_cons]
  exact ⟨trim_subset_registerLetters_append helement,
    append_subset_registerLetters_append (by decide) hname,
    trim_subset_registerLetters_append htag, by simp⟩

end ShaderLine

/-! ## Headers -/

/-- A declaration is cut from the line that it starts on or from one that follows. -/
theorem Declaration.exists_isCutFrom {line : Text} {following : List Text}
    {declaration : Declaration} (h : Declaration.ofLine? line following = some declaration) :
    ∃ source ∈ line :: following, declaration.IsCutFrom source := by
  rw [Declaration.ofLine?_of_kind (Declaration.kind_of_ofLine? h)] at h
  -- Only a constant buffer is read from another line than its first.
  cases declaration with
  | texture =>
    obtain ⟨_, hread, hsame⟩ := Option.map_eq_some_iff.1 h
    cases hsame
    exact ⟨line, List.mem_cons_self, ShaderLine.isCutFrom_texture hread⟩
  | sampler slot => exact ⟨line, List.mem_cons_self, by simp [IsCutFrom, texts]⟩
  | constantBuffer =>
    obtain ⟨_, hread, hsame⟩ := Option.map_eq_some_iff.1 h
    cases hsame
    obtain ⟨array, harray, hread⟩ := Option.bind_eq_some_iff.1 hread
    exact ⟨array, List.mem_cons_of_mem line (List.mem_of_getElem? harray),
      ShaderLine.isCutFrom_constantBuffer hread⟩
  | input =>
    obtain ⟨_, hread, hsame⟩ := Option.map_eq_some_iff.1 h
    cases hsame
    exact ⟨line, List.mem_cons_self, ShaderLine.isCutFrom_input hread⟩
  | output =>
    obtain ⟨_, hread, hsame⟩ := Option.map_eq_some_iff.1 h
    cases hsame
    exact ⟨line, List.mem_cons_self, ShaderLine.isCutFrom_output hread⟩

namespace HeaderScan

/-- What a scan records is cut from the lines that it reads. -/
theorem exists_isCutFrom {lines : List Text} {index covered : Nat} {declaration : Declaration}
    (h : declaration ∈ (ofLines index covered lines).steps.filterMap HeaderStep.declaration?) :
    ∃ source ∈ lines, declaration.IsCutFrom source := by
  fun_induction ofLines index covered lines with
  | case1 => cases h
  | case3 => cases h
  | case2 index line rest covered ih | case5 index line rest _ _ ih =>
    obtain ⟨source, hsource, hcut⟩ := ih h
    exact ⟨source, List.mem_cons_of_mem line hsource, hcut⟩
  | case4 index line rest hopens declared hdeclared ih =>
    rcases List.mem_cons.1 h with rfl | h
    · exact Declaration.exists_isCutFrom hdeclared
    · obtain ⟨source, hsource, hcut⟩ := ih h
      exact ⟨source, List.mem_cons_of_mem line hsource, hcut⟩

theorem exists_isCutFrom_ofSource {lines : List Text} {declaration : Declaration}
    (h : declaration ∈ (ofSource lines).steps.filterMap HeaderStep.declaration?) :
    ∃ source ∈ lines, declaration.IsCutFrom source := by
  cases lines with
  | nil => cases h
  | cons marker rest =>
    obtain ⟨source, hsource, hcut⟩ := exists_isCutFrom h
    exact ⟨source, List.mem_cons_of_mem marker hsource, hcut⟩

end HeaderScan

namespace Declarations

/-- Whether every text that is declared is a single line. -/
structure HasLines (declarations : Declarations) : Prop where
  /-- The texts of the textures are lines. -/
  textures : ∀ texture ∈ declarations.textures, ∀ text ∈ (Declaration.texture texture).texts,
    IsLine text
  /-- The texts of the constant buffers are lines. -/
  constantBuffers : ∀ buffer ∈ declarations.constantBuffers,
    ∀ text ∈ (Declaration.constantBuffer buffer).texts, IsLine text
  /-- The texts of the inputs are lines. -/
  inputs : ∀ input ∈ declarations.inputs, ∀ text ∈ (Declaration.input input).texts, IsLine text
  /-- The texts of the outputs are lines. -/
  outputs : ∀ output ∈ declarations.outputs, ∀ text ∈ (Declaration.output output).texts,
    IsLine text

/-- What source lines declare consists of lines, since the source lines are. -/
theorem hasLines_ofLines {lines : List Text} (h : ∀ line ∈ lines, IsLine line) :
    (ofLines lines).HasLines := by
  have hdeclared : ∀ declaration ∈ (HeaderScan.ofSource lines).steps.filterMap
      HeaderStep.declaration?, ∀ text ∈ declaration.texts, IsLine text := by
    intro declaration hdeclaration text htext
    obtain ⟨source, hsource, hcut⟩ := HeaderScan.exists_isCutFrom_ofSource hdeclaration
    have hletters : IsLine registerLetters := by decide
    exact (hletters.append (h source hsource)).of_subset (hcut text htext)
  rw [ofLines_eq_collected]
  constructor
  -- Each list holds what is declared of one kind.
  all_goals
    intro declared hmem
    obtain ⟨declaration, hdeclaration, hkind⟩ := List.mem_filterMap.1 hmem
    cases declaration <;> cases hkind
    exact hdeclared _ hdeclaration

end Declarations

end MaterialNode
