import MaterialNode.Proofs.Shader.HeaderItem
import MaterialNode.Proofs.Shader.HeaderScan

/-!
# Reading a Written Header Back

A header is written item by item, in any order. The scan of a written header takes one item
after the other, as long as the items are clear: the first that is not leaves a trace that no
clear header leaves. A written header is therefore read back exactly when all its items are
clear (`ofLines_rendered_iff`).
-/

namespace MaterialNode

open Text

namespace HeaderItem

/-- The lines of a header's items. -/
def rendered (items : List HeaderItem) : List Text := items.flatMap lines

/-- The lines of a header that declare nothing, if its first line has the given index. -/
def skippedFrom : Nat → List HeaderItem → List SkippedLine
  | _, [] => []
  | index, item :: items => item.skipped index ++ skippedFrom (index + item.lines.length) items

/-- The steps of a scan over an item whose first line has the given index. -/
def steps (index : Nat) (item : HeaderItem) : List HeaderStep :=
  (item.declaration?.map (HeaderStep.declared index)).toList
    ++ (item.skipped index).map HeaderStep.skipped

variable {item : HeaderItem} {items : List HeaderItem} {index : Nat}

@[simp] theorem rendered_cons (item : HeaderItem) (items : List HeaderItem) :
    rendered (item :: items) = item.lines ++ rendered items := rfl

theorem filterMap_declaration?_steps (index : Nat) (item : HeaderItem) :
    (item.steps index).filterMap HeaderStep.declaration? = item.declaration?.toList := by
  cases item <;> rfl

theorem filterMap_skippedLine?_steps (index : Nat) (item : HeaderItem) :
    (item.steps index).filterMap HeaderStep.skippedLine? = item.skipped index := by
  cases item <;> rfl

/-! ## Clear Items -/

/-- The closing brace of a constant buffer declares nothing. -/
theorem isFiller_brace : IsFiller ("\x7d" : Text) where
  scratch := by decide
  texture := by decide
  sampler := by decide
  buffer := by decide
  parameter h := absurd h (by decide)

/-- The scan goes over a clear item with the steps of the item. -/
theorem ofLines_item (h : item.IsSpelled) (hclear : item.IsClear) (index : Nat)
    (rest : List Text) :
    HeaderScan.ofLines index 0 (item.lines ++ rest)
      = (HeaderScan.ofLines (index + item.lines.length) 0 rest).prependAll (item.steps index) := by
  have hread := ofLine?_of_isClear h hclear rest
  have hopens := opensBody_firstLine h
  rw [lines, List.cons_append]
  cases item with
  | texture | sampler =>
    rw [HeaderScan.ofLines_of_declared hopens hread]
    rfl
  | parameter kind =>
    rw [HeaderScan.ofLines_of_declared hopens hread]
    cases kind <;> rfl
  | filler line =>
    rw [HeaderScan.ofLines_of_skipped hopens hread]
    rfl
  | buffer elementType register count =>
    -- The scan passes over the opening brace and the array, and skips the closing brace.
    have hbrace : Declaration.ofLine? "\x7d" rest = none := by
      rw [Declaration.ofLine?, isFiller_brace.kind_eq_none]
      rfl
    rw [HeaderScan.ofLines_of_declared hopens hread]
    simp only [otherLines, Declaration.extraLines, List.cons_append, List.nil_append,
      HeaderScan.ofLines_covered]
    rw [HeaderScan.ofLines_of_skipped (by decide) hbrace]
    rfl

/-- The scan of a clear header hands over what follows it and records what its items stand
for. -/
theorem ofLines_rendered (hspelled : ∀ item ∈ items, item.IsSpelled)
    (hclear : ∀ item ∈ items, item.IsClear) {opener : Text}
    (hopener : ShaderLine.opensBody opener = true) (index : Nat) (body : List Text) :
    let scan := HeaderScan.ofLines index 0 (rendered items ++ opener :: body)
    scan.steps.filterMap HeaderStep.declaration? = items.filterMap declaration?
      ∧ scan.steps.filterMap HeaderStep.skippedLine? = skippedFrom index items
      ∧ scan.body = opener :: body := by
  -- One item at a time: the scan reads it back and goes on behind its lines.
  induction items generalizing index with
  | nil =>
    rw [show rendered [] ++ opener :: body = opener :: body from rfl,
      HeaderScan.ofLines_of_opensBody hopener]
    exact ⟨rfl, rfl, rfl⟩
  | cons item items ih =>
    rw [List.forall_mem_cons] at hspelled hclear
    obtain ⟨hdeclared, hskipped, hbody⟩ := ih hspelled.2 hclear.2 (index + item.lines.length)
    rw [rendered_cons, List.append_assoc, ofLines_item hspelled.1 hclear.1]
    refine ⟨?_, ?_, hbody⟩
    · rw [HeaderScan.prependAll, List.filterMap_append, filterMap_declaration?_steps, hdeclared]
      cases hitem : item.declaration? <;> simp [hitem]
    · rw [HeaderScan.prependAll, List.filterMap_append, filterMap_skippedLine?_steps, hskipped]
      rfl

/-! ## Traces of Items That Are Not Clear -/

/-- The lines of a header that declare nothing stand within the header. -/
theorem le_index_of_mem_skippedFrom {line : SkippedLine} (h : line ∈ skippedFrom index items) :
    index ≤ line.index := by
  induction items generalizing index with
  | nil => cases h
  | cons item items ih =>
    rw [skippedFrom, List.mem_append] at h
    rcases h with h | h
    · cases item <;> simp only [skipped, List.mem_singleton, List.not_mem_nil] at h
      all_goals subst h; simp
    · have := ih h
      omega

/-- No item of a header declares a stray input. -/
theorem not_isStray_of_mem (hspelled : ∀ item ∈ items, item.IsSpelled) {input : StageParameter}
    (h : input ∈ (items.filterMap declaration?).filterMap Declaration.input?) :
    ¬ input.IsStray := by
  obtain ⟨declaration, hmem, hinput⟩ := List.mem_filterMap.1 h
  obtain ⟨item, hitem, hdeclared⟩ := List.mem_filterMap.1 hmem
  have hspelled := hspelled item hitem
  -- Only an input declares an input.
  cases item with
  | parameter kind elementType register semantic closing =>
    cases kind with
    | input =>
      cases hdeclared
      cases hinput
      exact not_isStray hspelled.1 register semantic
    | output =>
      cases hdeclared
      cases hinput
  | texture | sampler | buffer =>
    cases hdeclared
    cases hinput
  | filler => cases hdeclared

/-- The array of a constant buffer is not read from the first line of an item, unless the item
is a filler. -/
theorem constantBuffer?_firstLine (h : item.IsSpelled) (hfiller : ∀ line, item ≠ filler line) :
    ShaderLine.constantBuffer? item.firstLine = none := by
  have hbracket : '[' ∉ item.firstLine := by
    cases item with
    | texture => exact not_mem_textureLine (by decide) h.1 h.2.2.1 (by decide)
    | sampler => exact not_mem_samplerLine (by decide) (by decide)
    | buffer => exact not_mem_bufferLine (by decide) (by decide)
    | parameter => exact not_mem_parameterLine h.1 h.2.1 h.2.2.2.1 (by decide) (by decide)
    | filler line => exact absurd rfl (hfiller line)
  have hcut : cut? "[" item.firstLine = none :=
    cut?_eq_none_iff.2 fun hpart => hbracket (hpart.subset (show '[' ∈ ("[" : Text) by decide))
  rw [ShaderLine.constantBuffer?, before?, hcut]
  rfl

/-- A line that is read as a constant buffer is followed by a line and the array of the buffer. -/
theorem exists_array_of_ofLine? {line : Text} {following : List Text} {buffer : ConstantBuffer}
    (h : Declaration.ofLine? line following = some (.constantBuffer buffer)) :
    ∃ array, following[1]? = some array ∧ ShaderLine.constantBuffer? array = some buffer := by
  rw [Declaration.ofLine?_of_kind (Declaration.kind_of_ofLine? h), Declaration.kind,
    DeclarationKind.read?, Option.map_eq_some_iff] at h
  obtain ⟨_, hread, hsome⟩ := h
  cases hsome
  exact Option.bind_eq_some_iff.1 hread

/-- A header whose first item is followed by what is read as the array of a constant buffer has
no constant buffer in its first two items, and none after them either unless the array is a
filler. -/
theorem constantBuffers_of_array (hspelled : ∀ item ∈ items, item.IsSpelled) {array : Text}
    {rest : List Text} (harray : (rendered items ++ rest)[1]? = some array)
    {buffer : ConstantBuffer} (hread : ShaderLine.constantBuffer? array = some buffer)
    (index : Nat) :
    (items.filterMap declaration?).filterMap Declaration.constantBuffer? = []
      ∨ ⟨index + 1, array⟩ ∈ skippedFrom index items := by
  cases items with
  | nil => exact .inl rfl
  | cons first items =>
    by_cases hblock : first.otherLines = []
    · -- The array is the first line of the second item, if there is one.
      cases items with
      | nil =>
        refine .inl ?_
        cases first with
        | buffer => cases hblock
        | parameter kind => cases kind <;> rfl
        | texture | sampler | filler => rfl
      | cons second items =>
        have hline : second.firstLine = array := by
          simpa [rendered, lines, hblock] using harray
        by_cases hfiller : ∃ line, second = filler line
        · obtain ⟨line, rfl⟩ := hfiller
          obtain rfl : line = array := hline
          refine .inr ?_
          rw [skippedFrom, skippedFrom, lines, hblock]
          exact List.mem_append_right _ (List.mem_append_left _ (List.mem_singleton.2 rfl))
        · have hnone : ShaderLine.constantBuffer? second.firstLine = none :=
            constantBuffer?_firstLine (hspelled second (by simp)) (not_exists.1 hfiller)
          rw [hline, hread] at hnone
          cases hnone
    · -- Only the block of a constant buffer has more lines, of which the second is a brace.
      cases first with
      | buffer elementType register count =>
        have hline : "\x7b" = array := by
          simpa [rendered, lines, otherLines] using harray
        rw [← hline] at hread
        cases hread
      | texture | sampler | parameter | filler => exact absurd rfl hblock

/-- A scan records the inputs and the constant buffers of the items and skips their lines that
declare nothing. -/
structure HasTraces (scan : HeaderScan) (index : Nat) (items : List HeaderItem) : Prop where
  /-- The inputs are those of the items. -/
  inputs : (scan.steps.filterMap HeaderStep.declaration?).filterMap Declaration.input?
    = (items.filterMap declaration?).filterMap Declaration.input?
  /-- The constant buffers are those of the items. -/
  buffers : (scan.steps.filterMap HeaderStep.declaration?).filterMap Declaration.constantBuffer?
    = (items.filterMap declaration?).filterMap Declaration.constantBuffer?
  /-- The skipped lines are those of the items. -/
  skippedLines : scan.steps.filterMap HeaderStep.skippedLine? = skippedFrom index items

/-- An item that is not clear has a single line and is no constant buffer. -/
theorem single_of_not_isClear (hclear : ¬ item.IsClear) :
    item.otherLines = [] ∧ (∀ index, item.skipped index = [])
      ∧ item.declaration?.bind Declaration.constantBuffer? = none := by
  cases item with
  | texture | sampler | buffer | filler => exact absurd trivial hclear
  | parameter kind =>
    refine ⟨rfl, fun _ => rfl, ?_⟩
    cases kind <;> rfl

/-- The scan of a header does not have the traces of its items if the first is not clear. -/
theorem not_hasTraces (hspelled : ∀ other ∈ item :: items, other.IsSpelled)
    (hclear : ¬ item.IsClear) (index : Nat) (rest : List Text) :
    ¬ HasTraces (HeaderScan.ofLines index 0 (rendered (item :: items) ++ rest)) index
      (item :: items) := by
  rintro ⟨hinputs, hbuffers, hskipped⟩
  obtain ⟨hitem, hitems⟩ := List.forall_mem_cons.1 hspelled
  obtain ⟨hsingle, hnothing, hnoBuffer⟩ := single_of_not_isClear hclear
  have hopens : ShaderLine.opensBody item.firstLine = false := opensBody_firstLine hitem
  have hlines : rendered (item :: items) ++ rest = item.firstLine :: (rendered items ++ rest) := by
    rw [rendered_cons, lines, hsingle]
    rfl
  have hnext : skippedFrom index (item :: items) = skippedFrom (index + 1) items := by
    rw [skippedFrom, hnothing, lines, hsingle]
    rfl
  rw [hlines] at hinputs hbuffers hskipped
  rw [hnext] at hskipped
  rcases ofLine?_of_not_isClear hitem hclear (rendered items ++ rest) with
    hread | ⟨input, hstray, hread⟩ | ⟨buffer, hread⟩
  · -- The line is skipped, but all lines to be skipped come after it.
    rw [HeaderScan.ofLines_of_skipped hopens hread] at hskipped
    have hmem : ⟨index, item.firstLine⟩ ∈ skippedFrom (index + 1) items := by
      rw [← hskipped]
      exact List.mem_cons_self
    have hle : index + 1 ≤ index := le_index_of_mem_skippedFrom hmem
    omega
  · -- The stray input is one of the recorded inputs, which are those of the items.
    rw [HeaderScan.ofLines_of_declared hopens hread] at hinputs
    refine not_isStray_of_mem hspelled ?_ hstray
    rw [← hinputs]
    exact List.mem_cons_self
  · rw [HeaderScan.ofLines_of_declared hopens hread] at hbuffers hskipped
    obtain ⟨array, harray, hbuffer⟩ := exists_array_of_ofLine? hread
    rcases constantBuffers_of_array hitems harray hbuffer (index + 1) with hempty | hmem
    · -- A constant buffer is recorded, but the items have none.
      have hcons : (item :: items).filterMap (fun other =>
            other.declaration?.bind Declaration.constantBuffer?)
          = items.filterMap (fun other => other.declaration?.bind Declaration.constantBuffer?) :=
        List.filterMap_cons_none hnoBuffer
      rw [List.filterMap_filterMap] at hempty
      rw [List.filterMap_filterMap (l := item :: items), hcons, hempty] at hbuffers
      cases hbuffers
    · -- The scan passes over the array, which is to be skipped.
      rw [← hskipped] at hmem
      have hle : index + 1 + 2 ≤ index + 1 + 1 := HeaderScan.le_index_of_mem_skippedLines hmem
      omega

/-- A written header of which the scan has the traces is clear. -/
theorem isClear_of_hasTraces (hspelled : ∀ item ∈ items, item.IsSpelled) (rest : List Text)
    (index : Nat)
    (htraces : HasTraces (HeaderScan.ofLines index 0 (rendered items ++ rest)) index items) :
    ∀ item ∈ items, item.IsClear := by
  induction items generalizing index with
  | nil => simp
  | cons item items ih =>
    obtain ⟨hitem, hitems⟩ := List.forall_mem_cons.1 hspelled
    by_cases hclear : item.IsClear
    · -- The traces of a clear item come first on both sides and cancel.
      obtain ⟨hinputs, hbuffers, hskipped⟩ := htraces
      have hdeclaration : (item :: items).filterMap declaration?
          = item.declaration?.toList ++ items.filterMap declaration? := by
        cases hitem : item.declaration? <;> simp [hitem]
      rw [rendered_cons, List.append_assoc, ofLines_item hitem hclear]
        at hinputs hbuffers hskipped
      simp only [HeaderScan.prependAll, List.filterMap_append, filterMap_declaration?_steps,
        filterMap_skippedLine?_steps, hdeclaration, List.append_cancel_left_eq, skippedFrom]
        at hinputs hbuffers hskipped
      exact List.forall_mem_cons.2 ⟨hclear, ih hitems _ ⟨hinputs, hbuffers, hskipped⟩⟩
    · exact absurd htraces (not_hasTraces hspelled hclear index rest)

/-! ## Written Headers -/

/-- A written header is read back exactly when all its items are clear: every declaration with
all its fields, in the order of the header, the set of the sampler slots, the mask if a line from
the one that opens the body on discards, and the lines that declare nothing, with their
indices. -/
theorem ofLines_rendered_iff (hspelled : ∀ item ∈ items, item.IsSpelled) {opener : Text}
    (hopener : ShaderLine.opensBody opener = true) (marker : Text) (body : List Text) :
    Declarations.ofLines (marker :: (rendered items ++ opener :: body))
        = Declarations.collected (items.filterMap declaration?)
            ((opener :: body).any ShaderLine.isDiscard) (skippedFrom 1 items)
      ↔ ∀ item ∈ items, item.IsClear := by
  rw [Declarations.ofLines_eq_collected, HeaderScan.ofSource]
  constructor
  · intro hread
    exact isClear_of_hasTraces hspelled (opener :: body) 1
      ⟨congrArg Declarations.inputs hread, congrArg Declarations.constantBuffers hread,
        congrArg Declarations.skipped hread⟩
  · intro hclear
    obtain ⟨hdeclared, hskipped, hbody⟩ := ofLines_rendered hspelled hclear hopener 1 body
    rw [hdeclared, hskipped, hbody]

/-- A header with an item of each kind. -/
def typicalHeader : List HeaderItem := [
  texture "Texture2D" "float4" 3,
  sampler 0,
  buffer "float4" 0 12,
  filler "void main(",
  parameter .input "float4" 0 "TEXCOORD0" ',',
  parameter .output "float4" 0 "SV_Target0" ')',
  filler "\x7b"]

/-- A header with an item of each kind is read back. -/
theorem ofLines_typicalHeader :
    Declarations.ofLines
        ("// ps_5_0" :: (rendered typicalHeader ++ ("  float4 r0,r1;" : Text) :: ["discard;"]))
      = Declarations.collected (typicalHeader.filterMap declaration?) true
          (skippedFrom 1 typicalHeader) := by
  have hspelled : ∀ item ∈ typicalHeader, item.IsSpelled := by decide +kernel
  have hclear : ∀ item ∈ typicalHeader, item.IsClear := by decide +kernel
  exact (ofLines_rendered_iff hspelled (by decide) "// ps_5_0" ["discard;"]).2 hclear

/-- A header whose items are spelled as the dialect spells them need not be read back: a type
that starts with a `v` is taken for the name of its input. -/
theorem not_forall_ofLines_rendered :
    ¬ ∀ (items : List HeaderItem) (marker opener : Text) (body : List Text),
      (∀ item ∈ items, item.IsSpelled) → ShaderLine.opensBody opener = true →
      Declarations.ofLines (marker :: (rendered items ++ opener :: body))
        = Declarations.collected (items.filterMap declaration?)
            ((opener :: body).any ShaderLine.isDiscard) (skippedFrom 1 items) := by
  intro h
  have hvector := h [parameter .input "vector" 0 "TEXCOORD0" ','] "// ps_5_0" "  float4 r0,r1;" []
    (by decide +kernel) (by decide)
  revert hvector
  decide +kernel

end HeaderItem

end MaterialNode
