import MaterialNode.Shader.Header

/-!
# What a Header Scan Records

The declarations of a shader are those of the steps of its scan, sorted by kind in the order of
the scan (`ofLines_eq_collected`). The scan stops at a line that opens the body and hands over
everything from there on.
-/

namespace MaterialNode

/-! ## Sorting by Kind -/

namespace Declaration

/-- The texture that a declaration declares. -/
def texture? : Declaration → Option Texture
  | .texture declared => some declared
  | _ => none

/-- The slot of the sampler that a declaration declares. -/
def sampler? : Declaration → Option Nat
  | .sampler slot => some slot
  | _ => none

/-- The constant buffer that a declaration declares. -/
def constantBuffer? : Declaration → Option ConstantBuffer
  | .constantBuffer declared => some declared
  | _ => none

/-- The stage input that a declaration declares. -/
def input? : Declaration → Option StageParameter
  | .input declared => some declared
  | _ => none

/-- The stage output that a declaration declares. -/
def output? : Declaration → Option StageParameter
  | .output declared => some declared
  | _ => none

end Declaration

namespace HeaderStep

/-- The declaration that a step recorded. -/
def declaration? : HeaderStep → Option Declaration
  | .declared _ declaration => some declaration
  | .skipped _ => none

/-- The index of the line that a step is about. -/
def index : HeaderStep → Nat
  | .declared index _ => index
  | .skipped line => line.index

/-- The line that a step skipped. -/
def skippedLine? : HeaderStep → Option SkippedLine
  | .declared _ _ => none
  | .skipped line => some line

end HeaderStep

namespace Declarations

/-- Declarations in the order of a header, sorted by kind, with the skipped lines. -/
def collected (declared : List Declaration) (masked : Bool) (skipped : List SkippedLine) :
    Declarations where
  textures := declared.filterMap Declaration.texture?
  constantBuffers := declared.filterMap Declaration.constantBuffer?
  inputs := declared.filterMap Declaration.input?
  outputs := declared.filterMap Declaration.output?
  samplers := SlotSet.ofList (declared.filterMap Declaration.sampler?)
  masked := masked
  skipped := skipped

/-- A step adds its declaration and its skipped line. -/
theorem record_collected (declared : List Declaration) (masked : Bool)
    (skipped : List SkippedLine) (step : HeaderStep) :
    step.record (collected declared masked skipped)
      = collected (declared ++ step.declaration?.toList) masked
          (skipped ++ step.skippedLine?.toList) := by
  cases step with
  | skipped line => simp [HeaderStep.record, collected, skip, HeaderStep.declaration?,
      HeaderStep.skippedLine?]
  | declared index declaration =>
    cases declaration <;>
      simp [HeaderStep.record, collected, record, List.filterMap_cons, HeaderStep.declaration?,
        HeaderStep.skippedLine?, Declaration.texture?, Declaration.constantBuffer?,
        Declaration.input?, Declaration.output?, Declaration.sampler?, SlotSet.ofList]

/-- The steps of a scan add their declarations and their skipped lines in order. -/
theorem foldl_record_collected (steps : List HeaderStep) (declared : List Declaration)
    (masked : Bool) (skipped : List SkippedLine) :
    steps.foldl HeaderStep.record (collected declared masked skipped)
      = collected (declared ++ steps.filterMap HeaderStep.declaration?) masked
          (skipped ++ steps.filterMap HeaderStep.skippedLine?) := by
  induction steps generalizing declared skipped with
  | nil => simp
  | cons step steps ih =>
    -- The first step is added at the end of what is there already.
    rw [List.foldl_cons, record_collected, ih]
    cases step <;> simp [List.filterMap_cons, HeaderStep.declaration?, HeaderStep.skippedLine?]

/-- A shader declares what the steps of its scan recorded, and its mask is that of the lines
after the header. -/
theorem ofLines_eq_collected (lines : List Text) :
    ofLines lines = collected
      ((HeaderScan.ofSource lines).steps.filterMap HeaderStep.declaration?)
      ((HeaderScan.ofSource lines).body.any ShaderLine.isDiscard)
      ((HeaderScan.ofSource lines).steps.filterMap HeaderStep.skippedLine?) := by
  have hfold := foldl_record_collected (HeaderScan.ofSource lines).steps [] false []
  have hempty : empty = collected [] false [] := rfl
  simp only [ofLines, hempty, hfold]
  rfl

end Declarations

namespace HeaderScan

/-! ## Single Lines -/

/-- `scan` with more outcomes before the others. -/
def prependAll (steps : List HeaderStep) (scan : HeaderScan) : HeaderScan :=
  { scan with steps := steps ++ scan.steps }

variable {index : Nat} {line : Text} {rest : List Text}

theorem ofLines_of_opensBody (h : ShaderLine.opensBody line = true) :
    ofLines index 0 (line :: rest) = ⟨[], index, line :: rest⟩ := by
  simp only [ofLines, if_pos h]

/-- A declaration is recorded, and the lines that belong to it are passed over. -/
theorem ofLines_of_declared (h : ShaderLine.opensBody line = false) {declaration : Declaration}
    (hdeclared : Declaration.ofLine? line rest = some declaration) :
    ofLines index 0 (line :: rest)
      = (ofLines (index + 1) declaration.extraLines rest).prepend
          (.declared index declaration) := by
  simp [ofLines, h, hdeclared]

theorem ofLines_of_skipped (h : ShaderLine.opensBody line = false)
    (hskipped : Declaration.ofLine? line rest = none) :
    ofLines index 0 (line :: rest)
      = (ofLines (index + 1) 0 rest).prepend (.skipped ⟨index, line⟩) := by
  simp [ofLines, h, hskipped]

theorem ofLines_covered (covered : Nat) :
    ofLines index (covered + 1) (line :: rest) = ofLines (index + 1) covered rest := by
  simp only [ofLines]

/-! ## Indices -/

/-- A scan records nothing about the lines that it passes over. -/
theorem le_index_of_mem_steps {lines : List Text} {index covered : Nat} {step : HeaderStep}
    (h : step ∈ (ofLines index covered lines).steps) : index + covered ≤ step.index := by
  fun_induction ofLines index covered lines with
  | case1 => cases h
  | case2 index line rest covered ih =>
    -- One line less is covered, and the index is one larger.
    have := ih h
    omega
  | case3 => cases h
  | case4 index line rest hopens declaration hdeclared ih =>
    rcases List.mem_cons.1 h with rfl | h
    · exact Nat.le_refl _
    · have := ih h
      omega
  | case5 index line rest hopens hskipped ih =>
    rcases List.mem_cons.1 h with rfl | h
    · exact Nat.le_refl _
    · have := ih h
      omega

theorem le_index_of_mem_skippedLines {lines : List Text} {index covered : Nat} {line : SkippedLine}
    (h : line ∈ (ofLines index covered lines).steps.filterMap HeaderStep.skippedLine?) :
    index + covered ≤ line.index := by
  obtain ⟨step, hstep, hline⟩ := List.mem_filterMap.1 h
  have hle : index + covered ≤ step.index := le_index_of_mem_steps hstep
  cases step with
  | declared => cases hline
  | skipped =>
    cases hline
    exact hle

/-- What a scan records as declared is read from the line with its index and those that follow. -/
theorem exists_ofLine?_of_declared_mem {lines : List Text} {index covered position : Nat}
    {declaration : Declaration}
    (h : .declared position declaration ∈ (ofLines index covered lines).steps) :
    ∃ offset line, position = index + offset ∧ lines[offset]? = some line
      ∧ Declaration.ofLine? line (lines.drop (offset + 1)) = some declaration := by
  fun_induction ofLines index covered lines with
  | case1 | case3 => cases h
  | case2 index line rest covered ih | case5 index line rest _ _ ih =>
    obtain ⟨offset, source, rfl, hsource, hread⟩ := ih (by simpa [prepend] using h)
    exact ⟨offset + 1, source, by omega, hsource, hread⟩
  | case4 index line rest hopens declared hdeclared ih =>
    rcases List.mem_cons.1 h with hfirst | h
    · cases hfirst
      exact ⟨0, line, rfl, rfl, hdeclared⟩
    · obtain ⟨offset, source, rfl, hsource, hread⟩ := ih h
      exact ⟨offset + 1, source, by omega, hsource, hread⟩

/-- What a shader declares is read from the line with its index, which is not the first. -/
theorem exists_ofLine?_of_declared_mem_ofSource {lines : List Text} {position : Nat}
    {declaration : Declaration} (h : .declared position declaration ∈ (ofSource lines).steps) :
    ∃ line, 1 ≤ position ∧ lines[position]? = some line
      ∧ Declaration.ofLine? line (lines.drop (position + 1)) = some declaration := by
  cases lines with
  | nil => cases h
  | cons marker rest =>
    obtain ⟨offset, line, rfl, hline, hread⟩ := exists_ofLine?_of_declared_mem h
    rw [Nat.add_comm 1 offset]
    exact ⟨line, Nat.le_add_left 1 offset, hline, hread⟩

/-! ## Where the Scan Stops -/

/-- A scan hands over the lines from where it stops on, and it stops at the end or at a line that
opens the body. -/
theorem exists_body_eq_drop (index covered : Nat) (lines : List Text) :
    ∃ count, (ofLines index covered lines).bodyStart = index + count
      ∧ (ofLines index covered lines).body = lines.drop count
      ∧ ∀ line, lines[count]? = some line → ShaderLine.opensBody line = true := by
  fun_induction ofLines index covered lines with
  | case1 => exact ⟨0, rfl, rfl, by simp⟩
  | case3 index line rest hopens =>
    -- The scan stops here.
    refine ⟨0, rfl, rfl, ?_⟩
    rintro _ ⟨⟩
    exact hopens
  | case2 index line rest covered ih | case4 index line rest _ _ _ ih
  | case5 index line rest _ _ ih =>
    obtain ⟨count, hstart, hbody, hopens⟩ := ih
    refine ⟨count + 1, hstart.trans ?_, hbody, hopens⟩
    omega

/-- `scan.Covers line` holds if the line with the given index belongs to a constant buffer that
the scan recorded: it is one of the two lines after the first line of the buffer. -/
def Covers (scan : HeaderScan) (line : Nat) : Prop :=
  ∃ index buffer, HeaderStep.declared index (.constantBuffer buffer) ∈ scan.steps
    ∧ index < line ∧ line ≤ index + 2

theorem Covers.prepend {scan : HeaderScan} {line : Nat} (h : scan.Covers line)
    (step : HeaderStep) : (scan.prepend step).Covers line := by
  obtain ⟨index, buffer, hmem, hline⟩ := h
  exact ⟨index, buffer, List.mem_cons_of_mem step hmem, hline⟩

/-- Before a line that opens the body, a scan visits every line that it does not pass over: from
there on it goes on as if it had started there. -/
theorem exists_prependAll_or_covers {before rest : List Text}
    (hclosed : ∀ line ∈ before, ShaderLine.opensBody line = false) (index covered : Nat) :
    (∃ steps, ofLines index covered (before ++ rest)
        = (ofLines (index + before.length) 0 rest).prependAll steps)
      ∨ before.length < covered
      ∨ (ofLines index covered (before ++ rest)).Covers (index + before.length) := by
  -- Line by line: the scan visits a line, passes over it, or ends up inside a block.
  induction before generalizing index covered with
  | nil =>
    cases covered with
    | zero => exact .inl ⟨[], rfl⟩
    | succ covered => exact .inr (.inl (Nat.succ_pos covered))
  | cons line before ih =>
    obtain ⟨hline, hclosed⟩ := List.forall_mem_cons.1 hclosed
    have hindex : index + (line :: before).length = index + 1 + before.length := by
      rw [List.length_cons]
      omega
    rw [hindex, List.cons_append]
    cases covered with
    | succ covered =>
      rw [ofLines_covered]
      rcases ih hclosed (index + 1) covered with hvisits | hcovered | hcovers
      · exact .inl hvisits
      · exact .inr (.inl (Nat.succ_lt_succ hcovered))
      · exact .inr (.inr hcovers)
    | zero =>
      cases hread : Declaration.ofLine? line (before ++ rest) with
      | none =>
        rw [ofLines_of_skipped hline hread]
        rcases ih hclosed (index + 1) 0 with ⟨steps, hvisits⟩ | hcovered | hcovers
        · exact .inl ⟨.skipped ⟨index, line⟩ :: steps, by rw [hvisits]; rfl⟩
        · exact absurd hcovered (Nat.not_lt_zero _)
        · exact .inr (.inr (hcovers.prepend _))
      | some declaration =>
        rw [ofLines_of_declared hline hread]
        rcases ih hclosed (index + 1) declaration.extraLines with
          ⟨steps, hvisits⟩ | hcovered | hcovers
        · exact .inl ⟨.declared index declaration :: steps, by rw [hvisits]; rfl⟩
        · -- Only a constant buffer has more lines than its first.
          refine .inr (.inr ?_)
          cases declaration with
          | constantBuffer buffer =>
            have htwo : before.length < 2 := hcovered
            exact ⟨index, buffer, List.mem_cons_self, by omega, by omega⟩
          | texture | sampler | input | output => exact absurd hcovered (Nat.not_lt_zero _)
        · exact .inr (.inr (hcovers.prepend _))

/-- A list is parted at the first entry that passes a test. -/
theorem exists_append_of_findIdx? {α : Type} {test : α → Bool} {entries : List α} {first : Nat}
    (h : entries.findIdx? test = some first) :
    ∃ before entry rest, entries = before ++ entry :: rest ∧ before.length = first
      ∧ test entry = true ∧ ∀ other ∈ before, test other = false := by
  obtain ⟨hfirst, hentry, hbefore⟩ := List.findIdx?_eq_some_iff_getElem.1 h
  refine ⟨entries.take first, entries[first], entries.drop (first + 1), ?_, ?_, hentry, ?_⟩
  · rw [List.getElem_cons_drop, List.take_append_drop]
  · rw [List.length_take, Nat.min_eq_left (Nat.le_of_lt hfirst)]
  · intro other hother
    obtain ⟨position, hposition, rfl⟩ := List.mem_take_iff_getElem.1 hother
    simpa using hbefore position (by omega)

/-- A scan does not stop before the first line that opens the body, and it stops there unless it
passes over that line. -/
theorem bodyStart_of_findIdx? {lines : List Text} {first : Nat}
    (h : lines.findIdx? ShaderLine.opensBody = some first) (index covered : Nat) :
    index + first ≤ (ofLines index covered lines).bodyStart
      ∧ ((ofLines index covered lines).bodyStart = index + first ∨ first < covered
        ∨ (ofLines index covered lines).Covers (index + first)) := by
  obtain ⟨before, opener, rest, rfl, rfl, hopener, hclosed⟩ := exists_append_of_findIdx? h
  constructor
  · obtain ⟨count, hstart, -, hopens⟩ :=
      exists_body_eq_drop index covered (before ++ opener :: rest)
    rw [hstart, Nat.add_le_add_iff_left, ← Nat.not_lt]
    -- An earlier line would have to open the body as well.
    intro hlt
    have hline := hopens before[count] (by rw [List.getElem?_append_left hlt]; simp)
    rw [hclosed _ (List.getElem_mem hlt)] at hline
    cases hline
  · rcases @exists_prependAll_or_covers before (opener :: rest) hclosed index covered with
      ⟨steps, hvisits⟩ | hpasses
    · rw [hvisits, ofLines_of_opensBody hopener]
      exact .inl rfl
    · exact .inr hpasses

end HeaderScan

end MaterialNode
