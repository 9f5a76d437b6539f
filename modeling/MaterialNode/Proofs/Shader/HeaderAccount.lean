import MaterialNode.Proofs.Shader.HeaderSplit

/-!
# The Account of a Header

The scan of a header goes from line to line. At each line that it visits it either declares or skips
something, and it goes on behind the lines that belong to the declaration. No header line is lost or
counted twice that way: the lines of the steps, one step after the other, are the lines from the
second one to where the body starts (`HeaderScan.accountsFor_ofSource`).

## Main definitions

* `HeaderStep.lineIndices`: the lines that belong to a step.
* `HeaderScan.Scans`: the scan as a walk over indices.
* `HeaderScan.AccountsFor`: each header line belongs to one step, and each step is in the
  declarations.
-/

namespace MaterialNode

/-! ## The Lines of a Step -/

namespace HeaderStep

/-- The number of lines that a step takes after its first. -/
def extraLines : HeaderStep → Nat
  | .declared _ declaration => declaration.extraLines
  | .skipped _ => 0

/-- The indices of the lines that belong to a step. -/
def lineIndices (step : HeaderStep) : List Nat := List.range' step.index (step.extraLines + 1)

/-- The step at a line with the given index: what is read there is declared, and the line is skipped
if nothing is. -/
def ofLine (index : Nat) (line : Text) (following : List Text) : HeaderStep :=
  match Declaration.ofLine? line following with
  | some declaration => .declared index declaration
  | none => .skipped ⟨index, line⟩

@[simp] theorem index_ofLine (index : Nat) (line : Text) (following : List Text) :
    (ofLine index line following).index = index := by
  unfold ofLine
  split <;> rfl

/-- The lines that steps take are those that they skip, one for each declaration on a single line,
and three for each constant buffer. -/
theorem length_flatMap_lineIndices (steps : List HeaderStep) :
    (steps.flatMap lineIndices).length
      = (steps.filterMap skippedLine?).length
        + (((steps.filterMap declaration?).filterMap Declaration.texture?).length
          + ((steps.filterMap declaration?).filterMap Declaration.sampler?).length
          + ((steps.filterMap declaration?).filterMap Declaration.input?).length
          + ((steps.filterMap declaration?).filterMap Declaration.output?).length)
        + 3 * ((steps.filterMap declaration?).filterMap Declaration.constantBuffer?).length := by
  induction steps with
  | nil => rfl
  | cons step steps ih =>
    rw [List.flatMap_cons, List.length_append, ih, lineIndices, List.length_range']
    cases step with
    | skipped line =>
      simp only [extraLines, declaration?, skippedLine?, List.filterMap_cons, List.length_cons]
      omega
    | declared index declaration =>
      cases declaration <;>
        simp only [extraLines, Declaration.extraLines, declaration?, skippedLine?,
          Declaration.texture?, Declaration.sampler?, Declaration.constantBuffer?,
          Declaration.input?, Declaration.output?, List.filterMap_cons, List.length_cons] <;>
        omega

end HeaderStep

namespace HeaderScan

/-! ## The Walk over a Header -/

/-- `Scans lines start steps stop` holds if the scan takes the given steps from the line with index
`start` on and stops at the index `stop`: at a line that opens the body, or behind the last line.
After a step it goes on behind the lines of the step. -/
inductive Scans (lines : List Text) : Nat → List HeaderStep → Nat → Prop where
  /-- No line is left. -/
  | atEnd : Scans lines lines.length [] lines.length
  /-- The line opens the body. -/
  | atBody {index : Nat} {line : Text} (hline : lines[index]? = some line)
      (hopens : ShaderLine.opensBody line = true) : Scans lines index [] index
  /-- The line is a header line. -/
  | atHeader {index stop : Nat} {line : Text} {step : HeaderStep} {steps : List HeaderStep}
      (hline : lines[index]? = some line) (hclosed : ShaderLine.opensBody line = false)
      (hstep : step = HeaderStep.ofLine index line (lines.drop (index + 1)))
      (hrest : Scans lines (index + step.extraLines + 1) steps stop) :
      Scans lines index (step :: steps) stop

/-- If lines are left from an index on, the first of them has the index. -/
theorem getElem?_of_drop_eq_cons {lines rest : List Text} {index : Nat} {line : Text}
    (h : lines.drop index = line :: rest) :
    lines[index]? = some line ∧ lines.drop (index + 1) = rest ∧ index < lines.length := by
  have hline : lines[index]? = some line := by rw [← List.head?_drop, h, List.head?_cons]
  refine ⟨hline, ?_, (List.getElem?_eq_some_iff.1 hline).1⟩
  rw [← List.tail_drop, h, List.tail_cons]

/-- Reading line by line and passing over the lines that belong to a declaration is the walk. -/
theorem scans_ofLines {lines rest : List Text} {index covered : Nat}
    (hindex : index ≤ lines.length) (hrest : lines.drop index = rest)
    (hcovered : covered ≤ rest.length) :
    Scans lines (index + covered) (ofLines index covered rest).steps
      (ofLines index covered rest).bodyStart := by
  fun_induction ofLines index covered rest with
  | case1 index covered =>
    obtain rfl : covered = 0 := Nat.le_zero.1 hcovered
    obtain rfl : index = lines.length := Nat.le_antisymm hindex (List.drop_eq_nil_iff.1 hrest)
    exact .atEnd
  | case2 index line rest covered ih =>
    -- The line belongs to a declaration before it, so the walk goes on from the same place.
    obtain ⟨-, hdrop, hlt⟩ := getElem?_of_drop_eq_cons hrest
    rw [Nat.succ_eq_add_one, ← Nat.add_assoc, Nat.add_right_comm]
    exact ih hlt hdrop (Nat.le_of_succ_le_succ hcovered)
  | case3 index line rest hopens =>
    exact .atBody (getElem?_of_drop_eq_cons hrest).1 hopens
  | case4 index line rest hopens declaration hdeclared ih =>
    obtain ⟨hline, hdrop, hlt⟩ := getElem?_of_drop_eq_cons hrest
    have hstep : .declared index declaration
        = HeaderStep.ofLine index line (lines.drop (index + 1)) := by
      rw [hdrop, HeaderStep.ofLine, hdeclared]
    refine .atHeader hline (Bool.eq_false_iff.2 hopens) hstep ?_
    -- The declaration takes no more lines than there are, so the walk does not leave the source.
    rw [Nat.add_right_comm]
    exact ih hlt hdrop (Declaration.extraLines_le_length hdeclared)
  | case5 index line rest hopens hskipped ih =>
    obtain ⟨hline, hdrop, hlt⟩ := getElem?_of_drop_eq_cons hrest
    have hstep : .skipped ⟨index, line⟩
        = HeaderStep.ofLine index line (lines.drop (index + 1)) := by
      rw [hdrop, HeaderStep.ofLine, hskipped]
    exact .atHeader hline (Bool.eq_false_iff.2 hopens) hstep (ih hlt hdrop (Nat.zero_le _))

/-- The scan of a shader walks from the second line on, if there is one. -/
theorem scans_ofSource (lines : List Text) :
    Scans lines (min 1 lines.length) (ofSource lines).steps (ofSource lines).bodyStart := by
  cases lines with
  | nil => exact .atEnd
  | cons marker rest =>
    rw [List.length_cons, Nat.min_eq_left (Nat.le_add_left 1 rest.length)]
    exact scans_ofLines (Nat.le_add_left 1 rest.length) rfl (Nat.zero_le _)

/-! ## What the Walk Takes -/

namespace Scans

variable {lines : List Text} {start stop : Nat} {steps : List HeaderStep}

theorem start_le_stop (h : Scans lines start steps stop) : start ≤ stop := by
  induction h with
  | atEnd | atBody => exact Nat.le_refl _
  | atHeader _ _ _ _ ih => omega

theorem stop_le_length (h : Scans lines start steps stop) : stop ≤ lines.length := by
  induction h with
  | atEnd => exact Nat.le_refl _
  | atBody hline => exact Nat.le_of_lt (List.getElem?_eq_some_iff.1 hline).1
  | atHeader _ _ _ _ ih => exact ih

theorem opensBody_of_getElem? (h : Scans lines start steps stop) {line : Text}
    (hline : lines[stop]? = some line) : ShaderLine.opensBody line = true := by
  induction h with
  | atEnd => simp at hline
  | atBody hopener hopens =>
    rw [hopener, Option.some.injEq] at hline
    rwa [← hline]
  | atHeader _ _ _ _ ih => exact ih hline

/-- The lines of the steps follow each other without a gap and without an overlap. -/
theorem flatMap_lineIndices (h : Scans lines start steps stop) :
    steps.flatMap HeaderStep.lineIndices = List.range' start (stop - start) := by
  induction h with
  | atEnd | atBody => rw [Nat.sub_self, List.flatMap_nil, List.range'_zero]
  | @atHeader index stop line step steps hline hclosed hstep hrest ih =>
    have hle := hrest.start_le_stop
    have hindex : step.index = index := by rw [hstep, HeaderStep.index_ofLine]
    rw [List.flatMap_cons, ih, HeaderStep.lineIndices, hindex, Nat.add_assoc,
      List.range'_append_1]
    congr 1
    omega

/-- Each step is the one at the line with its index, which does not open the body. -/
theorem exists_eq_ofLine (h : Scans lines start steps stop) {step : HeaderStep}
    (hstep : step ∈ steps) : ∃ line, lines[step.index]? = some line
      ∧ ShaderLine.opensBody line = false
      ∧ step = HeaderStep.ofLine step.index line (lines.drop (step.index + 1)) := by
  induction h with
  | atEnd | atBody => cases hstep
  | @atHeader index stop line first steps hline hclosed hfirst hrest ih =>
    rcases List.mem_cons.1 hstep with rfl | hstep
    · have hindex : step.index = index := by rw [hfirst, HeaderStep.index_ofLine]
      rw [hindex]
      exact ⟨line, hline, hclosed, hfirst⟩
    · exact ih hstep

theorem le_index (h : Scans lines start steps stop) {step : HeaderStep} (hstep : step ∈ steps) :
    start ≤ step.index := by
  induction h with
  | atEnd | atBody => cases hstep
  | @atHeader index stop line first steps hline hclosed hfirst hrest ih =>
    rcases List.mem_cons.1 hstep with rfl | hstep
    · exact Nat.le_of_eq (by rw [hfirst, HeaderStep.index_ofLine])
    · have := ih hstep
      omega

theorem pairwise_index (h : Scans lines start steps stop) :
    steps.Pairwise fun first second => first.index < second.index := by
  induction h with
  | atEnd | atBody => exact .nil
  | @atHeader index stop line first steps hline hclosed hfirst hrest ih =>
    refine List.pairwise_cons.2 ⟨fun step hstep => ?_, ih⟩
    -- Later steps start behind the lines of the first one.
    have hle := hrest.le_index hstep
    have hindex : first.index = index := by rw [hfirst, HeaderStep.index_ofLine]
    omega

/-- The steps take as many lines as the walk passes. -/
theorem length_lineIndices (h : Scans lines start steps stop) :
    (steps.flatMap HeaderStep.lineIndices).length = stop - start := by
  rw [h.flatMap_lineIndices, List.length_range']

end Scans

/-! ## The Account -/

/-- The account of the lines of a header by the steps of a scan, and of the steps by what is
declared. -/
structure AccountsFor (lines : List Text) (scan : HeaderScan) (declarations : Declarations) :
    Prop where
  /-- The scan walks from the second line to where the body starts and never leaves the source. -/
  scans : Scans lines (min 1 lines.length) scan.steps scan.bodyStart
  /-- The body starts within the source or at its end. -/
  bodyStart_le : scan.bodyStart ≤ lines.length
  /-- Where the body starts within the source, a line opens it. -/
  opensBody : ∀ line, lines[scan.bodyStart]? = some line → ShaderLine.opensBody line = true
  /-- The lines of the steps, one step after the other, are the lines from the second one to where
  the body starts. -/
  lineIndices_eq : scan.steps.flatMap HeaderStep.lineIndices
    = List.range' 1 (scan.bodyStart - 1)
  /-- A step declares what is read at the line with its index, or skips that line. -/
  eq_ofLine : ∀ step ∈ scan.steps, ∃ line, lines[step.index]? = some line
    ∧ ShaderLine.opensBody line = false
    ∧ step = HeaderStep.ofLine step.index line (lines.drop (step.index + 1))
  /-- The steps are in the order of the lines. -/
  pairwise_index : scan.steps.Pairwise fun first second => first.index < second.index
  /-- What is declared and what is skipped are those of the steps, kind by kind in their order. -/
  declarations_eq : declarations = Declarations.collected
    (scan.steps.filterMap HeaderStep.declaration?) declarations.masked
    (scan.steps.filterMap HeaderStep.skippedLine?)
  /-- The skipped lines are in the order of the source. -/
  pairwise_skipped : declarations.skipped.Pairwise fun first second => first.index < second.index
  /-- The header lines are the skipped ones, one for each declaration on a single line, and three for
  each constant buffer. -/
  length_eq : scan.bodyStart - 1 = declarations.skipped.length
    + (declarations.textures.length
      + ((scan.steps.filterMap HeaderStep.declaration?).filterMap Declaration.sampler?).length
      + declarations.inputs.length + declarations.outputs.length)
    + 3 * declarations.constantBuffers.length

/-- Skipped lines have the indices of their steps. -/
theorem pairwise_skippedLines {steps : List HeaderStep}
    (h : steps.Pairwise fun first second => first.index < second.index) :
    (steps.filterMap HeaderStep.skippedLine?).Pairwise
      fun first second => first.index < second.index := by
  have hindex : ∀ {step : HeaderStep} {line : SkippedLine}, step.skippedLine? = some line →
      line.index = step.index := by
    intro step line hline
    cases step with
    | declared => cases hline
    | skipped =>
      cases hline
      rfl
  refine List.pairwise_filterMap.2 (h.imp fun {first second} hlt => ?_)
  intro firstLine hfirst secondLine hsecond
  rwa [hindex hfirst, hindex hsecond]

/-- The scan of a shader's header accounts for all its lines, and the declarations of the shader for
all steps of the scan. -/
theorem accountsFor_ofSource (lines : List Text) :
    AccountsFor lines (ofSource lines) (Declarations.ofLines lines) := by
  have hscans := scans_ofSource lines
  have hdeclared := Declarations.ofLines_eq_collected lines
  -- A source without lines has no header, and its scan stops where it starts.
  have hstart : (ofSource lines).bodyStart - min 1 lines.length = (ofSource lines).bodyStart - 1 := by
    cases lines with
    | nil => rfl
    | cons marker rest => rw [List.length_cons, Nat.min_eq_left (Nat.le_add_left 1 rest.length)]
  refine ⟨hscans, hscans.stop_le_length, fun _ => hscans.opensBody_of_getElem?, ?_,
    fun _ => hscans.exists_eq_ofLine, hscans.pairwise_index, ?_, ?_, ?_⟩
  · rw [hscans.flatMap_lineIndices, hstart]
    cases lines with
    | nil => rfl
    | cons marker rest => rw [List.length_cons, Nat.min_eq_left (Nat.le_add_left 1 rest.length)]
  · rw [hdeclared]
    rfl
  · rw [hdeclared]
    exact pairwise_skippedLines hscans.pairwise_index
  · rw [← hstart, ← hscans.length_lineIndices, HeaderStep.length_flatMap_lineIndices, hdeclared]
    rfl

end HeaderScan

end MaterialNode
