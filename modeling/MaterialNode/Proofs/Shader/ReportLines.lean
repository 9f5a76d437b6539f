import Mathlib.Data.List.DropRight
import MaterialNode.Code.Program
import MaterialNode.Proofs.Shader.DeclaredText
import MaterialNode.Proofs.Shader.HeaderAccount
import MaterialNode.Proofs.Text.Fields
import MaterialNode.Shader.Report

/-!
# The Lines of an Inspection Report

An inspection report puts pieces of a shader's source between its own words. No source line has a line
feed, so each entry of the report is one line, and since all entries are indented, none of them can be
taken for the opening of a section, whatever the source says. A skipped line is what its entry has after
the index and a colon, so all skipped lines can be read back (`Declarations.isReport_report`).

## Main definitions

* `Declarations.sections`: the opening lines of a report with the entries below them.
* `Declarations.readSkipped`: the skipped lines, read from a report.
* `Declarations.IsReport`: what a report holds for what a shader declares.
-/

namespace MaterialNode

open Text

/-- A section of a report. -/
structure ReportSection where
  /-- The line that opens the section. -/
  opening : Text
  /-- The lines below it. -/
  entries : List Text

namespace Declarations

variable {declarations : Declarations} {line : Text} {lines : List Text}

/-! ## Single Lines -/

/-- Whether a line of a report is indented by two spaces. -/
def isIndented (line : Text) : Bool := ("  " : Text).isPrefixOf line

theorem isIndented_textureEntry (texture : Texture) : isIndented (textureEntry texture) = true := rfl

theorem isIndented_bufferEntry (buffer : ConstantBuffer) :
    isIndented (bufferEntry buffer) = true := rfl

theorem isIndented_parameterEntry (parameter : StageParameter) :
    isIndented (parameterEntry parameter) = true := rfl

theorem isIndented_skippedEntry (skipped : SkippedLine) :
    isIndented (skippedEntry skipped) = true := rfl

/-- The number of an opening line stands before the two characters at its end. -/
theorem takeWhile_reverse_sectionLine (title : Text) (count : Nat) :
    ((sectionLine title count).reverse.drop 2).takeWhile isDigit = (ofNat count).reverse := by
  have hreverse : (sectionLine title count).reverse.drop 2
      = (ofNat count).reverse ++ '(' :: ' ' :: title.reverse := by
    simp [sectionLine]
  have hdigits : ∀ c ∈ (ofNat count).reverse, isDigit c = true :=
    fun c hc => isDigits_ofNat count c (List.mem_reverse.1 hc)
  rw [hreverse, List.takeWhile_append_of_pos hdigits, List.takeWhile_cons_of_neg (by decide),
    List.append_nil]

theorem getLast?_sectionLine (title : Text) (count : Nat) :
    (sectionLine title count).getLast? = some ':' := by
  have hline : sectionLine title count = title ++ " (" ++ ofNat count ++ [')'] ++ [':'] := by
    simp [sectionLine]
  rw [hline, List.getLast?_concat]

theorem getLast?_samplerLine (samplers : SlotSet) : (samplerLine samplers).getLast? = some ']' :=
  List.getLast?_concat

/-- Opening lines with the same text have the same number. -/
theorem count_eq_of_sectionLine_eq {title other : Text} {count number : Nat}
    (h : sectionLine title count = sectionLine other number) : count = number := by
  have hdigits : (ofNat count).reverse = (ofNat number).reverse := by
    rw [← takeWhile_reverse_sectionLine title, h, takeWhile_reverse_sectionLine]
  rw [← digitsValue_ofNat count, List.reverse_injective hdigits, digitsValue_ofNat]

/-- The skipped line of an entry. -/
def readEntry (entry : Text) : SkippedLine :=
  let indexed := entry.dropWhile (· = ' ')
  ⟨digitsValue (indexed.takeWhile isDigit), (indexed.dropWhile isDigit).drop 2⟩

/-- A skipped line is read back from its entry, whatever its index and its text are: the index ends at
the first colon, and the text is all that follows the space after it. -/
theorem readEntry_skippedEntry (skipped : SkippedLine) : readEntry (skippedEntry skipped) = skipped := by
  obtain ⟨index, text⟩ := skipped
  have hdigits := isDigits_ofNat index
  have hentry : skippedEntry ⟨index, text⟩
      = List.replicate (2 + (4 - (ofNat index).length)) ' ' ++ (ofNat index ++ ':' :: ' ' :: text) := by
    simp [skippedEntry, padLeft, List.replicate_add]
  have hindexed : (skippedEntry ⟨index, text⟩).dropWhile (· = ' ')
      = ofNat index ++ ':' :: ' ' :: text := by
    rw [hentry, List.dropWhile_append_of_pos (by simp)]
    -- Behind the padding stands a digit, and no space.
    cases hnumber : ofNat index with
    | nil => rfl
    | cons c rest =>
      have hc : isDigit c = true := hdigits c (by simp [hnumber])
      have hne : c ≠ ' ' := by
        rintro rfl
        exact absurd hc (by decide)
      simp [hne]
  rw [readEntry, hindexed, List.takeWhile_append_of_pos hdigits, List.dropWhile_append_of_pos hdigits,
    List.takeWhile_cons_of_neg (by decide), List.dropWhile_cons_of_neg (by decide), List.append_nil,
    digitsValue_ofNat]
  rfl

/-! ## Sections -/

/-- The sections of a report. -/
def sections (declarations : Declarations) : List ReportSection :=
  [⟨sectionLine "Textures" declarations.textures.length, declarations.textures.map textureEntry⟩,
    ⟨samplerLine declarations.samplers, []⟩,
    ⟨sectionLine "Constant buffers" declarations.constantBuffers.length,
      declarations.constantBuffers.map bufferEntry⟩,
    ⟨sectionLine "Inputs" declarations.inputs.length, declarations.inputs.map parameterEntry⟩,
    ⟨sectionLine "Outputs" declarations.outputs.length, declarations.outputs.map parameterEntry⟩,
    ⟨"Opacity masked: " ++ Text.ofBool declarations.masked, []⟩,
    ⟨sectionLine "Skipped lines" declarations.skipped.length, declarations.skipped.map skippedEntry⟩]

/-- The lines of sections, one section after the other. -/
def sectionLines (sections : List ReportSection) : List Text :=
  sections.flatMap fun part => part.opening :: part.entries

theorem reportLines_eq_sectionLines (declarations : Declarations) :
    declarations.reportLines = sectionLines declarations.sections := by
  simp only [reportLines, sectionLines, sections, List.flatMap_cons, List.flatMap_nil,
    List.append_assoc, List.cons_append, List.nil_append, List.append_nil]

/-- Whether a section shows by its indentation where it ends: its entries are indented, and its opening
line is not. -/
structure IsIndentedBelow (part : ReportSection) : Prop where
  /-- The opening line is not indented. -/
  opening : isIndented part.opening = false
  /-- The entries are indented. -/
  entries : ∀ entry ∈ part.entries, isIndented entry = true

theorem isIndentedBelow_of_mem_sections {part : ReportSection} (h : part ∈ declarations.sections) :
    IsIndentedBelow part := by
  simp only [sections, List.mem_cons, List.not_mem_nil, or_false] at h
  rcases h with rfl | rfl | rfl | rfl | rfl | rfl | rfl
  · exact ⟨rfl, List.forall_mem_map.2 fun texture _ => isIndented_textureEntry texture⟩
  · exact ⟨rfl, List.forall_mem_nil _⟩
  · exact ⟨rfl, List.forall_mem_map.2 fun buffer _ => isIndented_bufferEntry buffer⟩
  · exact ⟨rfl, List.forall_mem_map.2 fun input _ => isIndented_parameterEntry input⟩
  · exact ⟨rfl, List.forall_mem_map.2 fun output _ => isIndented_parameterEntry output⟩
  · exact ⟨rfl, List.forall_mem_nil _⟩
  · exact ⟨rfl, List.forall_mem_map.2 fun skipped _ => isIndented_skippedEntry skipped⟩

/-- The number that an opening line prints is that of the entries. -/
theorem length_entries_of_mem_sections {part : ReportSection} (h : part ∈ declarations.sections)
    {title : Text} {count : Nat} (hopening : part.opening = sectionLine title count) :
    part.entries.length = count := by
  simp only [sections, List.mem_cons, List.not_mem_nil, or_false] at h
  rcases h with rfl | rfl | rfl | rfl | rfl | rfl | rfl
  · exact (List.length_map _).trans (count_eq_of_sectionLine_eq hopening)
  · -- The line of the samplers ends in a bracket.
    have hlast := getLast?_sectionLine title count
    rw [← hopening, getLast?_samplerLine] at hlast
    cases hlast
  · exact (List.length_map _).trans (count_eq_of_sectionLine_eq hopening)
  · exact (List.length_map _).trans (count_eq_of_sectionLine_eq hopening)
  · exact (List.length_map _).trans (count_eq_of_sectionLine_eq hopening)
  · -- The line of the mask ends in a word.
    have hlast := getLast?_sectionLine title count
    rw [← hopening] at hlast
    cases hmasked : declarations.masked <;> rw [hmasked] at hlast <;> cases hlast
  · exact (List.length_map _).trans (count_eq_of_sectionLine_eq hopening)

/-- The lines that are not indented are the opening lines. -/
theorem filter_sectionLines {parts : List ReportSection}
    (h : ∀ part ∈ parts, IsIndentedBelow part) :
    (sectionLines parts).filter (fun line => !isIndented line) = parts.map (·.opening) := by
  induction parts with
  | nil => rfl
  | cons part parts ih =>
    obtain ⟨hpart, hparts⟩ := List.forall_mem_cons.1 h
    have hentries : part.entries.filter (fun line => !isIndented line) = [] := by
      refine List.filter_eq_nil_iff.2 fun entry hentry => ?_
      simp [hpart.entries entry hentry]
    rw [sectionLines, List.flatMap_cons, List.filter_append, List.filter_cons_of_pos
      (by simp [hpart.opening]), hentries, ← sectionLines, ih hparts]
    rfl

/-- The indented lines that start the lines of further sections are none. -/
theorem takeWhile_append_sectionLines {entries : List Text} {parts : List ReportSection}
    (hentries : ∀ entry ∈ entries, isIndented entry = true)
    (h : ∀ part ∈ parts, IsIndentedBelow part) :
    (entries ++ sectionLines parts).takeWhile isIndented = entries := by
  rw [List.takeWhile_append_of_pos hentries]
  cases parts with
  | nil => exact List.append_nil entries
  | cons part parts =>
    have hopening := (h part List.mem_cons_self).opening
    rw [sectionLines, List.flatMap_cons, List.cons_append, List.takeWhile_cons_of_neg
      (by simp [hopening]), List.append_nil]

/-- A line that is not indented opens a section, whose entries are the indented lines after it. -/
theorem exists_section_of_eq_append {parts : List ReportSection} {before rest : List Text}
    (h : ∀ part ∈ parts, IsIndentedBelow part)
    (hlines : sectionLines parts = before ++ line :: rest) (hline : isIndented line = false) :
    ∃ part ∈ parts, line = part.opening ∧ rest.takeWhile isIndented = part.entries := by
  induction parts generalizing before with
  | nil => simp [sectionLines] at hlines
  | cons part parts ih =>
    obtain ⟨hpart, hparts⟩ := List.forall_mem_cons.1 h
    rw [sectionLines, List.flatMap_cons, List.cons_append, ← sectionLines] at hlines
    cases before with
    | nil =>
      obtain ⟨hopening, hrest⟩ := List.cons.inj hlines
      refine ⟨part, List.mem_cons_self, hopening.symm, ?_⟩
      rw [← hrest, takeWhile_append_sectionLines hpart.entries hparts]
    | cons first before =>
      -- The line is none of the entries, so it is in a later section.
      obtain ⟨-, hrest⟩ := List.cons.inj hlines
      obtain ⟨later, hlater⟩ : ∃ later, sectionLines parts = later ++ line :: rest := by
        rcases List.append_eq_append_iff.1 hrest with ⟨later, -, hlater⟩ | ⟨later, hentries, hlater⟩
        · exact ⟨later, hlater⟩
        · cases later with
          | nil => exact ⟨[], hlater.symm⟩
          | cons entry later =>
            obtain rfl : line = entry := (List.cons.inj hlater).1
            rw [hpart.entries line (by simp [hentries])] at hline
            cases hline
      obtain ⟨found, hfound, hfollowed⟩ := ih hparts hlater
      exact ⟨found, List.mem_cons_of_mem part hfound, hfollowed⟩

/-! ## Ended Lines -/

theorem isLine_sectionLine {title : Text} (h : IsLine title) (count : Nat) :
    IsLine (sectionLine title count) := by
  have hopened : IsLine (" (" : Text) := by decide
  have hclosed : IsLine ("):" : Text) := by decide
  exact ((h.append hopened).append (isLine_ofNat count)).append hclosed

theorem isLine_samplerLine (samplers : SlotSet) : IsLine (samplerLine samplers) := by
  have hopened : IsLine ("Sampler slots: [" : Text) := by decide
  have hslots : IsLine (joinWith ", " (samplers.slots.map Text.ofNat)) := by
    refine not_mem_joinWith (by decide) (List.forall_mem_map.2 fun slot _ => ?_)
    exact isLine_ofNat slot
  exact (hopened.append hslots).append (by decide)

/-- An entry starts with an indented name, which a space divides from what comes next. -/
theorem isLine_named {name next : Text} (hname : IsLine name) (hnext : IsLine next) :
    IsLine ("  " ++ name ++ " " ++ next) := by
  have hindent : IsLine ("  " : Text) := by decide
  have hspace : IsLine (" " : Text) := by decide
  exact ((hindent.append hname).append hspace).append hnext

theorem isLine_textureEntry {texture : Texture}
    (h : ∀ text ∈ (Declaration.texture texture).texts, IsLine text) :
    IsLine (textureEntry texture) := by
  simp only [Declaration.texts, List.forall_mem_cons] at h
  obtain ⟨hdimension, helement, hname, -⟩ := h
  have hnamed := isLine_named hname hdimension
  exact (((hnamed.append (by decide)).append helement).append (by decide)).append (isLine_ofNat _)

theorem isLine_bufferEntry {buffer : ConstantBuffer}
    (h : ∀ text ∈ (Declaration.constantBuffer buffer).texts, IsLine text) :
    IsLine (bufferEntry buffer) := by
  simp only [Declaration.texts, List.forall_mem_cons] at h
  obtain ⟨helement, hname, -⟩ := h
  have hnamed := isLine_named hname helement
  exact (((hnamed.append (by decide)).append (isLine_ofNat _)).append (by decide)).append
    (isLine_ofNat _)

theorem isLine_parameterEntry {parameter : StageParameter}
    (h : ∀ text ∈ (Declaration.input parameter).texts, IsLine text) :
    IsLine (parameterEntry parameter) := by
  simp only [Declaration.texts, List.forall_mem_cons] at h
  obtain ⟨helement, hname, hsemantic, -⟩ := h
  have hnamed := isLine_named hname helement
  exact (hnamed.append (by decide)).append hsemantic

theorem isLine_skippedEntry {skipped : SkippedLine} (h : IsLine skipped.text) :
    IsLine (skippedEntry skipped) := by
  have hpadding : ∀ width, IsLine (List.replicate width ' ') := by simp [IsLine]
  simp [skippedEntry, padLeft, hpadding, h]

/-- What a header skips are lines of the source. -/
theorem getElem?_of_mem_skipped {skipped : SkippedLine} (h : skipped ∈ (ofLines lines).skipped) :
    lines[skipped.index]? = some skipped.text := by
  have haccount := HeaderScan.accountsFor_ofSource lines
  rw [haccount.declarations_eq] at h
  obtain ⟨step, hstep, hskipped⟩ := List.mem_filterMap.1 h
  obtain ⟨source, hsource, -, hread⟩ := haccount.eq_ofLine step hstep
  cases step with
  | declared => cases hskipped
  | skipped line =>
    cases hskipped
    rw [HeaderStep.ofLine] at hread
    split at hread
    · cases hread
    · have hline : skipped.text = source := congrArg SkippedLine.text (HeaderStep.skipped.inj hread)
      rw [hline]
      exact hsource

/-- The lines of a report have no line feeds, since the source lines have none. -/
theorem isLine_of_mem_reportLines (h : ∀ line ∈ lines, IsLine line) :
    ∀ line ∈ (ofLines lines).reportLines, IsLine line := by
  have hdeclared := hasLines_ofLines h
  have hskipped : ∀ skipped ∈ (ofLines lines).skipped, IsLine skipped.text :=
    fun skipped hmem => h _ (List.mem_of_getElem? (getElem?_of_mem_skipped hmem))
  rw [reportLines_eq_sectionLines]
  intro line hline
  obtain ⟨part, hpart, hline⟩ := List.mem_flatMap.1 hline
  have hpart : IsLine part.opening ∧ ∀ entry ∈ part.entries, IsLine entry := by
    simp only [sections, List.mem_cons, List.not_mem_nil, or_false] at hpart
    rcases hpart with rfl | rfl | rfl | rfl | rfl | rfl | rfl
    · refine ⟨isLine_sectionLine (by decide) _, List.forall_mem_map.2 fun texture hmem => ?_⟩
      exact isLine_textureEntry (hdeclared.textures texture hmem)
    · exact ⟨isLine_samplerLine _, List.forall_mem_nil _⟩
    · refine ⟨isLine_sectionLine (by decide) _, List.forall_mem_map.2 fun buffer hmem => ?_⟩
      exact isLine_bufferEntry (hdeclared.constantBuffers buffer hmem)
    · refine ⟨isLine_sectionLine (by decide) _, List.forall_mem_map.2 fun input hmem => ?_⟩
      exact isLine_parameterEntry (hdeclared.inputs input hmem)
    · refine ⟨isLine_sectionLine (by decide) _, List.forall_mem_map.2 fun output hmem => ?_⟩
      exact isLine_parameterEntry (hdeclared.outputs output hmem)
    · refine ⟨?_, List.forall_mem_nil _⟩
      cases (ofLines lines).masked <;> decide
    · refine ⟨isLine_sectionLine (by decide) _, List.forall_mem_map.2 fun skipped hmem => ?_⟩
      exact isLine_skippedEntry (hskipped skipped hmem)
  rcases List.mem_cons.1 hline with rfl | hentry
  · exact hpart.1
  · exact hpart.2 line hentry

/-! ## Reports -/

/-- The skipped lines of a report: those of the entries at its end. -/
def readSkipped (report : Text) : List SkippedLine :=
  (((fields '\n' report).dropLast).rtakeWhile isIndented).map readEntry

/-- What the lines of a report hold for what a shader declares. -/
structure IsReport (declarations : Declarations) (lines : List Text) : Prop where
  /-- There are seven lines, and one for each entry. -/
  length_eq : lines.length = 7 + declarations.textures.length + declarations.constantBuffers.length
    + declarations.inputs.length + declarations.outputs.length + declarations.skipped.length
  /-- The seven lines are not indented. -/
  openings_eq : lines.filter (fun line => !isIndented line)
    = [sectionLine "Textures" declarations.textures.length,
      samplerLine declarations.samplers,
      sectionLine "Constant buffers" declarations.constantBuffers.length,
      sectionLine "Inputs" declarations.inputs.length,
      sectionLine "Outputs" declarations.outputs.length,
      "Opacity masked: " ++ Text.ofBool declarations.masked,
      sectionLine "Skipped lines" declarations.skipped.length]
  /-- The number that a line prints which is not indented is that of the indented lines below it, up to
  the next line that is not. -/
  length_takeWhile : ∀ before title count rest, lines = before ++ sectionLine title count :: rest →
    isIndented (sectionLine title count) = false → (rest.takeWhile isIndented).length = count

theorem isReport_reportLines (declarations : Declarations) :
    IsReport declarations declarations.reportLines := by
  have hindented : ∀ part ∈ declarations.sections, IsIndentedBelow part :=
    fun part => isIndentedBelow_of_mem_sections
  refine ⟨?_, ?_, fun before title count rest hlines hopening => ?_⟩
  · simp only [reportLines, List.length_append, List.length_cons, List.length_map, List.length_nil]
    omega
  · rw [reportLines_eq_sectionLines, filter_sectionLines hindented]
    rfl
  · rw [reportLines_eq_sectionLines] at hlines
    obtain ⟨part, hpart, hsame, hentries⟩ := exists_section_of_eq_append hindented hlines hopening
    rw [hentries, length_entries_of_mem_sections hpart hsame.symm]

/-- A text of ended lines is cut at line feeds into these lines and nothing after the last one. -/
theorem fields_report (h : ∀ line ∈ declarations.reportLines, IsLine line) :
    fields '\n' declarations.report = declarations.reportLines ++ [[]] := by
  have hjoined : declarations.report = joinWith ['\n'] (declarations.reportLines ++ [[]]) := by
    rw [joinWith_append_eq_flatMap _ _ (List.cons_ne_nil [] [])]
    exact (List.append_nil _).symm
  rw [hjoined, fields_joinWith (by simp)]
  intro piece hpiece
  rcases List.mem_append.1 hpiece with hpiece | hpiece
  · exact h piece hpiece
  · rw [List.mem_singleton.1 hpiece]
    exact List.not_mem_nil

/-- The skipped lines are read back from a report. -/
theorem readSkipped_report (h : ∀ line ∈ declarations.reportLines, IsLine line) :
    readSkipped declarations.report = declarations.skipped := by
  have hentries : ∀ entry ∈ (declarations.skipped.map skippedEntry).reverse, isIndented entry = true := by
    intro entry hentry
    obtain ⟨skipped, -, rfl⟩ := List.mem_map.1 (List.mem_reverse.1 hentry)
    exact isIndented_skippedEntry skipped
  have hend : declarations.reportLines.rtakeWhile isIndented
      = declarations.skipped.map skippedEntry := by
    -- From the end on, the entries are indented up to the line that opens the section.
    rw [reportLines, List.rtakeWhile, List.reverse_append, List.reverse_cons, List.append_assoc,
      List.takeWhile_append_of_pos hentries, List.singleton_append,
      List.takeWhile_cons_of_neg (by simp [isIndented, sectionLine]), List.append_nil,
      List.reverse_reverse]
  rw [readSkipped, fields_report h, List.dropLast_concat, hend, List.map_map]
  have hread : readEntry ∘ skippedEntry = id := funext readEntry_skippedEntry
  rw [hread, List.map_id]

/-- Skipped lines that look like parts of a report are read back as well. -/
example : readSkipped (ofLines ["// ps_5_0", "Skipped lines (7):", "     3: x"]).report
    = [⟨1, "Skipped lines (7):"⟩, ⟨2, "     3: x"⟩] := by
  decide +kernel

/-- The report of a shader consists of ended lines: seven that are not indented, and one for each
entry. Each number that it prints counts the entries below. The skipped lines, their indices and
their texts, are read back from the report, so shaders with different skipped lines have different
reports. -/
theorem isReport_report (source : Text) (stage : Stage) :
    let declarations := ((Program.ofSource source stage).step .parse).declarations
    (∃ lines, fields '\n' declarations.report = lines ++ [[]] ∧ IsReport declarations lines)
      ∧ readSkipped declarations.report = declarations.skipped
      ∧ ∀ (other : Text) (otherStage : Stage),
        ((Program.ofSource other otherStage).step .parse).declarations.skipped
            ≠ declarations.skipped →
          ((Program.ofSource other otherStage).step .parse).declarations.report
            ≠ declarations.report := by
  intro declarations
  have hlines : ∀ source : Text,
      ∀ line ∈ (ofLines (Text.sourceLines source)).reportLines, IsLine line :=
    fun source => isLine_of_mem_reportLines fun line => isLine_of_mem_sourceLines
  refine ⟨⟨_, fields_report (hlines source), isReport_reportLines declarations⟩,
    readSkipped_report (hlines source), fun other otherStage hskipped hreport => hskipped ?_⟩
  -- Equal reports are read as the same skipped lines.
  have hother := readSkipped_report (hlines other)
  have hsource := readSkipped_report (hlines source)
  exact (hother.symm.trans (congrArg readSkipped hreport)).trans hsource

end Declarations

end MaterialNode
