import MaterialNode.Conversion
import MaterialNode.Proofs.Text.Fields

/-!
# Line Terminators and Blank Lines

The same lines can be written in many ways: each line ends with a line feed or with CRLF, blank
lines stand anywhere, and the last line need not be ended (`IsWriting`). Every writing has the
non-empty lines as its source lines, so a conversion does not depend on how its source is written
(`convert_of_isWriting`).

The lines of a template are cut in another way: a carriage return is part of a terminator only where a
line feed follows it. The two ways differ in the last line alone, and only if no terminator ends it and
a carriage return does (`templateLines_eq_sourceLines_iff`).
-/

namespace MaterialNode

namespace Text

/-- What ends a line in a source. -/
inductive Terminator where
  /-- A line feed. -/
  | lineFeed
  /-- A carriage return and a line feed. -/
  | returnAndFeed
  deriving DecidableEq

/-- The characters of a terminator. -/
def Terminator.text : Terminator → Text
  | .lineFeed => ['\n']
  | .returnAndFeed => ['\r', '\n']

/-- `IsWriting lines text` holds if the text is made of the lines in order, each ended by a
terminator of its own, with any blank lines before, between and after them. The last line may be
left without a terminator; nothing follows it then. -/
inductive IsWriting : List Text → Text → Prop
  /-- No lines are written as the empty text. -/
  | empty : IsWriting [] []
  /-- The last line may stand without a terminator. -/
  | unterminated (line : Text) : IsWriting [line] line
  /-- A line is ended by a terminator. -/
  | terminated (line : Text) (terminator : Terminator) {lines : List Text} {text : Text}
      (h : IsWriting lines text) : IsWriting (line :: lines) (line ++ (terminator.text ++ text))
  /-- A blank line adds nothing. -/
  | blank (terminator : Terminator) {lines : List Text} {text : Text}
      (h : IsWriting lines text) : IsWriting lines (terminator.text ++ text)

/-- A line that a terminator can end: it has no line feed, and no carriage return at its end that
would be part of the terminator. -/
structure IsUnended (line : Text) : Prop where
  /-- The line has no line feed. -/
  isLine : IsLine line
  /-- The line does not end with a carriage return. -/
  not_return : line.getLast? ≠ some '\r'

instance (line : Text) : Decidable (IsUnended line) :=
  decidable_of_iff (IsLine line ∧ line.getLast? ≠ some '\r')
    ⟨fun h => ⟨h.1, h.2⟩, fun h => ⟨h.1, h.2⟩⟩

theorem isUnended_nil : IsUnended [] := by decide

variable {lines : List Text} {line text : Text}

/-- A line is the only source line of its text, unless it is empty. -/
theorem IsUnended.sourceLines_eq (h : IsUnended line) :
    sourceLines line = nonemptyLines [line] := by
  rw [sourceLines_of_isLine h.isLine, stripReturn_eq_self h.not_return]

/-- Both terminators end a line, and neither leaves a trace of itself. -/
theorem IsUnended.sourceLines_append (h : IsUnended line) (terminator : Terminator) (rest : Text) :
    sourceLines (line ++ (terminator.text ++ rest)) = nonemptyLines [line] ++ sourceLines rest := by
  cases terminator with
  | lineFeed =>
    rw [Terminator.text, List.singleton_append, sourceLines_append_cons, h.sourceLines_eq]
  | returnAndFeed =>
    have hreturn : IsLine (line ++ ['\r']) := h.isLine.append (by decide)
    have htext : line ++ (Terminator.returnAndFeed.text ++ rest)
        = (line ++ ['\r']) ++ '\n' :: rest := by
      simp [Terminator.text]
    rw [htext, sourceLines_append_cons, sourceLines_of_isLine hreturn, stripReturn_append_return]

/-- The source lines of a writing are the lines that are not empty. -/
theorem IsWriting.sourceLines_eq (h : IsWriting lines text)
    (hlines : ∀ line ∈ lines, IsUnended line) : sourceLines text = nonemptyLines lines := by
  induction h with
  | empty => rfl
  | unterminated line => exact (hlines line List.mem_cons_self).sourceLines_eq
  | terminated line terminator _ ih =>
    obtain ⟨hline, hlines⟩ := List.forall_mem_cons.1 hlines
    rw [hline.sourceLines_append, ih hlines, ← nonemptyLines_append, List.singleton_append]
  | blank terminator _ ih =>
    -- A blank line is the empty line with a terminator, and the empty line is dropped.
    have hblank := isUnended_nil.sourceLines_append terminator
    rw [← List.nil_append (terminator.text ++ _), hblank, ih hlines]
    rfl

/-! ## Template Lines -/

/-- `IsEnded text` holds if each line of the text has its terminator. -/
def IsEnded (text : Text) : Prop := text = [] ∨ text.getLast? = some '\n'

/-- Every text is made of ended lines and of a last line that is not ended, which may be empty. -/
theorem exists_eq_append_lastLine (text : Text) :
    ∃ before last, text = before ++ last ∧ IsEnded before ∧ IsLine last := by
  induction text with
  | nil => exact ⟨[], [], rfl, .inl rfl, by decide⟩
  | cons c text ih =>
    obtain ⟨before, last, rfl, hbefore, hlast⟩ := ih
    rcases hbefore with rfl | hbefore
    · -- The last line starts here or earlier, unless the character ends a line.
      by_cases hc : c = '\n'
      · exact ⟨[c], last, rfl, .inr (by rw [hc]; rfl), hlast⟩
      · exact ⟨[], c :: last, rfl, .inl rfl, isLine_cons_iff.2 ⟨hc, hlast⟩⟩
    · refine ⟨c :: before, last, rfl, .inr ?_, hlast⟩
      rw [List.getLast?_cons, hbefore]
      rfl

/-- A carriage return is dropped from every piece but the last. -/
theorem stripTerminators_append_singleton (pieces : List Text) (last : Text) :
    stripTerminators (pieces ++ [last]) = pieces.map stripReturn ++ [last] := by
  induction pieces with
  | nil => rfl
  | cons piece pieces ih =>
    obtain ⟨next, rest, hnext⟩ :=
      List.exists_cons_of_ne_nil (List.append_ne_nil_of_right_ne_nil pieces (List.cons_ne_nil last []))
    rw [List.cons_append, hnext, stripTerminators, ← hnext, ih]
    · rfl
    · exact List.cons_ne_nil next rest

variable {before last : Text}

/-- After ended lines, a last line loses a carriage return as a source line. -/
theorem IsEnded.sourceLines_append (h : IsEnded before) (hlast : IsLine last) :
    sourceLines (before ++ last) = sourceLines before ++ nonemptyLines [stripReturn last] := by
  rcases h with rfl | h
  · exact sourceLines_of_isLine hlast
  · obtain ⟨start, rfl⟩ := List.getLast?_eq_some_iff.1 h
    rw [List.append_assoc, List.singleton_append, sourceLines_append_cons, sourceLines_append_cons,
      sourceLines_of_isLine hlast]
    simp [sourceLines, fields, stripReturn]

/-- After ended lines, a last line stays as it is in a template. -/
theorem IsEnded.templateLines_append (h : IsEnded before) (hlast : IsLine last) :
    templateLines (before ++ last) = sourceLines before ++ nonemptyLines [last] := by
  rcases h with rfl | h
  · rw [List.nil_append, templateLines, fields_of_not_mem hlast]
    rfl
  · obtain ⟨start, rfl⟩ := List.getLast?_eq_some_iff.1 h
    rw [List.append_assoc, List.singleton_append, templateLines, fields_append_cons,
      fields_of_not_mem hlast, stripTerminators_append_singleton, List.filter_append,
      sourceLines_append_cons]
    simp [sourceLines, fields, stripReturn, nonemptyLines]

/-- Ended lines are the same in a template and in a source. -/
theorem IsEnded.templateLines_eq (h : IsEnded before) : templateLines before = sourceLines before := by
  have hempty : nonemptyLines [[]] = [] := rfl
  rw [← List.append_nil before, h.templateLines_append (by decide), hempty, List.append_nil,
    List.append_nil]

end Text

open Text

/-- A text has the same lines as a template and as a source if and only if it does not end with a
carriage return. If it does, then its last line is not ended: the ended lines before it are the same
both times, but the last line keeps its carriage return in the template and loses it in the source,
where nothing may be left of it. -/
theorem Program.templateLines_eq_sourceLines_iff (text : Text) (stage : Stage) :
    (templateLines text = (ofSource text stage).sourceLines ↔ text.getLast? ≠ some '\r')
      ∧ (text.getLast? = some '\r' → ∃ before last, text = before ++ (last ++ ['\r'])
        ∧ IsEnded before ∧ IsLine last
        ∧ templateLines text = templateLines before ++ [last ++ ['\r']]
        ∧ (ofSource text stage).sourceLines = templateLines before ++ nonemptyLines [last]) := by
  obtain ⟨before, last, rfl, hbefore, hlast⟩ := exists_eq_append_lastLine text
  have hsource : (ofSource (before ++ last) stage).sourceLines
      = templateLines before ++ nonemptyLines [stripReturn last] := by
    rw [hbefore.templateLines_eq, ← hbefore.sourceLines_append hlast]
    rfl
  have htemplate : templateLines (before ++ last) = templateLines before ++ nonemptyLines [last] := by
    rw [hbefore.templateLines_eq, hbefore.templateLines_append hlast]
  rw [hsource, htemplate, List.append_cancel_left_eq]
  by_cases hreturn : last.getLast? = some '\r'
  · obtain ⟨start, rfl⟩ := List.getLast?_eq_some_iff.1 hreturn
    have hend : (before ++ (start ++ ['\r'])).getLast? = some '\r' := by
      rw [← List.append_assoc, List.getLast?_concat]
    have hkept : nonemptyLines [start ++ ['\r']] = [start ++ ['\r']] := by simp [nonemptyLines]
    rw [stripReturn_append_return, hkept]
    refine ⟨⟨fun hsame => ?_, fun hnot => absurd hend hnot⟩, fun _ => ?_⟩
    · -- Only the line without its carriage return can be left, and it is shorter.
      have hmem : start ++ ['\r'] ∈ nonemptyLines [start] := by
        rw [← hsame]
        exact List.mem_singleton_self _
      have hstart : start ++ ['\r'] = start := List.mem_singleton.1 (List.mem_filter.1 hmem).1
      simp at hstart
    · exact ⟨before, start, rfl, hbefore, (isLine_append_iff.1 hlast).1, rfl, rfl⟩
  · -- The end of the text is that of its last line, or the line feed before an empty last line.
    have hend : (before ++ last).getLast? ≠ some '\r' := by
      rw [List.getLast?_append]
      rcases hbefore with rfl | hbefore
      · simpa using hreturn
      · cases hchar : last.getLast? with
        | none => simp [hbefore]
        | some c => simpa [hchar] using hreturn
    rw [stripReturn_eq_self hreturn]
    exact ⟨iff_of_true rfl hend, fun h => absurd h hend⟩

/-- Carriage returns within a text make no difference, however they stand, and the last one does. -/
example : templateLines "a\r\r\n\r\n\n\rb\nc\r" = (["a\r", "\rb", "c\r"] : List Text)
    ∧ Text.sourceLines "a\r\r\n\r\n\n\rb\nc\r" = (["a\r", "\rb", "c"] : List Text) := by decide

/-! ## Conversions -/

/-- A source counts by its source lines only. -/
theorem Program.convert_congr {first second : Text}
    (h : Text.sourceLines first = Text.sourceLines second) (stage : Stage)
    (samples : Option SampleStore) (template : List Text) :
    convert first stage samples template = convert second stage samples template := by
  rw [convert, convert, ofSource, ofSource, h]

/-- The records of a conversion and its failures depend on the source lines only as well. -/
theorem ConversionOptions.convertText_congr {first second : Text}
    (h : sourceLines first = sourceLines second) (options : ConversionOptions)
    (space : Workspace) : options.convertText space first = options.convertText space second := by
  have hlog : options.emissionLog first = options.emissionLog second := by
    rw [emissionLog, emissionLog, h]
  simp only [convertText, hlog, Program.convert_congr h]

/-- Two texts that are written from the same lines have the non-empty lines among them as their
source lines, and they are converted to the same program: the declarations, the skipped lines with
their indices, the emitted lines and the contents agree. With a template read from a file the
conversions agree as well, in what they record and in whether they fail. -/
theorem Program.convert_of_isWriting {lines : List Text} {first second : Text}
    (hlines : ∀ line ∈ lines, IsUnended line) (hfirst : IsWriting lines first)
    (hsecond : IsWriting lines second) :
    Text.sourceLines first = lines.filter (fun line => !line.isEmpty)
      ∧ Text.sourceLines second = lines.filter (fun line => !line.isEmpty)
      ∧ (∀ stage samples template,
          convert first stage samples template = convert second stage samples template)
      ∧ ∀ (options : ConversionOptions) (space : Workspace),
          options.convertText space first = options.convertText space second := by
  have hfirst := hfirst.sourceLines_eq hlines
  have hsecond := hsecond.sourceLines_eq hlines
  have hsame : Text.sourceLines first = Text.sourceLines second := hfirst.trans hsecond.symm
  exact ⟨hfirst, hsecond, convert_congr hsame, ConversionOptions.convertText_congr hsame⟩

/-- Lines with a carriage return within, and an empty one. -/
def typicalLines : List Text := ["// ps_5_0", "  float4\r r0,r1;", "", "  return;"]

/-- Written with line feeds and with CRLF, blank lines and no last terminator, these lines are
converted to the same program. -/
theorem Program.convert_of_isWriting_typicalLines :
    IsWriting typicalLines "// ps_5_0\n  float4\r r0,r1;\n\n  return;\n"
      ∧ IsWriting typicalLines "\r\n// ps_5_0\r\n  float4\r r0,r1;\r\n\n\r\n\n  return;"
      ∧ convert "// ps_5_0\n  float4\r r0,r1;\n\n  return;\n" .pixel none ["return output;"]
        = convert "\r\n// ps_5_0\r\n  float4\r r0,r1;\r\n\n\r\n\n  return;" .pixel none
          ["return output;"] := by
  have hfirst : IsWriting typicalLines "// ps_5_0\n  float4\r r0,r1;\n\n  return;\n" :=
    .terminated "// ps_5_0" .lineFeed (.terminated "  float4\r r0,r1;" .lineFeed
      (.terminated "" .lineFeed (.terminated "  return;" .lineFeed .empty)))
  have hsecond : IsWriting typicalLines
      "\r\n// ps_5_0\r\n  float4\r r0,r1;\r\n\n\r\n\n  return;" :=
    .blank .returnAndFeed (.terminated "// ps_5_0" .returnAndFeed
      (.terminated "  float4\r r0,r1;" .returnAndFeed (.terminated "" .lineFeed
        (.blank .returnAndFeed (.blank .lineFeed (.unterminated "  return;"))))))
  have hlines : ∀ line ∈ typicalLines, IsUnended line := by decide
  exact ⟨hfirst, hsecond, (convert_of_isWriting hlines hfirst hsecond).2.2.1 _ _ _⟩

end MaterialNode
