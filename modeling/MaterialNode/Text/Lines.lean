import MaterialNode.Text

/-!
# Lines

A shader source and a conversion template are cut at line feeds, and a carriage return
before the line feed belongs to the terminator. Emitted lines are joined with CRLF.
Empty lines are dropped everywhere, so that a line's index counts non-empty lines only.
-/

namespace MaterialNode.Text

/-- `line` without one carriage return at its end. -/
def stripReturn (line : Text) : Text :=
  if line.getLast? = some '\r' then line.dropLast else line

/-- The non-empty lines of a shader source. A carriage return at the end of a line is
dropped whether or not a line feed follows it. -/
def sourceLines (source : Text) : List Text :=
  ((fields '\n' source).map stripReturn).filter fun line => !line.isEmpty

/-- `pieces` with the carriage return dropped from each piece that a line feed ended,
which is every piece but the last. -/
def stripTerminators : List Text → List Text
  | [] => []
  | [last] => [last]
  | piece :: rest => stripReturn piece :: stripTerminators rest

/-- The non-empty lines of a template. A carriage return is part of a terminator only
when a line feed follows it. -/
def templateLines (template : Text) : List Text :=
  (stripTerminators (fields '\n' template)).filter fun line => !line.isEmpty

/-- The terminator of emitted lines. -/
def lineEnd : Text := ['\r', '\n']

/-- Emitted text: every line, the last one included, is followed by `lineEnd`. -/
def joinLines (lines : List Text) : Text := lines.flatMap (· ++ lineEnd)

/-- The lines of a CRLF-terminated text; what follows the last terminator is dropped. -/
def crlfLines : Text → List Text
  | [] => []
  | [_] => []
  | c :: d :: rest =>
    if c = '\r' ∧ d = '\n' then [] :: crlfLines rest
    else match crlfLines (d :: rest) with
      | [] => []
      | line :: lines => (c :: line) :: lines

@[simp] theorem joinLines_nil : joinLines [] = [] := rfl

@[simp] theorem joinLines_cons (line : Text) (lines : List Text) :
    joinLines (line :: lines) = line ++ (lineEnd ++ joinLines lines) := by
  simp [joinLines]

/-- Joining distributes over appended lines. -/
theorem joinLines_append (first second : List Text) :
    joinLines (first ++ second) = joinLines first ++ joinLines second := by
  simp [joinLines]

/-- No piece of a text cut at a character has that character. -/
theorem not_mem_of_mem_fields {separator : Char} {text piece : Text}
    (h : piece ∈ fields separator text) : separator ∉ piece := by
  induction text generalizing piece with
  | nil => simp_all [fields]
  | cons c rest ih =>
    simp only [fields] at h
    split at h
    · rcases List.mem_cons.1 h with rfl | h
      · simp
      · exact ih h
    · rename_i hc
      split at h
      · simp only [List.mem_singleton] at h
        subst h
        simpa using fun heq => hc heq.symm
      · rename_i first pieces heq
        rcases List.mem_cons.1 h with rfl | h
        · have := @ih first (by simp [heq])
          simp only [List.mem_cons, not_or]
          exact ⟨fun heq => hc heq.symm, this⟩
        · exact ih (by simp [heq, h])

/-- Source lines hold no line feed. -/
theorem lineFeed_not_mem_sourceLines {source line : Text} (h : line ∈ sourceLines source) :
    '\n' ∉ line := by
  simp only [sourceLines, List.mem_filter, List.mem_map] at h
  obtain ⟨⟨piece, hpiece, rfl⟩, -⟩ := h
  have hnot := not_mem_of_mem_fields hpiece
  unfold stripReturn
  split
  · exact fun hmem => hnot (List.dropLast_subset piece hmem)
  · exact hnot

end MaterialNode.Text
