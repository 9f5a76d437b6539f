import MaterialNode.Proofs.Text.Characters

/-!
# Joined Lines

Emitted lines are joined with CRLF. A line has no line feed, so a terminator is found at the end of
each line and nowhere else, whatever carriage returns the lines hold or end with. Cutting the joined
text at its terminators therefore gives the lines back (`exists_joinLines_eq`).
-/

namespace MaterialNode.Text

variable {c : Char} {delimiter text line : Text} {lines : List Text}

/-! ## Cutting at a Delimiter -/

/-- The pieces of a text, of which the first has one more character in front. -/
def consFirst (c : Char) : List Text → List Text
  | [] => [[c]]
  | first :: rest => (c :: first) :: rest

/-- The pieces of a text between the occurrences of a delimiter. Occurrences are taken from the left
and do not overlap; `skip` characters of one already taken are passed over. -/
def piecesFrom (delimiter : Text) (skip : Nat) : Text → List Text
  | [] => [[]]
  | c :: rest =>
    match skip with
    | skip + 1 => piecesFrom delimiter skip rest
    | 0 =>
      if delimiter.isPrefixOf (c :: rest) then
        [] :: piecesFrom delimiter (delimiter.length - 1) rest
      else consFirst c (piecesFrom delimiter 0 rest)

/-- The pieces of a text between the occurrences of a non-empty delimiter. -/
def pieces (delimiter text : Text) : List Text := piecesFrom delimiter 0 text

theorem pieces_nil (delimiter : Text) : pieces delimiter [] = [[]] := rfl

/-- A delimiter that does not start a text leaves its first character to the first piece. -/
theorem pieces_cons (h : ¬ delimiter <+: c :: text) :
    pieces delimiter (c :: text) = consFirst c (pieces delimiter text) := by
  rw [← List.isPrefixOf_iff_prefix] at h
  rw [pieces, piecesFrom, if_neg h]
  rfl

theorem pieces_ne_nil (delimiter text : Text) : pieces delimiter text ≠ [] := by
  have general : ∀ skip, piecesFrom delimiter skip text ≠ [] := by
    intro skip
    fun_induction piecesFrom delimiter skip text with
    | case1 => simp
    | case2 _ _ _ ih => exact ih
    | case3 => simp
    | case4 c rest hprefix ih =>
      rw [consFirst.eq_def]
      split <;> simp
  exact general 0

/-! ## Lines and Terminators -/

@[simp] theorem pieces_lineEnd_append (text : Text) :
    pieces lineEnd (lineEnd ++ text) = [] :: pieces lineEnd text := by
  have hprefix : lineEnd.isPrefixOf ('\r' :: '\n' :: text) = true := by simp [lineEnd]
  rw [lineEnd, List.cons_append, List.cons_append, List.nil_append, ← lineEnd, pieces, piecesFrom,
    if_pos hprefix]
  rfl

/-- The lines of a terminated text are the pieces before the last terminator. -/
theorem crlfLines_append_lineEnd : ∀ body : Text,
    crlfLines (body ++ lineEnd) = pieces lineEnd body
  | [] => rfl
  | [c] => by
    have hprefix : ¬ lineEnd <+: [c] := fun h => absurd h.length_le (by simp [lineEnd])
    rw [pieces_cons hprefix]
    simp [crlfLines, lineEnd, pieces_nil, consFirst]
  | c :: d :: body => by
    by_cases hend : c = '\r' ∧ d = '\n'
    · -- A terminator within the text ends a line and a piece.
      obtain ⟨rfl, rfl⟩ := hend
      have ih := crlfLines_append_lineEnd body
      have hpieces := pieces_lineEnd_append body
      rw [lineEnd, List.cons_append, List.cons_append, List.nil_append, ← lineEnd] at hpieces
      rw [hpieces, List.cons_append, List.cons_append, crlfLines, if_pos ⟨rfl, rfl⟩, ih]
    · -- Otherwise the first character belongs to the first line and to the first piece.
      have ih := crlfLines_append_lineEnd (d :: body)
      have hprefix : ¬ lineEnd <+: c :: d :: body := by
        rw [lineEnd, List.cons_prefix_cons, List.cons_prefix_cons]
        rintro ⟨rfl, rfl, -⟩
        exact hend ⟨rfl, rfl⟩
      rw [List.cons_append] at ih
      rw [pieces_cons hprefix, List.cons_append, List.cons_append, crlfLines, if_neg hend, ih]
      obtain ⟨first, rest, hpieces⟩ := List.exists_cons_of_ne_nil
        (pieces_ne_nil lineEnd (d :: body))
      rw [hpieces]
      rfl

/-- No terminator starts within a line: the line feed of the terminator is not in the line. -/
theorem not_lineEnd_prefix (hline : IsLine (c :: line))
    (htext : text.head? ≠ some '\n') : ¬ lineEnd <+: c :: (line ++ text) := by
  rw [lineEnd, List.cons_prefix_cons]
  rintro ⟨-, hfeed⟩
  rw [List.singleton_prefix_iff_head?_eq_some] at hfeed
  cases line with
  | nil => exact htext hfeed
  | cons d line =>
    obtain rfl : d = '\n' := Option.some.inj hfeed
    simp at hline

/-- A line without a terminator is one piece. -/
theorem pieces_of_isLine (h : IsLine line) : pieces lineEnd line = [line] := by
  induction line with
  | nil => rfl
  | cons c line ih =>
    have hprefix : ¬ lineEnd <+: c :: (line ++ []) := not_lineEnd_prefix h (by simp)
    rw [List.append_nil] at hprefix
    rw [pieces_cons hprefix, ih (isLine_cons_iff.1 h).2]
    rfl

/-- A terminated line is the first piece. -/
theorem pieces_append (h : IsLine line) (text : Text) :
    pieces lineEnd (line ++ (lineEnd ++ text)) = line :: pieces lineEnd text := by
  induction line with
  | nil => exact pieces_lineEnd_append text
  | cons c line ih =>
    have hprefix : ¬ lineEnd <+: c :: (line ++ (lineEnd ++ text)) :=
      not_lineEnd_prefix h (by simp [lineEnd])
    rw [List.cons_append, pieces_cons hprefix, ih (isLine_cons_iff.1 h).2]
    rfl

/-- Lines that are joined but for the last terminator are the pieces between the terminators. -/
theorem pieces_joinLines_append (hlines : ∀ line ∈ lines, IsLine line) (hlast : IsLine line) :
    pieces lineEnd (joinLines lines ++ line) = lines ++ [line] := by
  induction lines with
  | nil => exact pieces_of_isLine hlast
  | cons first lines ih =>
    obtain ⟨hfirst, hlines⟩ := List.forall_mem_cons.1 hlines
    rw [joinLines_cons, List.append_assoc, List.append_assoc, pieces_append hfirst, ih hlines]
    rfl

/-- Joined lines end with a terminator, and the lines are the pieces between the terminators before
it. -/
theorem exists_joinLines_eq (hne : lines ≠ []) (hlines : ∀ line ∈ lines, IsLine line) :
    ∃ body, joinLines lines = body ++ lineEnd ∧ pieces lineEnd body = lines := by
  obtain ⟨start, last, rfl⟩ := (List.eq_nil_or_concat lines).resolve_left hne
  rw [List.concat_eq_append] at hlines ⊢
  refine ⟨joinLines start ++ last, ?_, ?_⟩
  · rw [joinLines_append, List.append_assoc]
    simp
  · refine pieces_joinLines_append (fun line hmem => hlines line ?_) (hlines last ?_)
    · exact List.mem_append_left [last] hmem
    · simp

/-- The lines of a text that was joined from lines are these lines. -/
theorem crlfLines_joinLines (hlines : ∀ line ∈ lines, IsLine line) :
    crlfLines (joinLines lines) = lines := by
  by_cases hne : lines = []
  · rw [hne]
    rfl
  · obtain ⟨body, hbody, hpieces⟩ := exists_joinLines_eq hne hlines
    rw [hbody, crlfLines_append_lineEnd, hpieces]

end MaterialNode.Text
