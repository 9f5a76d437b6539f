import MaterialNode.Proofs.Text.Characters

/-!
# Cutting at a Character

A separator character parts the fields before it from those after it, so what is joined with a
separator is cut into the same fields again (`fields_joinWith`). Words are fields that spaces part.
Source lines are fields that line feeds part, so they are read part by part as well: a line feed ends
whatever stands before it (`sourceLines_append_cons`).
-/

namespace MaterialNode.Text

variable {separator : Char} {text line : Text}

/-! ## Avoided Characters -/

/-- Whether none of some characters is in a text. -/
def Avoids (marks text : Text) : Prop := ∀ c ∈ marks, c ∉ text

instance (marks text : Text) : Decidable (Avoids marks text) :=
  decidable_of_iff ((marks.all fun c => !text.contains c) = true) (by simp [Avoids])

theorem Avoids.mono {marks others text : Text} (h : Avoids marks text) (hsubset : others ⊆ marks) :
    Avoids others text :=
  fun c hc => h c (hsubset hc)

theorem Avoids.append {marks left right : Text} (hleft : Avoids marks left)
    (hright : Avoids marks right) : Avoids marks (left ++ right) := by
  intro c hc hmem
  rcases List.mem_append.1 hmem with hmem | hmem
  · exact hleft c hc hmem
  · exact hright c hc hmem

/-! ## Fields -/

theorem fields_of_not_mem (h : separator ∉ text) : fields separator text = [text] := by
  induction text with
  | nil => rfl
  | cons c text ih =>
    rw [List.mem_cons, not_or] at h
    rw [fields, if_neg (Ne.symm h.1), ih h.2]

/-- A separator parts the fields before it from those after it. -/
theorem fields_append_cons (separator : Char) (left right : Text) :
    fields separator (left ++ separator :: right)
      = fields separator left ++ fields separator right := by
  induction left with
  | nil => simp [fields]
  | cons c left ih =>
    rw [List.cons_append, fields, ih, fields]
    split
    · rfl
    · obtain ⟨first, rest, hfields⟩ := List.exists_cons_of_ne_nil (fields_ne_nil separator left)
      rw [hfields]
      rfl

/-- A text is made of its fields with separators between them. -/
theorem joinWith_fields (separator : Char) (text : Text) :
    joinWith [separator] (fields separator text) = text := by
  induction text with
  | nil => rfl
  | cons c text ih =>
    obtain ⟨first, rest, hfields⟩ := List.exists_cons_of_ne_nil (fields_ne_nil separator text)
    rw [hfields] at ih
    rw [fields]
    by_cases hc : c = separator
    · rw [if_pos hc, hfields, joinWith, ih, hc]
      · rfl
      · exact List.cons_ne_nil first rest
    · rw [if_neg hc, hfields, ← ih]
      cases rest <;> rfl

/-! ## Joined Texts -/

theorem joinWith_cons (delimiter piece : Text) {pieces : List Text} (hne : pieces ≠ []) :
    joinWith delimiter (piece :: pieces) = piece ++ delimiter ++ joinWith delimiter pieces := by
  obtain ⟨next, rest, rfl⟩ := List.exists_cons_of_ne_nil hne
  rfl

/-- The delimiters between joined texts stand after all of them but the last. -/
theorem joinWith_append_eq_flatMap (delimiter : Text) (first : List Text) {second : List Text}
    (hsecond : second ≠ []) : joinWith delimiter (first ++ second)
      = first.flatMap (· ++ delimiter) ++ joinWith delimiter second := by
  induction first with
  | nil => rfl
  | cons piece first ih =>
    rw [List.cons_append, joinWith_cons _ _ (List.append_ne_nil_of_right_ne_nil first hsecond), ih,
      List.flatMap_cons, List.append_assoc (piece ++ delimiter)]

/-- Texts that each have the delimiter after them are the joined texts and one more delimiter. -/
theorem flatMap_append_eq_joinWith (delimiter : Text) {pieces : List Text} (hne : pieces ≠ []) :
    pieces.flatMap (· ++ delimiter) = joinWith delimiter pieces ++ delimiter := by
  obtain ⟨start, last, rfl⟩ := (List.eq_nil_or_concat pieces).resolve_left hne
  rw [List.concat_eq_append, joinWith_append_eq_flatMap _ _ (List.cons_ne_nil last [])]
  simp [joinWith]

theorem joinWith_append {first second : List Text} (hfirst : first ≠ []) (hsecond : second ≠ []) :
    joinWith [separator] (first ++ second)
      = joinWith [separator] first ++ separator :: joinWith [separator] second := by
  rw [joinWith_append_eq_flatMap _ _ hsecond, flatMap_append_eq_joinWith _ hfirst,
    List.append_assoc, List.singleton_append]

/-- Fields with separators between them are the fields of the text that they make. -/
theorem fields_joinWith {pieces : List Text} (hne : pieces ≠ [])
    (h : ∀ piece ∈ pieces, separator ∉ piece) :
    fields separator (joinWith [separator] pieces) = pieces := by
  induction pieces with
  | nil => exact absurd rfl hne
  | cons piece pieces ih =>
    obtain ⟨hpiece, hpieces⟩ := List.forall_mem_cons.1 h
    by_cases hrest : pieces = []
    · rw [hrest]
      exact fields_of_not_mem hpiece
    · rw [joinWith_cons _ _ hrest, List.append_assoc, List.singleton_append, fields_append_cons,
        fields_of_not_mem hpiece, ih hrest hpieces, List.singleton_append]

/-- Joined texts without the separator have one separator less than there are texts. -/
theorem count_joinWith {pieces : List Text} (h : ∀ piece ∈ pieces, separator ∉ piece) :
    (joinWith [separator] pieces).count separator = pieces.length - 1 := by
  induction pieces with
  | nil => rfl
  | cons piece pieces ih =>
    obtain ⟨hpiece, hpieces⟩ := List.forall_mem_cons.1 h
    have hzero : piece.count separator = 0 := List.count_eq_zero.2 hpiece
    by_cases hrest : pieces = []
    · rw [hrest]
      exact hzero
    · have hlength : pieces.length ≠ 0 := mt List.length_eq_zero_iff.1 hrest
      rw [joinWith_cons _ _ hrest, List.count_append, List.count_append, hzero,
        List.count_singleton_self, ih hpieces, List.length_cons]
      omega

/-- Joining brings in no character but those of the delimiter. -/
theorem not_mem_joinWith {c : Char} {delimiter : Text} {pieces : List Text} (hc : c ∉ delimiter)
    (h : ∀ piece ∈ pieces, c ∉ piece) : c ∉ joinWith delimiter pieces := by
  induction pieces with
  | nil => exact List.not_mem_nil
  | cons piece pieces ih =>
    obtain ⟨hpiece, hpieces⟩ := List.forall_mem_cons.1 h
    by_cases hrest : pieces = []
    · rw [hrest]
      exact hpiece
    · rw [joinWith_cons _ _ hrest]
      simp only [List.mem_append, hpiece, hc, ih hpieces, or_self, not_false_eq_true]

/-! ## Read Items -/

/-- Written items are read one by one if each of them is. -/
theorem mapM_map_eq_some_map {α β γ : Type} {items : List α} {write : α → β} {read? : β → Option γ}
    {value : α → γ} (h : ∀ item ∈ items, read? (write item) = some (value item)) :
    (items.map write).mapM read? = some (items.map value) := by
  induction items with
  | nil => rfl
  | cons item items ih =>
    obtain ⟨hitem, hitems⟩ := List.forall_mem_cons.1 h
    rw [List.map_cons, List.mapM_cons, hitem, ih hitems]
    rfl

/-! ## Words -/

/-- The words of a text, which spaces part. -/
def words (text : Text) : List Text := (fields ' ' text).filter fun word => !word.isEmpty

theorem words_of_not_mem (hne : text ≠ []) (hspace : ' ' ∉ text) : words text = [text] := by
  rw [words, fields_of_not_mem hspace]
  simpa using hne

/-- A space parts the words before it from those after it. -/
theorem words_append_cons (left right : Text) :
    words (left ++ ' ' :: right) = words left ++ words right := by
  rw [words, fields_append_cons, List.filter_append]
  rfl

@[simp] theorem words_space_cons (text : Text) : words (' ' :: text) = words text :=
  words_append_cons [] text

/-! ## Source Lines -/

/-- The lines of a list that are not empty. -/
def nonemptyLines (lines : List Text) : List Text := lines.filter fun line => !line.isEmpty

@[simp] theorem nonemptyLines_append (first second : List Text) :
    nonemptyLines (first ++ second) = nonemptyLines first ++ nonemptyLines second :=
  List.filter_append first second

/-- A line feed parts the source lines before it from those after it. -/
theorem sourceLines_append_cons (left right : Text) :
    sourceLines (left ++ '\n' :: right) = sourceLines left ++ sourceLines right := by
  rw [sourceLines, fields_append_cons, List.map_append, List.filter_append]
  rfl

/-- The source lines of a text without line feeds are the text itself, if anything is left of it
without a carriage return at its end. -/
theorem sourceLines_of_isLine (h : IsLine line) :
    sourceLines line = nonemptyLines [stripReturn line] := by
  rw [sourceLines, fields_of_not_mem h, List.map_singleton, nonemptyLines]

theorem stripReturn_eq_self (h : line.getLast? ≠ some '\r') : stripReturn line = line := if_neg h

@[simp] theorem stripReturn_append_return (line : Text) : stripReturn (line ++ ['\r']) = line := by
  rw [stripReturn, if_pos List.getLast?_concat, List.dropLast_concat]

end MaterialNode.Text
