import MaterialNode.Proofs.Yaml.WrittenBlock
import MaterialNode.Yaml.Node

/-!
# Values

The value of a key in a record is read as one scalar, in whichever style it is printed. A string is
not read as nothing, because a word for nothing is printed between quotes.

## Main definitions

* `IsScalar`: a text is read as a scalar where a value stands.

## Main results

* `isScalar_of_canBePlain`, `isScalar_of_canBeSingle`, `isScalar_writeDouble`,
  `isScalar_writeBlock`: the styles.
* `exists_isScalar_writeString`: a string is read back, and not as nothing.
-/

namespace MaterialNode.Yaml

/-! ## Scalars in the Place of Values -/

/-- Whether a token can start with a character, whatever stands before it. -/
def StartsToken (text : Text) : Prop :=
  ∃ c rest, text = c :: rest ∧ c ≠ ' ' ∧ c ≠ '\t' ∧ c ≠ '\uFEFF' ∧ c ≠ '#' ∧ isBreak c = false

/-- Whether a scanner that has read a value is at the end of its line or behind it. -/
def EndsLine (cursor : Cursor) (keyAllowed : Bool) (tail : Text) : Prop :=
  (cursor.rest = tail ∧ cursor.column = 0 ∧ keyAllowed = true) ∨ cursor.rest = '\n' :: tail

/-- Whether a text with the line that it ends is read as a scalar where a value stands. -/
structure IsScalar (plain : Bool) (text written : Text) : Prop where
  /-- A document may hold the text. -/
  admitted : ∀ c ∈ written, isAdmitted c = true
  /-- The text does not start with what is passed over. -/
  startsToken : StartsToken written
  /-- The scanner reads the scalar. -/
  exists_token? : ∀ (cursor : Cursor) (tokens : List Token) (tail : Text), StartsLine tail →
    cursor.rest = written ++ tail → 0 < cursor.column → ∃ after keyAllowed,
      Scanner.token? ⟨cursor, tokens, [0], [none], false⟩
          = some ⟨after, tokens ++ [.scalar plain text], [0], [none], keyAllowed⟩
        ∧ EndsLine after keyAllowed tail

theorem isAdmitted_of_isPrintable {c : Char} (h : isPrintable c = true) : isAdmitted c = true := by
  simp [isAdmitted, h]

theorem Cursor.atMarker_of_pos {cursor : Cursor} (h : 0 < cursor.column) (marker : Text) :
    cursor.atMarker marker = false := by
  have hcolumn : (cursor.column == 0) = false := by simpa using Nat.ne_of_gt h
  simp [Cursor.atMarker, hcolumn]

/-- A plain scalar starts with a character that has no other meaning where it stands. -/
theorem startsPlain_of_not_mem {c : Char} {rest : Text} (hspacing : isSpacing c = false)
    (hnot : c ∉ "#,[]\x7b\x7d&*!|>'\"%@\x60".toList)
    (hword : ∀ d ∈ "?:-".toList, c = d → wordEnds rest = false) :
    Scanner.startsPlain false (c :: rest) = true := by
  rw [Scanner.startsPlain]
  split
  · -- A dash that starts a word.
    rename_i hdash
    have hends := hword '-' (by decide) hdash
    cases rest with
    | nil => rfl
    | cons d rest =>
      simp only [wordEnds, Bool.or_eq_false_iff] at hends
      simp [hends.1]
  split
  · rename_i hmark
    have hends : wordEnds rest = false := by
      rcases hmark with hmark | hmark
      · exact hword '?' (by decide) hmark
      · exact hword ':' (by decide) hmark
    simp [hends]
  · -- The reader has the same marks as the printer, in another order.
    have hsame : (",[]\x7b\x7d#&*!|>'\"%@\x60".toList.all fun d =>
        "#,[]\x7b\x7d&*!|>'\"%@\x60".toList.contains d) = true := by decide
    simpa only [hspacing, Bool.not_false, Bool.true_and, Bool.not_eq_true',
      List.contains_eq_mem, decide_eq_false_iff_not] using fun hmem =>
        hnot (List.contains_iff_mem.1 (List.all_eq_true.1 hsame c hmem))

/-- A character that opens no structure starts a plain scalar. -/
theorem token?_of_not_opensStructure {scanner : Scanner} {c : Char} {rest : Text}
    (hrest : scanner.cursor.rest = c :: rest) (hflow : scanner.inFlow = false)
    (hopens : opensStructure c (wordEnds rest) = false) (hspacing : isSpacing c = false)
    (hmarker : scanner.cursor.atAnyMarker = false) : scanner.token? = scanner.plain? := by
  simp only [opensStructure, Bool.or_eq_false_iff, Bool.and_eq_false_iff, List.contains_eq_mem,
    decide_eq_false_iff_not] at hopens
  obtain ⟨hnot, hmarks⟩ := hopens
  simp only [Cursor.atAnyMarker, Bool.or_eq_false_iff] at hmarker
  obtain ⟨hstart, hend⟩ := hmarker
  have hne : ∀ d ∈ "#,[]\x7b\x7d&*!|>'\"%@\x60".toList, c ≠ d := fun d hd heq => hnot (heq ▸ hd)
  have hword : ∀ d ∈ "?:-".toList, c = d → wordEnds rest = false := fun d hd heq =>
    hmarks.resolve_left fun hmem => hmem (heq ▸ hd)
  have hplain := startsPlain_of_not_mem hspacing hnot hword
  have hmark : ∀ d ∈ "?:-".toList, ¬ (c = d ∧ wordEnds rest = true) := by
    rintro d hd ⟨heq, hends⟩
    rw [hword d hd heq] at hends
    cases hends
  -- None of the branches for other tokens is taken.
  unfold Scanner.token?
  simp only [hrest, hstart, hend, hflow]
  simp [hplain, hmark '-' (by decide), hmark '?' (by decide), hmark ':' (by decide),
    hne '%' (by decide), hne '[' (by decide), hne ']' (by decide), hne '\x7b' (by decide),
    hne '\x7d' (by decide), hne ',' (by decide), hne '*' (by decide), hne '&' (by decide),
    hne '!' (by decide), hne '|' (by decide), hne '>' (by decide), hne '\'' (by decide),
    hne '"' (by decide)]

/-! ## Plain Scalars -/

variable {text : Text}

/-- What can be printed plainly is no structure. -/
theorem canBePlain_cons {c : Char} (h : canBePlain (c :: text) = true) :
    (∀ d ∈ c :: text, isPrintable d = true ∧ isBreak d = false) ∧ c ≠ ' '
      ∧ (c :: text).getLast? ≠ some ' ' ∧ opensStructure c (wordEnds text) = false
      ∧ hasStructure c text = false := by
  simp only [canBePlain, isLiteral, Bool.and_eq_true, List.all_eq_true, Bool.not_eq_true',
    looksStructured, Bool.or_eq_false_iff] at h
  obtain ⟨⟨⟨⟨⟨hprintable, -⟩, hbreak⟩, hfirst⟩, hlast⟩, ⟨⟨-, hopens⟩, hstructure⟩⟩ := h
  refine ⟨fun d hd => ⟨hprintable d hd, ?_⟩, ?_, ?_, hopens, hstructure⟩
  · simpa using List.any_eq_false.1 hbreak d hd
  · rintro rfl
    cases hfirst
  · intro hspace
    rw [hspace] at hlast
    cases hlast

/-- A text that can be printed plainly is read as a plain scalar. -/
theorem isScalar_of_canBePlain (hne : text ≠ []) (h : canBePlain text = true) :
    IsScalar true text (text ++ "\n".toList) := by
  obtain ⟨c, text, rfl⟩ := List.exists_cons_of_ne_nil hne
  obtain ⟨hprintable, hspace, hlast, hopens, hstructure⟩ := canBePlain_cons h
  have hc := hprintable c List.mem_cons_self
  have hspacing : isSpacing c = false := by simp [isSpacing_of_isPrintable hc.1, hspace]
  have hcomment : c ≠ '#' := by
    rintro rfl
    cases hopens
  constructor
  · intro d hd
    rcases List.mem_append.1 hd with hd | hd
    · exact isAdmitted_of_isPrintable (hprintable d hd).1
    · rw [List.mem_singleton.1 hd]
      rfl
  · exact ⟨c, _, rfl, hspace, ne_of_isPrintable hc.1 (by decide),
      ne_of_isPrintable hc.1 (by decide), hcomment, hc.2⟩
  · intro cursor tokens tail htail hrest hcolumn
    have hwordEnds : wordEnds (text ++ '\n' :: tail) = wordEnds text := by
      cases text <;> rfl
    have hwritten : cursor.rest = (c :: text) ++ '\n' :: tail := by simpa using hrest
    have hopens' : opensStructure c (wordEnds (text ++ '\n' :: tail)) = false := by
      rwa [hwordEnds]
    -- The first character is no colon before a space and no comment.
    have hstructure' : hasStructure c (c :: text) = false := by
      have hcolon : (decide (c = ':') && wordEnds text) = false := by
        by_cases hc : c = ':'
        · subst hc
          simpa [opensStructure] using hopens
        · simp [hc]
      simp [hasStructure, hcolon, hcomment, hstructure]
    obtain ⟨after, hread, hafter, hzero⟩ := plainRest?_append htail hprintable hlast hstructure'
      (show Gap.none.isBroken = false from rfl) (fun h => absurd h.symm Bool.false_ne_true)
      hwritten hcolumn
      (show (c :: text).length + 1 < cursor.rest.length + 1 by simp [hwritten])
    refine ⟨after, true, ?_, .inl ⟨hafter, hzero, rfl⟩⟩
    rw [token?_of_not_opensStructure hwritten rfl hopens' hspacing
      (Cursor.atAnyMarker_of_pos hcolumn)]
    unfold Scanner.plain? Scanner.markKey?
    rw [if_neg Bool.false_ne_true]
    show (plainRest? false 1 (cursor.rest.length + 1) .none cursor).bind _ = _
    rw [hread]
    rfl

/-! ## Characters of Quoted Scalars and Blocks -/

/-- Indentation adds spaces. -/
theorem mem_indentLines {atStart : Bool} {c : Char} (h : c ∈ indentLines atStart text) :
    c = ' ' ∨ c ∈ text := by
  induction text generalizing atStart with
  | nil => cases h
  | cons d text ih =>
    rw [indentLines] at h
    -- A break is followed by the next line, any other character by its own.
    split at h
    · rcases List.mem_cons.1 h with rfl | h
      · simp
      · exact (ih h).imp_right (List.mem_cons_of_mem d)
    · rcases List.mem_append.1 h with h | h
      · left
        split at h
        · simpa using h
        · cases h
      · rcases List.mem_cons.1 h with rfl | h
        · simp
        · exact (ih h).imp_right (List.mem_cons_of_mem d)

/-- The characters between single quotes are those of the text, and spaces. -/
theorem mem_writeSingle {c : Char} (h : c ∈ writeSingle text) : c = ' ' ∨ c ∈ text := by
  rw [writeSingle] at h
  rcases List.mem_append.1 h with h | h
  · refine (mem_indentLines h).imp_right fun hmem => ?_
    obtain ⟨d, hd, hmem⟩ := List.mem_flatMap.1 hmem
    have heq : c = d := by
      split at hmem <;> simpa using hmem
    exact heq ▸ hd
  · left
    split at h
    · simpa using h
    · cases h

theorem isPrintable_of_mem_writeDouble {c : Char} (h : c ∈ writeDouble text) :
    isPrintable c = true := by
  obtain ⟨d, -, hmem⟩ := List.mem_flatMap.1 h
  split at hmem
  · obtain ⟨first, spelled, hwrite, hshown, -⟩ := exists_writeEscape_eq d
    rw [hwrite] at hmem
    rcases List.mem_cons.1 hmem with rfl | hmem
    · decide
    · exact (hshown c hmem).1
  · rename_i hescape
    rw [List.mem_singleton.1 hmem]
    simp only [needsEscape, Bool.not_eq_true, Bool.or_eq_false_iff] at hescape
    simpa using hescape.1.1.1

theorem isPrintable_of_mem_writeBlock (hprintable : ∀ c ∈ text, isPrintable c = true)
    (hne : text ≠ []) {c : Char} (h : c ∈ writeBlock text) : isPrintable c = true := by
  obtain ⟨chomping, -, -, hmarks⟩ := exists_blockMarks_eq hne
  have hmark : ∀ d ∈ blockMarks text, isPrintable d = true := by
    rw [hmarks]
    intro d hd
    rcases List.mem_append.1 hd with hd | hd
    · split at hd
      · rw [List.mem_singleton.1 hd]
        decide
      · cases hd
    · cases chomping with
      | strip => rw [List.mem_singleton.1 hd]; decide
      | clip => cases hd
      | keep => rw [List.mem_singleton.1 hd]; decide
  -- The parts of a block: the bar, the marks, the lines and the last break.
  rw [writeBlock_eq] at h
  rcases List.mem_cons.1 h with rfl | h
  · decide
  rcases List.mem_append.1 h with h | h
  · exact hmark c h
  rcases List.mem_cons.1 h with rfl | h
  · decide
  rcases List.mem_append.1 h with h | h
  · rcases mem_indentLines h with rfl | h
    · decide
    · exact hprintable c h
  · unfold closingBreak at h
    split at h
    · cases h
    · rw [List.mem_singleton.1 h]
      decide

/-! ## Quoted Scalars and Blocks -/

/-- Where no key may begin, none is begun. -/
theorem keyPart?_of_not_allowed {scanner : Scanner} (hallowed : scanner.keyAllowed = false)
    {read : Cursor → Option (Token × Cursor)} {token : Token} {after : Cursor}
    (hread : read scanner.cursor = some (token, after)) :
    scanner.keyPart? read = some (((scanner.allowKey false).emit token).moveTo after) := by
  unfold Scanner.keyPart? Scanner.markKey?
  rw [if_neg (by simp [hallowed])]
  show (read scanner.cursor).bind _ = _
  rw [hread]
  rfl

section

variable {scanner : Scanner} {rest : Text}

theorem token?_of_singleQuote (hrest : scanner.cursor.rest = '\'' :: rest)
    (hcolumn : 0 < scanner.cursor.column) : scanner.token? = scanner.keyPart? fun cursor =>
      (singleRest? (Scanner.fuelAt cursor) .none cursor.next).map fun (text, after) =>
        (.scalar false text, after) := by
  unfold Scanner.token?
  simp [hrest, Cursor.atMarker_of_pos hcolumn, Nat.ne_of_gt hcolumn]

theorem token?_of_doubleQuote (hrest : scanner.cursor.rest = '"' :: rest)
    (hcolumn : 0 < scanner.cursor.column) : scanner.token? = scanner.keyPart? fun cursor =>
      (doubleRest? (Scanner.fuelAt cursor) .none cursor.next).map fun (text, after) =>
        (.scalar false text, after) := by
  unfold Scanner.token?
  simp [hrest, Cursor.atMarker_of_pos hcolumn, Nat.ne_of_gt hcolumn]

theorem token?_of_bar (hrest : scanner.cursor.rest = '|' :: rest)
    (hcolumn : 0 < scanner.cursor.column) (hflow : scanner.inFlow = false) :
    scanner.token? = scanner.blockScalar? false := by
  unfold Scanner.token?
  simp [hrest, Cursor.atMarker_of_pos hcolumn, Nat.ne_of_gt hcolumn, hflow]

end

/-- What stands between quotes is admitted if it is shown as it is. -/
theorem isAdmitted_of_quoted {quote : Char} {content : Text} (hquote : isPrintable quote = true)
    (hcontent : ∀ c ∈ content, isPrintable c = true) :
    ∀ c ∈ quote :: (content ++ [quote, '\n']), isAdmitted c = true := by
  intro c hc
  apply isAdmitted_of_isPrintable
  rcases List.mem_cons.1 hc with rfl | hc
  · exact hquote
  rcases List.mem_append.1 hc with hc | hc
  · exact hcontent c hc
  rcases List.mem_cons.1 hc with rfl | hc
  · exact hquote
  · rw [List.mem_singleton.1 hc]
    decide

/-- A text between single quotes is read as a scalar. -/
theorem isScalar_of_canBeSingle (hsingle : canBeSingle text = true) (hfeed : '\n' ∉ text) :
    IsScalar false text ('\'' :: (writeSingle text ++ "'\n".toList)) := by
  constructor
  · have hprintable : ∀ c ∈ text, isPrintable c = true := by
      simp only [canBeSingle, isLiteral, Bool.and_eq_true, List.all_eq_true] at hsingle
      exact hsingle.1.1
    refine isAdmitted_of_quoted (by decide) fun c hc => ?_
    rcases mem_writeSingle hc with rfl | hc
    · decide
    · exact hprintable c hc
  · exact ⟨'\'', _, rfl, by decide, by decide, by decide, by decide, by decide⟩
  · intro cursor tokens tail htail hrest hcolumn
    have hquoted : cursor.rest = '\'' :: (writeSingle text ++ '\'' :: '\n' :: tail) := by
      simpa using hrest
    have hcontent : cursor.next.rest = writeSingle text ++ '\'' :: '\n' :: tail := by
      simp [hquoted]
    obtain ⟨after, hread, hafter⟩ := singleRest?_writeSingle (by simp) hsingle hfeed hcontent
      (by simp) (show (writeSingle text).length < cursor.rest.length + 1 by simp [hquoted]; omega)
    refine ⟨after, false, ?_, .inr hafter⟩
    have hscalar : (singleRest? (Scanner.fuelAt cursor) .none cursor.next).map
        (fun (text, after) => (Token.scalar false text, after))
          = some (.scalar false text, after) :=
      congrArg (Option.map _) hread
    rw [token?_of_singleQuote hquoted hcolumn, keyPart?_of_not_allowed rfl hscalar]
    rfl

/-- A text between double quotes is read as a scalar. -/
theorem isScalar_writeDouble (text : Text) :
    IsScalar false text ('"' :: (writeDouble text ++ "\"\n".toList)) := by
  constructor
  · exact isAdmitted_of_quoted (by decide) fun c hc => isPrintable_of_mem_writeDouble hc
  · exact ⟨'"', _, rfl, by decide, by decide, by decide, by decide, by decide⟩
  · intro cursor tokens tail htail hrest hcolumn
    have hquoted : cursor.rest = '"' :: (writeDouble text ++ '"' :: '\n' :: tail) := by
      simpa using hrest
    have hcontent : cursor.next.rest = writeDouble text ++ '"' :: '\n' :: tail := by
      simp [hquoted]
    obtain ⟨after, hread, hafter⟩ := doubleRest?_writeDouble hcontent (by simp)
      (show (writeDouble text).length < cursor.rest.length + 1 by simp [hquoted]; omega)
    have hscalar : (doubleRest? (Scanner.fuelAt cursor) .none cursor.next).map
        (fun (text, after) => (Token.scalar false text, after))
          = some (.scalar false text, after) :=
      congrArg (Option.map _) hread
    refine ⟨after, false, ?_, .inr hafter⟩
    rw [token?_of_doubleQuote hquoted hcolumn, keyPart?_of_not_allowed rfl hscalar]
    rfl

/-- A block is read as a scalar. -/
theorem isScalar_writeBlock (hprintable : ∀ c ∈ text, isPrintable c = true) (hne : text ≠ []) :
    IsScalar false text (writeBlock text) := by
  constructor
  · exact fun c hc => isAdmitted_of_isPrintable (isPrintable_of_mem_writeBlock hprintable hne hc)
  · exact ⟨'|', _, writeBlock_eq text, by decide, by decide, by decide, by decide, by decide⟩
  · intro cursor tokens tail htail hrest hcolumn
    have hopened : ∃ rest, cursor.rest = '|' :: rest := by
      rw [hrest, writeBlock_eq]
      exact ⟨_, rfl⟩
    obtain ⟨rest, hopened⟩ := hopened
    -- The bar is taken as a token, and the block is what comes after it.
    have hblock : '|' :: cursor.next.rest = writeBlock text ++ tail := by
      rw [← hrest, Cursor.rest_next, hopened]
      rfl
    obtain ⟨after, hread, hafter, hzero⟩ := block?_writeBlock htail hne hprintable hblock
    refine ⟨after, true, ?_, .inl ⟨hafter, hzero, rfl⟩⟩
    rw [token?_of_bar hopened hcolumn rfl]
    show (block? false (some 0) cursor.next).bind _ = _
    rw [hread]
    rfl

/-! ## Strings -/

/-- A word for nothing is not printed plainly. -/
theorem isAmbiguous_of_isNullWord (h : text = [] ∨ Node.isNullWord text = true) :
    isAmbiguous text = true := by
  simp only [Node.isNullWord, Bool.or_eq_true, decide_eq_true_eq] at h
  rcases h with rfl | ((rfl | rfl) | rfl) | rfl
  · rfl
  all_goals decide +kernel

/-- A string is read back, and not as nothing. -/
theorem exists_isScalar_writeString (text : Text) : ∃ plain, IsScalar plain text (writeString text)
    ∧ (plain = true → text ≠ [] ∧ Node.isNullWord text = false) := by
  have hquoted : false = true → text ≠ [] ∧ Node.isNullWord text = false :=
    fun h => absurd h Bool.false_ne_true
  unfold writeString Style.ofText
  -- The cases are the choices of the printer.
  by_cases hfeed : '\n' ∈ text
  · have hne : text ≠ [] := List.ne_nil_of_mem hfeed
    rw [if_pos (by simpa using hfeed)]
    by_cases hblock : canBeBlock text = true
    · rw [if_pos hblock]
      have hprintable : ∀ c ∈ text, isPrintable c = true := by
        simp only [canBeBlock, isLiteral, Bool.and_eq_true, List.all_eq_true] at hblock
        exact hblock.1.1
      exact ⟨false, isScalar_writeBlock hprintable hne, hquoted⟩
    · rw [if_neg hblock]
      exact ⟨false, isScalar_writeDouble text, hquoted⟩
  · rw [if_neg (by simpa using hfeed)]
    by_cases hplain : (!isAmbiguous text && canBePlain text) = true
    · rw [if_pos hplain]
      rw [Bool.and_eq_true, Bool.not_eq_true'] at hplain
      obtain ⟨hword, hplain⟩ := hplain
      have hnot : ¬ (text = [] ∨ Node.isNullWord text = true) := by
        intro hnull
        rw [isAmbiguous_of_isNullWord hnull] at hword
        cases hword
      rw [not_or, Bool.not_eq_true] at hnot
      exact ⟨true, isScalar_of_canBePlain hnot.1 hplain, fun _ => hnot⟩
    · rw [if_neg hplain]
      by_cases hsingle : canBeSingle text = true
      · rw [if_pos hsingle]
        exact ⟨false, isScalar_of_canBeSingle hsingle hfeed, hquoted⟩
      · rw [if_neg hsingle]
        exact ⟨false, isScalar_writeDouble text, hquoted⟩

end MaterialNode.Yaml
