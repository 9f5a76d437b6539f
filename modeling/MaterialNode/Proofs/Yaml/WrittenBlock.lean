import MaterialNode.Proofs.Yaml.WrittenLine

/-!
# Blocks

A string of several lines is printed as a block that keeps its breaks. The marks of the block state
the indentation where the text would hide it, and which of the breaks at the end belong to the text.

## Main definitions

* `trailing`: the breaks at the end of a text.
* `Chomping.Fits`: a chomping leaves the breaks at the end of a text as they are.

## Main results

* `blockLines?_indentLines`: the lines of a block are read back if the chomping fits.
* `exists_blockMarks_eq`: the marks of a block state a chomping that fits.
* `block?_writeBlock`: a block is read back.
-/

namespace MaterialNode.Yaml

variable {text tail : Text}

/-! ## Indented Lines -/

theorem indentLines_append {line : Text} (h : ∀ c ∈ line, isBreak c = false) (rest : Text) :
    indentLines false (line ++ rest) = line ++ indentLines false rest := by
  induction line with
  | nil => rfl
  | cons c line ih =>
    obtain ⟨hc, hline⟩ := List.forall_mem_cons.1 h
    rw [List.cons_append, indentLines, if_neg (by simp [hc]), ih hline]
    rfl

/-- Empty lines are not indented. -/
theorem indentLines_breaks_append {breaks : Text} (h : ∀ c ∈ breaks, isBreak c = true)
    (rest : Text) : indentLines true (breaks ++ rest) = breaks ++ indentLines true rest := by
  induction breaks with
  | nil => rfl
  | cons c breaks ih =>
    obtain ⟨hc, hbreaks⟩ := List.forall_mem_cons.1 h
    rw [List.cons_append, indentLines, if_pos hc, ih hbreaks]
    rfl

theorem indentLines_true_cons {c : Char} (h : isBreak c = false) (rest : Text) :
    indentLines true (c :: rest) = ' ' :: ' ' :: indentLines false (c :: rest) := by
  simp [indentLines, h]

theorem length_le_length_indentLines (atStart : Bool) (text : Text) :
    text.length ≤ (indentLines atStart text).length := by
  induction text generalizing atStart with
  | nil => simp
  | cons c text ih =>
    have htrue := ih true
    have hfalse := ih false
    rw [indentLines]
    split <;> simp <;> omega

/-- A text is made of breaks and of what follows them, which starts with no break. -/
theorem exists_eq_breaks_append (text : Text) : ∃ breaks rest, text = breaks ++ rest
    ∧ (∀ c ∈ breaks, isBreak c = true) ∧ rest.head?.any isBreak = false := by
  refine ⟨text.takeWhile isBreak, text.dropWhile isBreak, List.takeWhile_append_dropWhile.symm,
    List.all_eq_true.1 List.all_takeWhile, ?_⟩
  have hnot := List.head?_dropWhile_not isBreak text
  cases hhead : (text.dropWhile isBreak).head? with
  | none => rfl
  | some c =>
    rw [hhead] at hnot
    simpa using hnot

/-! ## Empty Lines -/

section

variable {indent : Option Nat} {cursor : Cursor} {fuel deepest : Nat} {rest : Text}

/-- Breaks are passed over and told. -/
theorem blockBreaks?_append (indent : Option Nat) (fuel deepest : Nat) {breaks : Text}
    (hbreaks : ∀ c ∈ breaks, isBreak c = true)
    (hprintable : ∀ c ∈ breaks, isPrintable c = true) (hrest : cursor.rest = breaks ++ rest)
    (hcolumn : cursor.column = 0) : ∃ next : Cursor, next.rest = rest ∧ next.column = 0
      ∧ blockBreaks? indent (fuel + breaks.length) deepest cursor
        = (blockBreaks? indent fuel deepest next).map fun (scanned, deepest) =>
            (prepend breaks scanned, deepest) := by
  -- Each break is a step of the reader, which is then in the first column again.
  induction breaks generalizing cursor with
  | nil => exact ⟨cursor, hrest, hcolumn, by simp [prepend]⟩
  | cons c breaks ih =>
    obtain ⟨hc, hbreaks⟩ := List.forall_mem_cons.1 hbreaks
    obtain ⟨hshown, hprintable⟩ := List.forall_mem_cons.1 hprintable
    obtain ⟨hsame, hreturn⟩ := breakInText_of_isPrintable hshown hc
    have hspace : c ≠ ' ' := by
      rintro rfl
      exact absurd hc (by decide)
    have htab : c ≠ '\t' := ne_of_isPrintable hshown (by decide)
    obtain ⟨next, hnext, hzero, hread⟩ := ih hbreaks hprintable
      (Cursor.rest_nextLine hrest hreturn) cursor.column_nextLine
    refine ⟨next, hnext, hzero, ?_⟩
    rw [List.length_cons, ← Nat.add_assoc, blockBreaks?, hrest, hcolumn]
    simp [hspace, htab, hc, hread, hsame, prepend, Function.comp_def]

/-- The indentation of a line is passed over, and more is not if it is stated. -/
theorem blockBreaks?_of_indentation (fuel : Nat) {c : Char}
    (hrest : cursor.rest = ' ' :: ' ' :: c :: rest) (hcolumn : cursor.column = 0)
    (hbreak : isBreak c = false)
    (hindent : indent = some 2 ∨ indent = none ∧ isSpacing c = false) :
    blockBreaks? indent (fuel + 3) 0 cursor = some (([], cursor.skip 2), 2) := by
  have hskip : cursor.next.next = cursor.skip 2 := by simp [Cursor.next, Cursor.skip_skip]
  rw [blockBreaks?, hrest, blockBreaks?, blockBreaks?]
  rcases hindent with rfl | ⟨rfl, hspacing⟩
  · simp [hrest, hcolumn, hbreak, hskip]
  · simp only [isSpacing, Bool.or_eq_false_iff, decide_eq_false_iff_not] at hspacing
    simp [hrest, hcolumn, hbreak, hskip, hspacing]

/-- A line that is not indented ends the block. -/
theorem blockBreaks?_of_startsLine (indent : Option Nat) (fuel deepest : Nat)
    (htail : StartsLine tail) (hrest : cursor.rest = tail) (hcolumn : cursor.column = 0) :
    blockBreaks? indent (fuel + 1) deepest cursor = some (([], cursor), deepest) := by
  rw [blockBreaks?, hrest, hcolumn]
  cases tail with
  | nil => simp
  | cons c tail =>
    have hkey : isKeyChar c = true := htail c rfl
    have hspace : c ≠ ' ' := ne_of_isKeyChar hkey (by decide)
    have htab : c ≠ '\t' := ne_of_isKeyChar hkey (by decide)
    simp [hspace, htab, isBreak_of_isKeyChar hkey]

/-- The empty lines before a line are passed over, and its indentation. -/
theorem blockBreaks?_indentLines {breaks lines following : Text}
    (hbreaks : ∀ c ∈ breaks, isBreak c = true) (hprintable : ∀ c ∈ breaks, isPrintable c = true)
    (hlines : lines.head?.any isBreak = false) (hfollowing : lines = [] → StartsLine following)
    (hrest : cursor.rest = indentLines true (breaks ++ lines) ++ following)
    (hcolumn : cursor.column = 0) (hfuel : cursor.rest.length < fuel) : ∃ after deepest,
      blockBreaks? (some 2) fuel 0 cursor = some ((breaks, after), deepest)
        ∧ after.rest = indentLines false lines ++ following
        ∧ after.column = if lines = [] then 0 else 2 := by
  rw [indentLines_breaks_append hbreaks, List.append_assoc] at hrest
  rw [hrest, List.length_append] at hfuel
  obtain ⟨fuel, rfl⟩ : ∃ n, fuel = n + breaks.length := ⟨fuel - breaks.length, by omega⟩
  obtain ⟨next, hnext, hzero, hread⟩ := blockBreaks?_append (some 2) fuel 0 hbreaks
    hprintable hrest hcolumn
  -- Behind the breaks the text of the block ends, or its next line is indented.
  rw [hread]
  cases lines with
  | nil =>
    obtain ⟨fuel, rfl⟩ : ∃ n, fuel = n + 1 := ⟨fuel - 1, by omega⟩
    have hstops := blockBreaks?_of_startsLine (some 2) fuel 0 (hfollowing rfl) hnext hzero
    exact ⟨next, 0, by simp [hstops, prepend], hnext, hzero⟩
  | cons c lines =>
    have hbreak : isBreak c = false := hlines
    have hindented := indentLines_true_cons hbreak lines
    have hline : indentLines false (c :: lines) = c :: indentLines false lines := by
      simp [indentLines, hbreak]
    rw [hindented, hline] at hfuel
    obtain ⟨fuel, rfl⟩ : ∃ n, fuel = n + 3 := ⟨fuel - 3, by simp at hfuel; omega⟩
    have hspaced : next.rest = ' ' :: ' ' :: c :: (indentLines false lines ++ following) := by
      rw [hnext, hindented, hline]
      rfl
    have hstops := blockBreaks?_of_indentation fuel hspaced hzero hbreak (.inl rfl)
    refine ⟨next.skip 2, 2, by simp [hstops, prepend], ?_, by simp [hzero]⟩
    rw [Cursor.rest_skip, hnext, hindented]
    rfl

end

/-! ## The Breaks at the End -/

/-- The breaks at the end of a text. -/
def trailing (text : Text) : Text := (text.reverse.takeWhile isBreak).reverse

/-- Whether a chomping leaves the breaks at the end of a text as they are. -/
def Chomping.Fits (chomping : Chomping) (text : Text) : Prop :=
  match chomping with
  | .strip => trailing text = []
  | .clip => ∃ c, trailing text = [c]
  | .keep => trailing text ≠ []

/-- The breaks at the end come after the last line. -/
theorem trailing_append {c : Char} (hc : isBreak c = false) (before after : Text) :
    trailing (before ++ c :: after) = trailing (c :: after) := by
  -- The character is no break, so that the breaks do not reach over it.
  have hnot : ¬ ((c :: after).reverse.takeWhile isBreak).length = (c :: after).reverse.length := by
    intro hlength
    have hwhole := (List.takeWhile_prefix isBreak).eq_of_length hlength
    have hmem : c ∈ (c :: after).reverse.takeWhile isBreak := by
      rw [hwhole]
      simp
    rw [List.all_eq_true.1 List.all_takeWhile c hmem] at hc
    cases hc
  rw [trailing, trailing, List.reverse_append, List.takeWhile_append, if_neg hnot]

theorem trailing_line_append {line breaks : Text} (hne : line ≠ [])
    (hline : ∀ c ∈ line, isBreak c = false) (hbreaks : ∀ c ∈ breaks, isBreak c = true) :
    trailing (line ++ breaks) = breaks := by
  obtain ⟨before, c, rfl⟩ : ∃ before c, line = before ++ [c] :=
    by simpa using (List.eq_nil_or_concat _).resolve_left hne
  have hc : isBreak c = false := hline c (by simp)
  have hreverse : ∀ d ∈ breaks.reverse, isBreak d = true := by simpa using hbreaks
  rw [List.append_assoc, List.singleton_append, trailing_append hc, trailing, List.reverse_cons,
    List.takeWhile_append_of_pos hreverse, List.takeWhile_cons_of_neg (by simp [hc]),
    List.append_nil, List.reverse_reverse]

theorem Chomping.Fits.of_append {chomping : Chomping} {before rest : Text}
    (h : chomping.Fits (before ++ rest)) (hne : rest ≠ [])
    (hhead : rest.head?.any isBreak = false) : chomping.Fits rest := by
  obtain ⟨c, rest, rfl⟩ := List.exists_cons_of_ne_nil hne
  unfold Fits at h ⊢
  rwa [trailing_append hhead] at h

/-- A chomping that fits leaves the breaks after the last line. -/
theorem Chomping.Fits.tail_eq {chomping : Chomping} (h : chomping.Fits text) {c : Char}
    {others : Text} (htext : trailing text = c :: others) :
    chomping.tail [c] others = c :: others := by
  cases chomping with
  | strip =>
    rw [Fits, htext] at h
    cases h
  | clip =>
    obtain ⟨d, hd⟩ := h
    rw [htext] at hd
    obtain ⟨rfl, rfl⟩ := List.cons.inj hd
    rfl
  | keep => rfl

/-- Without breaks at the end, the break after the last line is dropped. -/
theorem Chomping.Fits.eq_strip {chomping : Chomping} (h : chomping.Fits text)
    (htext : trailing text = []) : chomping = .strip := by
  cases chomping with
  | strip => rfl
  | clip =>
    obtain ⟨d, hd⟩ := h
    rw [htext] at hd
    cases hd
  | keep => exact absurd htext h

/-! ## The Lines of a Block -/

/-- The break after a block whose text does not end in one. -/
def closingBreak (text : Text) : Text := if text.getLast?.any isBreak then [] else ['\n']

theorem closingBreak_append {rest : Text} (hne : rest ≠ []) (before : Text) :
    closingBreak (before ++ rest) = closingBreak rest := by
  rw [closingBreak, closingBreak, List.getLast?_append]
  cases hlast : rest.getLast? with
  | none => exact absurd (List.getLast?_eq_none_iff.1 hlast) hne
  | some c => rfl

theorem closingBreak_append_line {line : Text} (hne : line ≠ [])
    (hline : ∀ c ∈ line, isBreak c = false) (before : Text) :
    closingBreak (before ++ line) = ['\n'] := by
  obtain ⟨line, c, rfl⟩ : ∃ above c, line = above ++ [c] :=
    by simpa using (List.eq_nil_or_concat _).resolve_left hne
  simp [closingBreak, hline c (by simp)]

theorem closingBreak_append_breaks {breaks : Text} (hne : breaks ≠ [])
    (hbreaks : ∀ c ∈ breaks, isBreak c = true) (before : Text) :
    closingBreak (before ++ breaks) = [] := by
  obtain ⟨breaks, c, rfl⟩ : ∃ above c, breaks = above ++ [c] :=
    by simpa using (List.eq_nil_or_concat _).resolve_left hne
  simp [closingBreak, hbreaks c (by simp)]

theorem exists_eq_line_append (text : Text) : ∃ line rest, text = line ++ rest
    ∧ (∀ c ∈ line, isBreak c = false) ∧ ∀ c ∈ rest.head?, isBreak c = true := by
  refine ⟨text.takeWhile fun c => !isBreak c, text.dropWhile fun c => !isBreak c,
    List.takeWhile_append_dropWhile.symm, fun c hc => ?_, fun c hc => ?_⟩
  · simpa using List.all_eq_true.1 List.all_takeWhile c hc
  · have hnot := List.head?_dropWhile_not (fun c => !isBreak c) text
    rw [Option.mem_def.1 hc] at hnot
    simpa using hnot

variable {chomping : Chomping} {state : BlockState} {cursor : Cursor} {fuel : Nat}

/-- A block ends before a line that is not indented. -/
theorem blockLines?_of_column (hcolumn : cursor.column = 0) (hfuel : 0 < fuel) :
    blockLines? false chomping 2 fuel state cursor
      = some (chomping.tail state.lineBreak state.emptyLines, cursor) := by
  obtain ⟨fuel, rfl⟩ : ∃ n, fuel = n + 1 := ⟨fuel - 1, by omega⟩
  rw [blockLines?, if_neg (by simp [hcolumn])]

/-- A line of a block is read, and the empty lines after it. -/
theorem blockLines?_of_line (chomping : Chomping) (state : BlockState) (fuel : Nat)
    {line rest : Text} (emptyLines : Text) {c : Char} (hline : ∀ c ∈ line, isBreak c = false)
    (hbreak : isBreak c = true) (hshown : isPrintable c = true)
    (hrest : cursor.rest = line ++ c :: rest) (hcolumn : cursor.column = 2) :
    ∃ (after : Cursor) (spaced : Bool), after.rest = rest ∧ after.column = 0
      ∧ ∀ next deepest,
        blockBreaks? (some 2) (after.rest.length + 1) 0 after = some ((emptyLines, next), deepest)
          → blockLines? false chomping 2 (fuel + 1) state cursor
            = (blockLines? false chomping 2 fuel ⟨[c], spaced, emptyLines⟩ next).map
                (prepend (state.lineBreak ++ state.emptyLines ++ line)) := by
  obtain ⟨hsame, hreturn⟩ := breakInText_of_isPrintable hshown hbreak
  -- The line is all that stands before the next break.
  have htake : (cursor.rest.takeWhile fun c => !isBreak c) = line := by
    rw [hrest, List.takeWhile_append_of_pos (by simpa using hline),
      List.takeWhile_cons_of_neg (by simp [hbreak]), List.append_nil]
  have hend : cursor.lineEnd.rest = c :: rest := by
    rw [Cursor.lineEnd, htake, Cursor.rest_skip, hrest, List.drop_left]
  have htaken : takeBreak cursor.lineEnd = ([c], cursor.lineEnd.nextLine) := by
    rw [takeBreak, hend]
    simp [hsame]
  refine ⟨cursor.lineEnd.nextLine, cursor.rest.head?.any isSpacing,
    Cursor.rest_nextLine hend hreturn, rfl, fun next deepest hbreaks => ?_⟩
  rw [blockLines?, if_pos ⟨hcolumn, by simp [hrest]⟩, htaken]
  simp only [hbreaks, htake, BlockState.glue, Bool.false_and, if_neg Bool.false_ne_true]

/-- The break after a last line that does not belong to the text is dropped. -/
theorem blockLines?_of_lastLine (state : BlockState) (htail : StartsLine tail) {line : Text}
    (hne : line ≠ []) (hline : ∀ c ∈ line, isBreak c = false) (hfits : chomping.Fits line)
    (hrest : cursor.rest = line ++ '\n' :: tail) (hcolumn : cursor.column = 2)
    (hfuel : 0 < fuel) : ∃ after,
      blockLines? false chomping 2 (fuel + 1) state cursor
          = some (state.lineBreak ++ state.emptyLines ++ line, after)
        ∧ after.rest = tail ∧ after.column = 0 := by
  have htrailing : trailing line = [] := by
    simpa using trailing_line_append hne hline (fun c hc => absurd hc List.not_mem_nil)
  obtain ⟨next, spaced, hnext, hzero, hread⟩ := blockLines?_of_line chomping state fuel [] hline
    (by decide) (by decide) hrest hcolumn
  refine ⟨next, ?_, hnext, hzero⟩
  rw [hread next 0 (blockBreaks?_of_startsLine _ _ 0 htail hnext hzero),
    blockLines?_of_column hzero hfuel, hfits.eq_strip htrailing]
  simp [prepend, Chomping.tail]

/-- The breaks after the last line are left as they are. -/
theorem blockLines?_of_lastBreaks (state : BlockState) (htail : StartsLine tail)
    {line breaks : Text} {c : Char} (hne : line ≠ []) (hline : ∀ c ∈ line, isBreak c = false)
    (hbreaks : ∀ d ∈ c :: breaks, isBreak d = true)
    (hprintable : ∀ d ∈ c :: breaks, isPrintable d = true)
    (hfits : chomping.Fits (line ++ c :: breaks))
    (hrest : cursor.rest = line ++ c :: (indentLines true breaks ++ tail))
    (hcolumn : cursor.column = 2) (hfuel : 0 < fuel) : ∃ after,
      blockLines? false chomping 2 (fuel + 1) state cursor
          = some (state.lineBreak ++ state.emptyLines ++ (line ++ c :: breaks), after)
        ∧ after.rest = tail ∧ after.column = 0 := by
  obtain ⟨hc, hothers⟩ := List.forall_mem_cons.1 hbreaks
  obtain ⟨hshown, hprintable⟩ := List.forall_mem_cons.1 hprintable
  obtain ⟨next, spaced, hnext, hzero, hread⟩ := blockLines?_of_line chomping state fuel breaks
    hline hc hshown hrest hcolumn
  rw [← List.append_nil breaks] at hnext
  obtain ⟨after, deepest, hpassed, hafter, hcolumn'⟩ := blockBreaks?_indentLines hothers
    hprintable rfl (fun _ => htail) hnext hzero (Nat.lt_succ_self _)
  refine ⟨after, ?_, hafter, hcolumn'⟩
  rw [hread after deepest hpassed, blockLines?_of_column hcolumn' hfuel,
    hfits.tail_eq (trailing_line_append hne hline hbreaks)]
  simp [prepend]

/-- The lines of a block are read back if the chomping fits. -/
theorem blockLines?_indentLines (state : BlockState) (htail : StartsLine tail) (hne : text ≠ [])
    (hhead : text.head?.any isBreak = false) (hprintable : ∀ c ∈ text, isPrintable c = true)
    (hfits : chomping.Fits text)
    (hrest : cursor.rest = indentLines false text ++ (closingBreak text ++ tail))
    (hcolumn : cursor.column = 2) (hfuel : text.length < fuel) : ∃ after,
      blockLines? false chomping 2 fuel state cursor
          = some (state.lineBreak ++ state.emptyLines ++ text, after)
        ∧ after.rest = tail ∧ after.column = 0 := by
  induction fuel generalizing text cursor state with
  | zero => cases hfuel
  | succ fuel ih =>
    -- The text is a line, and then breaks with the lines behind them.
    obtain ⟨line, remaining, rfl, hline, hremaining⟩ := exists_eq_line_append text
    have hline_ne : line ≠ [] := by
      rintro rfl
      obtain ⟨c, remaining, rfl⟩ := List.exists_cons_of_ne_nil hne
      have hc : isBreak c = true := hremaining c rfl
      simp [hc] at hhead
    have hpositive : 0 < line.length := List.length_pos_iff.2 hline_ne
    rw [List.length_append] at hfuel
    rw [indentLines_append hline, List.append_assoc] at hrest
    cases remaining with
    | nil =>
      rw [List.append_nil] at hfits hrest ⊢
      rw [show closingBreak line = ['\n'] from closingBreak_append_line hline_ne hline []] at hrest
      exact blockLines?_of_lastLine state htail hline_ne hline hfits hrest hcolumn (by omega)
    | cons c more =>
      obtain ⟨breaks, rest, rfl, hbreaks, hrest_head⟩ := exists_eq_breaks_append more
      have hc : isBreak c = true := hremaining c rfl
      have hshown : ∀ d ∈ c :: (breaks ++ rest), isPrintable d = true := fun d hd =>
        hprintable d (List.mem_append_right line hd)
      have hwritten : cursor.rest = line ++ c :: (indentLines true (breaks ++ rest)
          ++ (closingBreak (line ++ c :: (breaks ++ rest)) ++ tail)) := by
        rw [hrest, indentLines, if_pos hc]
        rfl
      by_cases hrest_ne : rest = []
      · subst hrest_ne
        rw [List.append_nil] at hfits hshown hwritten ⊢
        have hall : ∀ d ∈ c :: breaks, isBreak d = true := List.forall_mem_cons.2 ⟨hc, hbreaks⟩
        rw [closingBreak_append_breaks (List.cons_ne_nil c breaks) hall] at hwritten
        exact blockLines?_of_lastBreaks state htail hline_ne hline hall hshown hfits hwritten
          hcolumn (by omega)
      · -- Another line follows after the breaks.
        obtain ⟨next, spaced, hnext, hzero, hread⟩ := blockLines?_of_line chomping state fuel
          breaks hline hc (hshown c List.mem_cons_self) hwritten hcolumn
        have hbefore : line ++ c :: (breaks ++ rest) = (line ++ c :: breaks) ++ rest := by simp
        rw [hbefore, closingBreak_append hrest_ne] at hnext
        obtain ⟨after, deepest, hpassed, hafter, hcolumn'⟩ := blockBreaks?_indentLines hbreaks
          (fun d hd => hshown d (by simp [hd])) hrest_head (fun h => absurd h hrest_ne) hnext hzero
          (Nat.lt_succ_self _)
        rw [if_neg hrest_ne] at hcolumn'
        have hfits' : chomping.Fits rest := (hbefore ▸ hfits).of_append hrest_ne hrest_head
        obtain ⟨last, hlines, hlast⟩ := ih ⟨[c], spaced, breaks⟩ hrest_ne hrest_head
          (fun d hd => hshown d (by simp [hd])) hfits' hafter hcolumn'
          (by simp at hfuel; omega)
        refine ⟨last, ?_, hlast⟩
        rw [hread after deepest hpassed, hlines]
        simp [prepend]

/-! ## Whole Blocks -/

/-- The mark for a chomping. -/
def Chomping.mark : Chomping → Text
  | .strip => ['-']
  | .clip => []
  | .keep => ['+']

/-- The last marks of a block are those of a chomping that fits. -/
theorem exists_blockMarks_eq (hne : text ≠ []) : ∃ chomping : Chomping, chomping.Fits text
    ∧ ((∀ c ∈ text, isBreak c = true) → chomping = .keep)
    ∧ blockMarks text = (if text.head?.any isEdge then ['2'] else []) ++ chomping.mark := by
  have hmarks : ∀ marks : Text,
      ((if text.head?.any isEdge then "2" else "") : String).toList ++ marks
        = (if text.head?.any isEdge then ['2'] else []) ++ marks := by
    intro marks
    split <;> rfl
  unfold blockMarks
  rw [hmarks]
  -- The chomping depends on the last two characters.
  cases hreverse : text.reverse with
  | nil => exact absurd (List.reverse_eq_nil_iff.1 hreverse) hne
  | cons c before =>
    have hmem : c ∈ text := by
      rw [← List.mem_reverse, hreverse]
      exact List.mem_cons_self
    cases hc : isBreak c with
    | false =>
      refine ⟨.strip, ?_, fun hall => ?_, ?_⟩
      · simp [Chomping.Fits, trailing, hreverse, hc]
      · rw [hall c hmem] at hc
        cases hc
      · cases before <;> simp [hc, Chomping.mark]
    | true =>
      cases before with
      | nil =>
        refine ⟨.keep, ?_, fun _ => rfl, by simp [hc, Chomping.mark]⟩
        simp [Chomping.Fits, trailing, hreverse, hc]
      | cons d before =>
        cases hd : isBreak d with
        | true =>
          refine ⟨.keep, ?_, fun _ => rfl, by simp [hc, hd, Chomping.mark]⟩
          simp [Chomping.Fits, trailing, hreverse, hc]
        | false =>
          refine ⟨.clip, ⟨c, ?_⟩, fun hall => ?_, by simp [hc, hd, Chomping.mark]⟩
          · simp [trailing, hreverse, hc, hd]
          · have hmem' : d ∈ text := by
              rw [← List.mem_reverse, hreverse]
              simp
            rw [hall d hmem'] at hd
            cases hd

/-- The marks of a block are read back. -/
theorem ofText?_marks (chomping : Chomping) (stated : Bool) (rest : Text) :
    BlockMarks.ofText? ((if stated then ['2'] else []) ++ chomping.mark ++ '\n' :: rest)
      = some ⟨chomping, if stated then some 2 else none,
          ((if stated then ['2'] else []) ++ chomping.mark).length⟩ := by
  cases stated <;> cases chomping <;> rfl

theorem restOfLine?_of_feed {rest : Text} (h : cursor.rest = '\n' :: rest) : ∃ next : Cursor,
    cursor.restOfLine? = some next ∧ next.rest = rest ∧ next.column = 0 := by
  have hskip : cursor.skipSpacing.rest = '\n' :: rest := by
    rw [Cursor.skipSpacing, h]
    simp [isSpacing, h]
  refine ⟨cursor.skipSpacing.nextLine, ?_, Cursor.rest_nextLine hskip (by decide), rfl⟩
  unfold Cursor.restOfLine?
  simp [hskip, isBreak]

theorem writeBlock_eq (text : Text) : writeBlock text
    = '|' :: (blockMarks text ++ '\n' :: (indentLines true text ++ closingBreak text)) := by
  rw [writeBlock, closingBreak]
  split <;> simp

/-- A block with a stated indentation is read from its first line on. -/
theorem blockLines?_of_stated (htail : StartsLine tail)
    (hprintable : ∀ c ∈ text, isPrintable c = true) (hfits : chomping.Fits text)
    (hkeep : (∀ c ∈ text, isBreak c = true) → chomping = .keep)
    (hrest : cursor.rest = indentLines true text ++ (closingBreak text ++ tail))
    (hcolumn : cursor.column = 0) : ∃ emptyLines start deepest after,
      blockBreaks? (some 2) (cursor.rest.length + 1) 0 cursor = some ((emptyLines, start), deepest)
        ∧ blockLines? false chomping 2 (start.rest.length + 1) ⟨[], false, emptyLines⟩ start
          = some (text, after)
        ∧ after.rest = tail ∧ after.column = 0 := by
  obtain ⟨breaks, lines, rfl, hbreaks, hhead⟩ := exists_eq_breaks_append text
  have hshown : ∀ c ∈ breaks, isPrintable c = true := fun c hc => hprintable c (by simp [hc])
  by_cases hlines : lines = []
  · -- The text consists of breaks, all of which are kept.
    subst hlines
    rw [List.append_nil] at hfits hkeep
    have hne : breaks ≠ [] := by
      rintro rfl
      rw [hkeep hbreaks] at hfits
      exact hfits rfl
    rw [show closingBreak (breaks ++ []) = [] by
      simpa using closingBreak_append_breaks hne hbreaks []] at hrest
    obtain ⟨start, deepest, hpassed, hstart, hcolumn'⟩ := blockBreaks?_indentLines hbreaks hshown
      hhead (fun _ => htail) hrest hcolumn (Nat.lt_succ_self _)
    refine ⟨breaks, start, deepest, start, hpassed, ?_, hstart, hcolumn'⟩
    rw [blockLines?_of_column hcolumn' (Nat.succ_pos _), hkeep hbreaks]
    simp [Chomping.tail]
  · rw [closingBreak_append hlines] at hrest
    obtain ⟨start, deepest, hpassed, hstart, hcolumn'⟩ := blockBreaks?_indentLines hbreaks hshown
      hhead (fun h => absurd h hlines) hrest hcolumn (Nat.lt_succ_self _)
    rw [if_neg hlines] at hcolumn'
    have hfuel : lines.length < start.rest.length + 1 := by
      have hlength := length_le_length_indentLines false lines
      rw [hstart, List.length_append]
      omega
    obtain ⟨after, hlast, hafter⟩ := blockLines?_indentLines ⟨[], false, breaks⟩ htail
      hlines hhead (fun c hc => hprintable c (by simp [hc])) (hfits.of_append hlines hhead) hstart
      hcolumn' hfuel
    exact ⟨breaks, start, deepest, after, hpassed, by simpa using hlast, hafter⟩

/-- A block whose first line shows its indentation is read from that line on. -/
theorem blockLines?_of_shown (htail : StartsLine tail) (hne : text ≠ [])
    (hprintable : ∀ c ∈ text, isPrintable c = true) (hfits : chomping.Fits text)
    (hedge : text.head?.any isEdge = false)
    (hrest : cursor.rest = indentLines true text ++ (closingBreak text ++ tail))
    (hcolumn : cursor.column = 0) : ∃ start after,
      blockBreaks? none (cursor.rest.length + 1) 0 cursor = some (([], start), 2)
        ∧ blockLines? false chomping 2 (start.rest.length + 1) ⟨[], false, []⟩ start
          = some (text, after)
        ∧ after.rest = tail ∧ after.column = 0 := by
  obtain ⟨c, text, rfl⟩ := List.exists_cons_of_ne_nil hne
  have hc : isEdge c = false := hedge
  simp only [isEdge, Bool.or_eq_false_iff, decide_eq_false_iff_not] at hc
  obtain ⟨hspace, hbreak⟩ := hc
  have hspacing : isSpacing c = false := by
    simp [isSpacing_of_isPrintable (hprintable c List.mem_cons_self), hspace]
  rw [indentLines_true_cons hbreak] at hrest
  have hline : indentLines false (c :: text) = c :: indentLines false text := by
    simp [indentLines, hbreak]
  obtain ⟨fuel, hfuel⟩ : ∃ n, cursor.rest.length + 1 = n + 3 := by
    refine ⟨cursor.rest.length - 2, ?_⟩
    have hlength := congrArg List.length hrest
    simp only [List.cons_append, List.length_cons] at hlength
    omega
  have hspaced : cursor.rest
      = ' ' :: ' ' :: c :: (indentLines false text ++ (closingBreak (c :: text) ++ tail)) := by
    rw [hrest, hline]
    rfl
  -- The first line shows its indentation, as it starts with neither a space nor a break.
  have hpassed := blockBreaks?_of_indentation fuel hspaced hcolumn hbreak (.inr ⟨rfl, hspacing⟩)
  have hstart : (cursor.skip 2).rest
      = indentLines false (c :: text) ++ (closingBreak (c :: text) ++ tail) := by
    rw [Cursor.rest_skip, hrest]
    rfl
  have henough : (c :: text).length < (cursor.skip 2).rest.length + 1 := by
    have hlength := length_le_length_indentLines false (c :: text)
    rw [hstart, List.length_append]
    omega
  obtain ⟨after, hlast, hafter⟩ := blockLines?_indentLines ⟨[], false, []⟩ htail hne hbreak
    hprintable hfits hstart (by simp [hcolumn]) henough
  exact ⟨cursor.skip 2, after, by rw [hfuel, hpassed], by simpa using hlast, hafter⟩

/-- A block is read back. -/
theorem block?_writeBlock (htail : StartsLine tail) (hne : text ≠ [])
    (hprintable : ∀ c ∈ text, isPrintable c = true)
    (hrest : '|' :: cursor.rest = writeBlock text ++ tail) : ∃ after,
      block? false (some 0) cursor = some (text, after) ∧ after.rest = tail ∧ after.column = 0 := by
  obtain ⟨chomping, hfits, hkeep, hmarks⟩ := exists_blockMarks_eq hne
  have hwritten : cursor.rest = (if text.head?.any isEdge then ['2'] else []) ++ chomping.mark
      ++ '\n' :: (indentLines true text ++ (closingBreak text ++ tail)) := by
    rw [writeBlock_eq, hmarks] at hrest
    simpa using hrest
  have hread := ofText?_marks chomping (text.head?.any isEdge)
    (indentLines true text ++ (closingBreak text ++ tail))
  rw [← hwritten] at hread
  have hmarked :
      (cursor.skip ((if text.head?.any isEdge then ['2'] else []) ++ chomping.mark).length).rest
        = '\n' :: (indentLines true text ++ (closingBreak text ++ tail)) := by
    rw [Cursor.rest_skip, hwritten, List.drop_left]
  obtain ⟨first, hline, hfirst, hzero⟩ := restOfLine?_of_feed hmarked
  unfold block?
  rw [hread]
  simp only [bind, Option.bind, hline]
  -- The indentation is stated if the text starts with a space or a break.
  cases hedge : text.head?.any isEdge with
  | false =>
    obtain ⟨start, after, hpassed, hlast, hafter⟩ :=
      blockLines?_of_shown htail hne hprintable hfits hedge hfirst hzero
    exact ⟨after, by simp [hpassed, hlast], hafter⟩
  | true =>
    obtain ⟨emptyLines, start, deepest, after, hpassed, hlast, hafter⟩ :=
      blockLines?_of_stated htail hprintable hfits hkeep hfirst hzero
    exact ⟨after, by simp [hpassed, hlast], hafter⟩

end MaterialNode.Yaml
