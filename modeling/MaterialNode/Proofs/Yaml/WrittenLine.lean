import Mathlib.Algebra.Group.Nat.Defs
import MaterialNode.Yaml.Printer
import MaterialNode.Yaml.Scalar

/-!
# Scalars on a Line

A string that is printed plainly or between quotes is read back, whatever characters it holds. What
follows the line of the string is either the end of the document or a line that starts with a key.

## Main results

* `plainRest?_append`: a plain scalar is read up to the end of its line.
* `singleRest?_writeSingle`: a scalar between single quotes is read up to the closing quote.
* `doubleRest?_writeDouble`: a scalar between double quotes is read up to the closing quote.
-/

namespace MaterialNode.Yaml

/-! ## Characters -/

/-- Whether a character can stand in the key of a record. -/
def isKeyChar (c : Char) : Bool := c = '_' || Text.inRanges [('a'.toNat, 'z'.toNat)] c.toNat

/-- Whether a text is empty or starts like a key. -/
def StartsLine (text : Text) : Prop := ∀ c ∈ text.head?, isKeyChar c = true

theorem ne_of_isKeyChar {c d : Char} (h : isKeyChar c = true) (hd : isKeyChar d = false) :
    c ≠ d := by
  rintro rfl
  rw [h] at hd
  cases hd

theorem isSpacing_of_isKeyChar {c : Char} (h : isKeyChar c = true) : isSpacing c = false := by
  have hspace : c ≠ ' ' := ne_of_isKeyChar h (by decide)
  have htab : c ≠ '\t' := ne_of_isKeyChar h (by decide)
  simp [isSpacing, hspace, htab]

theorem isBreak_of_isKeyChar {c : Char} (h : isKeyChar c = true) : isBreak c = false := by
  have hfeed : c ≠ '\n' := ne_of_isKeyChar h (by decide)
  have hreturn : c ≠ '\r' := ne_of_isKeyChar h (by decide)
  have hnext : c ≠ '\u0085' := ne_of_isKeyChar h (by decide)
  have hline : c ≠ '\u2028' := ne_of_isKeyChar h (by decide)
  have hparagraph : c ≠ '\u2029' := ne_of_isKeyChar h (by decide)
  simp [isBreak, hfeed, hreturn, hnext, hline, hparagraph]

theorem ne_of_isPrintable {c d : Char} (h : isPrintable c = true) (hd : isPrintable d = false) :
    c ≠ d := by
  rintro rfl
  rw [h] at hd
  cases hd

theorem isPrintable_of_isKeyChar {c : Char} (h : isKeyChar c = true) : isPrintable c = true := by
  have hmark : c ≠ '\uFEFF' := ne_of_isKeyChar h (by decide)
  simp only [isKeyChar, Text.inRanges, List.any_cons, List.any_nil, Bool.or_false, Bool.or_eq_true,
    Bool.and_eq_true, decide_eq_true_eq] at h
  rcases h with rfl | ⟨hlow, hhigh⟩
  · decide
  · have hlow' : 0x20 ≤ c.toNat := Nat.le_trans (by decide) hlow
    have hhigh' : c.toNat ≤ 0x7E := Nat.le_trans hhigh (by decide)
    simp [isPrintable, Text.inRanges, hmark, hlow', hhigh']

/-- Of the characters that separate words only the space is shown as it is. -/
theorem isSpacing_of_isPrintable {c : Char} (h : isPrintable c = true) :
    isSpacing c = decide (c = ' ') := by
  have htab : c ≠ '\t' := ne_of_isPrintable h (by decide)
  simp [isSpacing, htab]

/-- A break that is shown as it is stands for itself in a scalar. -/
theorem breakInText_of_isPrintable {c : Char} (h : isPrintable c = true)
    (hbreak : isBreak c = true) : breakInText c = c ∧ c ≠ '\r' := by
  have hreturn : c ≠ '\r' := ne_of_isPrintable h (by decide)
  have hnext : c ≠ '\u0085' := ne_of_isPrintable h (by decide)
  refine ⟨?_, hreturn⟩
  unfold breakInText
  split
  · rfl
  · rename_i hseparator
    simp only [isBreak, Bool.or_eq_true, decide_eq_true_eq] at hbreak
    grind

/-! ## Places -/

namespace Cursor

variable (cursor : Cursor)

@[simp] theorem rest_skip (count : Nat) : (cursor.skip count).rest = cursor.rest.drop count := rfl

@[simp] theorem column_skip (count : Nat) : (cursor.skip count).column = cursor.column + count :=
  rfl

@[simp] theorem rest_next : cursor.next.rest = cursor.rest.drop 1 := rfl

@[simp] theorem column_next : cursor.next.column = cursor.column + 1 := rfl

@[simp] theorem column_nextLine : cursor.nextLine.column = 0 := rfl

theorem skip_skip (first second : Nat) :
    (cursor.skip first).skip second = cursor.skip (first + second) := by
  simp [skip, List.take_add, Text.byteLength_append, Nat.add_assoc]

variable {cursor}

theorem rest_nextLine {c : Char} {rest : Text} (h : cursor.rest = c :: rest) (hc : c ≠ '\r') :
    cursor.nextLine.rest = rest := by
  unfold nextLine
  split
  · rename_i heq
    rw [h] at heq
    exact absurd (List.cons.inj heq).1 hc
  · simp [h]

/-- Document markers stand in the first column. -/
theorem atAnyMarker_of_pos (h : 0 < cursor.column) : cursor.atAnyMarker = false := by
  have hcolumn : (cursor.column == 0) = false := by simpa using Nat.ne_of_gt h
  simp [atAnyMarker, atMarker, hcolumn]

/-- A key is no document marker. -/
theorem atAnyMarker_of_isKeyChar {c : Char} {rest : Text} (hrest : cursor.rest = c :: rest)
    (hc : isKeyChar c = true) : cursor.atAnyMarker = false := by
  have hdash : '-' ≠ c := (ne_of_isKeyChar hc (by decide)).symm
  have hdot : '.' ≠ c := (ne_of_isKeyChar hc (by decide)).symm
  simp [atAnyMarker, atMarker, hrest, startMarker, endMarker, hdash, hdot]

end Cursor

/-! ## Gaps -/

namespace Gap

variable {gap : Gap}

theorem text_addSpace (h : gap.isBroken = false) (c : Char) :
    (gap.addSpace c).text = gap.text ++ [c] := by
  cases gap with
  | none => rfl
  | spaces text => rfl
  | breaks first others => cases h

theorem isBroken_addSpace (gap : Gap) (c : Char) : (gap.addSpace c).isBroken = gap.isBroken := by
  cases gap <;> rfl

theorem isBroken_addBreak (gap : Gap) (c : Char) : (gap.addBreak c).isBroken = true := by
  cases gap <;> rfl

end Gap

/-! ## Plain Scalars -/

variable {text tail : Text} {gap : Gap} {cursor : Cursor} {fuel : Nat}

section

variable {c : Char} {rest : Text} {indent : Nat}

theorem plainRest?_of_break (hrest : cursor.rest = c :: rest) (hspacing : isSpacing c = false)
    (hbreak : isBreak c = true) : plainRest? false indent (fuel + 1) gap cursor
      = plainRest? false indent fuel (gap.addBreak c) cursor.nextLine := by
  rw [plainRest?, hrest]
  simp [hspacing, hbreak]

theorem plainRest?_of_space (hrest : cursor.rest = ' ' :: rest) :
    plainRest? false indent (fuel + 1) gap cursor
      = plainRest? false indent fuel (gap.addSpace ' ') cursor.next := by
  rw [plainRest?, hrest]
  simp [isSpacing]

/-- A plain scalar ends where it does not go on. -/
theorem plainRest?_of_ends (hends : ∀ c rest, cursor.rest = c :: rest → isSpacing c = false
      ∧ isBreak c = false ∧ plainEnds false indent gap cursor = true) :
    plainRest? false indent (fuel + 1) gap cursor = some (([], cursor), gap.isBroken) := by
  rw [plainRest?]
  cases hrest : cursor.rest with
  | nil => rfl
  | cons c rest =>
    obtain ⟨hspacing, hbreak, hends⟩ := hends c rest hrest
    simp [hspacing, hbreak, hends]

/-- A plain scalar goes on with a character that does not end it. -/
theorem plainRest?_of_not_ends (hrest : cursor.rest = c :: rest) (hspacing : isSpacing c = false)
    (hbreak : isBreak c = false) (hends : plainEnds false indent gap cursor = false) :
    plainRest? false indent (fuel + 1) gap cursor
      = (plainRest? false indent fuel .none cursor.next).map fun (scanned, broken) =>
          (prepend (gap.text ++ [c]) scanned, broken) := by
  rw [plainRest?, hrest]
  simp [hspacing, hbreak, hends]

end

/-- A plain scalar ends with its line if what follows is not indented. -/
theorem plainRest?_of_startsLine (htail : StartsLine tail) (hrest : cursor.rest = '\n' :: tail)
    (hfuel : 1 < fuel) : ∃ after, plainRest? false 1 fuel gap cursor = some (([], after), true)
      ∧ after.rest = tail ∧ after.column = 0 := by
  obtain ⟨fuel, rfl⟩ : ∃ n, fuel = n + 2 := ⟨fuel - 2, by omega⟩
  have htext : cursor.nextLine.rest = tail := Cursor.rest_nextLine hrest (by decide)
  have hbroken := gap.isBroken_addBreak '\n'
  refine ⟨cursor.nextLine, ?_, htext, rfl⟩
  rw [plainRest?_of_break hrest (by decide) (by decide), plainRest?_of_ends, hbroken]
  intro c rest hcons
  have hkey : isKeyChar c = true := htail c (by rw [← htext, hcons]; rfl)
  have hnone : (gap.addBreak '\n').isNone = false := by cases gap <;> rfl
  exact ⟨isSpacing_of_isKeyChar hkey, isBreak_of_isKeyChar hkey, by simp [plainEnds, hnone]⟩

/-- Before a character that is neither a colon nor a comment, a plain scalar goes on. -/
theorem plainEnds_eq_false (previous : Char) {c : Char}
    (hcolon : c = ':' → wordEnds text = false)
    (hcomment : isSpacing previous = true → c ≠ '#')
    (hspaces : gap.isNone = false → isSpacing previous = true)
    (hrest : cursor.rest = c :: (text ++ '\n' :: tail)) (hcolumn : 0 < cursor.column) :
    plainEnds false 1 gap cursor = false := by
  have hwordEnds : wordEnds (text ++ '\n' :: tail) = wordEnds text := by
    cases text <;> rfl
  have hnot : gap.isNone = false → c ≠ '#' := fun hnone => hcomment (hspaces hnone)
  unfold plainEnds
  rw [Cursor.atAnyMarker_of_pos hcolumn, hrest]
  simp only [hwordEnds, Bool.false_and, Bool.or_false, Bool.not_false, Bool.and_true]
  simp only [Nat.not_lt.2 hcolumn, decide_false, Bool.and_false, Bool.false_or]
  grind

/-- A plain scalar is read up to the end of its line. -/
theorem plainRest?_append (htail : StartsLine tail)
    (hprintable : ∀ c ∈ text, isPrintable c = true ∧ isBreak c = false)
    (hlast : text.getLast? ≠ some ' ') {previous : Char}
    (hstructure : hasStructure previous text = false) (hgap : gap.isBroken = false)
    (hspaces : gap.isNone = false → isSpacing previous = true ∧ text ≠ [])
    (hrest : cursor.rest = text ++ '\n' :: tail) (hcolumn : 0 < cursor.column)
    (hfuel : text.length + 1 < fuel) : ∃ after,
      plainRest? false 1 fuel gap cursor = some ((gap.text ++ text, after), true)
        ∧ after.rest = tail ∧ after.column = 0 := by
  induction text generalizing gap cursor fuel previous with
  | nil =>
    cases gap with
    | none => exact plainRest?_of_startsLine htail hrest (by simpa using hfuel)
    | spaces => exact absurd rfl (hspaces rfl).2
    | breaks => cases hgap
  | cons c text ih =>
    obtain ⟨fuel, rfl⟩ : ∃ n, fuel = n + 1 := ⟨fuel - 1, by omega⟩
    obtain ⟨⟨hc, hbreak⟩, htext⟩ := List.forall_mem_cons.1 hprintable
    have hnext : cursor.next.rest = text ++ '\n' :: tail := by simp [hrest]
    have hfuel' : text.length + 1 < fuel := by simpa using hfuel
    simp only [hasStructure, Bool.or_eq_false_iff, Bool.and_eq_false_iff] at hstructure
    obtain ⟨⟨hcolon, hcomment⟩, hstructure⟩ := hstructure
    have hlast' : text.getLast? ≠ some ' ' := by
      cases text with
      | nil => simp
      | cons d text => simpa using hlast
    by_cases hspace : c = ' '
    · subst hspace
      -- A space is not the last character, so a word follows the gap.
      have hne : text ≠ [] := by
        rintro rfl
        exact hlast rfl
      obtain ⟨after, hread, hafter⟩ := ih htext hlast' hstructure
        ((gap.isBroken_addSpace ' ').trans hgap) (fun _ => ⟨rfl, hne⟩) hnext (by simp) hfuel'
      refine ⟨after, ?_, hafter⟩
      rw [plainRest?_of_space hrest, hread, Gap.text_addSpace hgap, List.append_assoc]
      rfl
    · have hends : plainEnds false 1 gap cursor = false := by
        refine plainEnds_eq_false previous ?_ ?_ (fun h => (hspaces h).1) hrest hcolumn
        · rintro rfl
          simpa using hcolon
        · rintro hprevious rfl
          simp [hprevious] at hcomment
      obtain ⟨after, hread, hafter⟩ := ih htext hlast' hstructure
        (show Gap.none.isBroken = false from rfl) nofun hnext (by simp) hfuel'
      refine ⟨after, ?_, hafter⟩
      rw [plainRest?_of_not_ends hrest (by simp [isSpacing_of_isPrintable hc, hspace]) hbreak hends,
        hread]
      simp [prepend, Gap.text]

/-- A key is read up to the colon after it. -/
theorem plainRest?_key {key : Text} (indent : Nat) (hkey : ∀ c ∈ key, isKeyChar c = true)
    (hrest : cursor.rest = key ++ ':' :: ' ' :: tail) (hfuel : key.length < fuel) :
    plainRest? false indent fuel .none cursor = some ((key, cursor.skip key.length), false) := by
  obtain ⟨fuel, rfl⟩ : ∃ n, fuel = n + 1 := ⟨fuel - 1, by omega⟩
  -- The characters of a key are passed one by one, and the colon before a space ends it.
  induction key generalizing cursor fuel with
  | nil =>
    rw [plainRest?_of_ends]
    · simp [Gap.isBroken, Cursor.skip, Text.byteLength]
    · intro c rest hcons
      rw [hrest] at hcons
      obtain ⟨rfl, rfl⟩ := List.cons.inj hcons
      exact ⟨by decide, by decide, by simp [plainEnds, hrest, wordEnds, isSpacing]⟩
  | cons c key ih =>
    obtain ⟨fuel, rfl⟩ : ∃ n, fuel = n + 1 := ⟨fuel - 1, by simp at hfuel; omega⟩
    obtain ⟨hc, hkey⟩ := List.forall_mem_cons.1 hkey
    have hcolon : c ≠ ':' := ne_of_isKeyChar hc (by decide)
    have hmarker := Cursor.atAnyMarker_of_isKeyChar hrest hc
    rw [plainRest?_of_not_ends hrest (isSpacing_of_isKeyChar hc) (isBreak_of_isKeyChar hc), ih hkey]
    · simp [prepend, Gap.text, Cursor.next, Cursor.skip_skip, Nat.add_comm]
    · simp [hrest]
    · simpa using hfuel
    · simp [plainEnds, hmarker, hrest, hcolon, Gap.isNone]

/-! ## Single Quotes -/

/-- What is left to print of a scalar between single quotes, from the start of a line on if the last
character was a break. -/
def quotedFrom (broken : Bool) : Text → Text
  | [] => if broken then "  ".toList else []
  | c :: text =>
    if isBreak c then c :: quotedFrom true text
    else (if broken then "  ".toList else [])
      ++ ((if c = '\'' then [c, c] else [c]) ++ quotedFrom false text)

theorem writeSingle_eq_quotedFrom (text : Text) : writeSingle text = quotedFrom false text := by
  -- The indentation at the end belongs to the last line, so that the break before it counts.
  suffices h : ∀ broken,
      indentLines broken (text.flatMap fun c => if c = '\'' then [c, c] else [c])
        ++ (if text.getLast?.elim broken isBreak then "  ".toList else [])
      = quotedFrom broken text by
    rw [← h false, writeSingle]
    cases text.getLast? with
    | none => rfl
    | some last => cases hlast : isBreak last <;> simp [hlast]
  induction text with
  | nil => intro broken; rfl
  | cons c text ih =>
    intro broken
    have hlast : (c :: text).getLast?.elim broken isBreak
        = text.getLast?.elim (isBreak c) isBreak := by
      cases text with
      | nil => rfl
      | cons d text => rfl
    rw [hlast, quotedFrom, List.flatMap_cons]
    by_cases hbreak : isBreak c = true
    · -- No break is a quote, so it is not written twice.
      have hquote : c ≠ '\'' := by
        rintro rfl
        revert hbreak
        decide
      rw [if_pos hbreak, if_neg hquote, ← ih true, hbreak, List.singleton_append, indentLines,
        if_pos hbreak]
      rfl
    · rw [if_neg hbreak, ← ih false, Bool.eq_false_iff.2 hbreak]
      split
      · rename_i hquote
        subst hquote
        simp [indentLines, isBreak]
      · simp [indentLines, hbreak]

namespace Gap

/-- Whether the breaks of a gap stand for themselves. -/
def IsVerbatim : Gap → Prop
  | .none => True
  | .spaces _ => True
  | .breaks first _ => first ≠ ['\n']

theorem text_addBreak {gap : Gap} {c : Char} (hgap : gap.IsVerbatim)
    (hspaces : gap.isNone = true ∨ gap.isBroken = true) (hbreak : breakInText c = c)
    (hfeed : c ≠ '\n') : (gap.addBreak c).text = gap.text ++ [c] ∧ (gap.addBreak c).IsVerbatim := by
  cases gap with
  | none => simp [addBreak, text, IsVerbatim, hbreak, hfeed]
  | spaces => simp [isNone, isBroken] at hspaces
  | breaks first others =>
    have hfirst : first ≠ ['\n'] := hgap
    simp [addBreak, text, IsVerbatim, hbreak, hfirst]

theorem isVerbatim_addSpace {gap : Gap} (h : gap.IsVerbatim) (c : Char) :
    (gap.addSpace c).IsVerbatim := by
  cases gap with
  | none => trivial
  | spaces => trivial
  | breaks => exact h

theorem addSpace_of_isBroken {gap : Gap} (h : gap.isBroken = true) (c : Char) :
    gap.addSpace c = gap := by
  cases gap with
  | none => cases h
  | spaces => cases h
  | breaks => rfl

end Gap

section

variable {c : Char} {rest : Text}

theorem singleRest?_of_space (hrest : cursor.rest = ' ' :: rest) :
    singleRest? (fuel + 1) gap cursor = singleRest? fuel (gap.addSpace ' ') cursor.next := by
  rw [singleRest?, hrest]
  simp [isSpacing]

theorem singleRest?_of_break (hrest : cursor.rest = c :: rest) (hspacing : isSpacing c = false)
    (hbreak : isBreak c = true) :
    singleRest? (fuel + 1) gap cursor = singleRest? fuel (gap.addBreak c) cursor.nextLine := by
  rw [singleRest?, hrest]
  simp [hspacing, hbreak]

/-- A character between single quotes, written twice if it is a quote. -/
theorem singleRest?_of_char (fuel : Nat) (gap : Gap)
    (hrest : cursor.rest = (if c = '\'' then [c, c] else [c]) ++ rest)
    (hspacing : isSpacing c = false) (hbreak : isBreak c = false)
    (hcolumn : 0 < cursor.column) : ∃ next : Cursor, next.rest = rest ∧ 0 < next.column
      ∧ singleRest? (fuel + 1) gap cursor
        = (singleRest? fuel .none next).map (prepend (gap.text ++ [c])) := by
  have hmarker := Cursor.atAnyMarker_of_pos hcolumn
  -- A quote takes two characters.
  by_cases hquote : c = '\''
  · subst hquote
    refine ⟨cursor.skip 2, by simp [hrest], by simp, ?_⟩
    rw [singleRest?, hrest]
    simp [isSpacing, isBreak, hmarker]
  · rw [if_neg hquote] at hrest
    refine ⟨cursor.next, by simp [hrest], by simp, ?_⟩
    rw [singleRest?, hrest]
    simp [hspacing, hbreak, hmarker, hquote]

/-- The closing quote is one that is not written twice. -/
theorem singleRest?_of_quote (hrest : cursor.rest = '\'' :: tail) (htail : tail.head? ≠ some '\'')
    (hcolumn : 0 < cursor.column) :
    singleRest? (fuel + 1) gap cursor = some (gap.text, cursor.next) := by
  rw [singleRest?, hrest]
  simp [isSpacing, isBreak, Cursor.atAnyMarker_of_pos hcolumn, htail]

/-- The indentation after a break does not count. -/
theorem singleRest?_of_indentation {broken : Bool} (hgap : gap.isBroken = broken)
    (hrest : cursor.rest = (if broken then "  ".toList else []) ++ rest)
    (hcolumn : broken = false → 0 < cursor.column) :
    ∃ next : Cursor, next.rest = rest ∧ 0 < next.column ∧ ∀ fuel,
      singleRest? (fuel + if broken then 2 else 0) gap cursor = singleRest? fuel gap next := by
  cases broken with
  | false => exact ⟨cursor, hrest, hcolumn rfl, fun _ => rfl⟩
  | true =>
    refine ⟨cursor.next.next, by simp [hrest], by simp, fun fuel => ?_⟩
    have hsecond : cursor.next.rest = ' ' :: rest := by simp [hrest]
    rw [if_pos rfl, singleRest?_of_space hrest, Gap.addSpace_of_isBroken hgap,
      singleRest?_of_space hsecond, Gap.addSpace_of_isBroken hgap]

end

theorem hasSpaceBeforeBreak_cons_eq_false {c : Char} (h : hasSpaceBeforeBreak (c :: text) = false) :
    hasSpaceBeforeBreak text = false ∧ (c = ' ' → text.head?.any isBreak = false) := by
  cases text with
  | nil => simp [hasSpaceBeforeBreak]
  | cons d text =>
    by_cases hc : c = ' '
    · subst hc
      simpa [hasSpaceBeforeBreak, and_comm] using h
    · rw [hasSpaceBeforeBreak] at h
      · exact ⟨h, fun heq => absurd heq hc⟩
      · rintro _ _ rfl
        exact absurd rfl hc

theorem isSpacing_of_isBreak {c : Char} (h : isBreak c = true) : isSpacing c = false := by
  rw [isSpacing, Bool.or_eq_false_iff, decide_eq_false_iff_not, decide_eq_false_iff_not]
  constructor <;> rintro rfl <;> revert h <;> decide

namespace Gap

/-- Whether a text between single quotes can go on after a gap: with breaks that stand for
themselves, and no spaces beside them. -/
structure Precedes (gap : Gap) (text : Text) : Prop where
  printable : ∀ c ∈ text, isPrintable c = true ∧ c ≠ '\n'
  space_before : hasSpaceBeforeBreak text = false
  space_after : hasSpaceAfterBreak text = false
  isVerbatim : gap.IsVerbatim
  break_next : gap.isNone = true ∨ gap.isBroken = true ∨ text.head?.any isBreak = false
  space_next : gap.isBroken = true → text.head? ≠ some ' '

namespace Precedes

variable {c : Char}

/-- A break is added to a gap as it is. -/
theorem of_break (h : gap.Precedes (c :: text)) (hbreak : isBreak c = true) :
    (gap.addBreak c).Precedes text ∧ (gap.addBreak c).text = gap.text ++ [c] := by
  obtain ⟨⟨hc, hfeed⟩, htext⟩ := List.forall_mem_cons.1 h.printable
  have hgap : gap.isNone = true ∨ gap.isBroken = true := by
    simpa [hbreak, or_assoc] using h.break_next
  have hafter := h.space_after
  rw [hasSpaceAfterBreak, Bool.or_eq_false_iff] at hafter
  obtain ⟨hadded, hverbatim⟩ :=
    text_addBreak h.isVerbatim hgap (breakInText_of_isPrintable hc hbreak).1 hfeed
  refine ⟨⟨htext, (hasSpaceBeforeBreak_cons_eq_false h.space_before).1, hafter.2, hverbatim,
    .inr (.inl (gap.isBroken_addBreak c)), fun _ => ?_⟩, hadded⟩
  simpa [hbreak] using hafter.1

/-- A space is in the middle of a line, and none is before a break. -/
theorem of_space (h : gap.Precedes (' ' :: text)) :
    (gap.addSpace ' ').Precedes text ∧ gap.isBroken = false := by
  have hgap : gap.isBroken = false := by
    cases hgap : gap.isBroken with
    | false => rfl
    | true => exact absurd rfl (h.space_next hgap)
  have hafter := h.space_after
  rw [hasSpaceAfterBreak, Bool.or_eq_false_iff] at hafter
  obtain ⟨hbefore, hnext⟩ := hasSpaceBeforeBreak_cons_eq_false h.space_before
  refine ⟨⟨fun d hd => h.printable d (List.mem_cons_of_mem _ hd), hbefore, hafter.2,
    isVerbatim_addSpace h.isVerbatim ' ', .inr (.inr (hnext rfl)), fun hbroken => ?_⟩, hgap⟩
  rw [isBroken_addSpace, hgap] at hbroken
  cases hbroken

theorem of_cons (h : gap.Precedes (c :: text)) : Gap.none.Precedes text := by
  have hafter := h.space_after
  rw [hasSpaceAfterBreak, Bool.or_eq_false_iff] at hafter
  exact ⟨fun d hd => h.printable d (List.mem_cons_of_mem c hd),
    (hasSpaceBeforeBreak_cons_eq_false h.space_before).1, hafter.2, trivial, .inl rfl,
    fun hbroken => absurd hbroken Bool.false_ne_true⟩

end Precedes

end Gap

/-- The steps for the indentation are set apart. -/
theorem exists_eq_add_indentation (broken : Bool) (indented : Text)
    (h : ((if broken then "  ".toList else []) ++ indented).length < fuel) :
    ∃ n, fuel = n + 1 + (if broken then 2 else 0) ∧ indented.length < n + 1 := by
  refine ⟨fuel - 1 - if broken then 2 else 0, ?_⟩
  cases broken <;> simp at h ⊢ <;> omega

/-- What is left of a scalar between single quotes is read up to the closing quote. -/
theorem singleRest?_quotedFrom (htail : tail.head? ≠ some '\'') (h : gap.Precedes text)
    (hrest : cursor.rest = quotedFrom gap.isBroken text ++ '\'' :: tail)
    (hcolumn : gap.isBroken = false → 0 < cursor.column)
    (hfuel : (quotedFrom gap.isBroken text).length < fuel) : ∃ after,
      singleRest? fuel gap cursor = some (gap.text ++ text, after) ∧ after.rest = tail := by
  induction text generalizing gap cursor fuel with
  | nil =>
    obtain ⟨fuel, rfl, -⟩ :=
      exists_eq_add_indentation gap.isBroken [] (by simpa [quotedFrom] using hfuel)
    obtain ⟨next, hnext, hpositive, hread⟩ := singleRest?_of_indentation rfl hrest hcolumn
    refine ⟨next.next, ?_, by simp [hnext]⟩
    rw [hread, singleRest?_of_quote hnext htail hpositive, List.append_nil]
  | cons c text ih =>
    have hc := (h.printable c List.mem_cons_self).1
    rw [quotedFrom] at hrest hfuel
    by_cases hbreak : isBreak c = true
    · -- A break: what follows starts a line.
      rw [if_pos hbreak] at hrest hfuel
      obtain ⟨hfollows, hadded⟩ := h.of_break hbreak
      have hbroken := gap.isBroken_addBreak c
      have hline : cursor.nextLine.rest
          = quotedFrom (gap.addBreak c).isBroken text ++ '\'' :: tail := by
        rw [Cursor.rest_nextLine hrest (breakInText_of_isPrintable hc hbreak).2, hbroken]
        rfl
      obtain ⟨fuel, rfl⟩ : ∃ n, fuel = n + 1 := ⟨fuel - 1, by simp at hfuel; omega⟩
      obtain ⟨after, hread, hafter⟩ := ih hfollows hline (by simp [hbroken])
        (by simpa [hbroken] using hfuel)
      refine ⟨after, ?_, hafter⟩
      rw [singleRest?_of_break hrest (isSpacing_of_isBreak hbreak) hbreak, hread, hadded,
        List.append_assoc]
      rfl
    -- Any other character comes after the indentation, if a line starts with it.
    rw [if_neg hbreak] at hrest hfuel
    rw [List.append_assoc] at hrest
    obtain ⟨fuel, rfl, hleft⟩ := exists_eq_add_indentation _ _ hfuel
    obtain ⟨next, hnext, hpositive, hread⟩ := singleRest?_of_indentation rfl hrest hcolumn
    have hfuel' : (quotedFrom false text).length < fuel := by
      split at hleft <;> simp at hleft <;> omega
    rw [hread]
    by_cases hspace : c = ' '
    · subst hspace
      obtain ⟨hfollows, hgap⟩ := h.of_space
      have hadded : (gap.addSpace ' ').isBroken = false := (gap.isBroken_addSpace ' ').trans hgap
      have hspaced : next.rest = ' ' :: (quotedFrom false text ++ '\'' :: tail) := hnext
      have hpassed : next.next.rest
          = quotedFrom (gap.addSpace ' ').isBroken text ++ '\'' :: tail := by
        simp [hspaced, hadded]
      obtain ⟨after, hread, hafter⟩ := ih hfollows hpassed (by simp) (hadded ▸ hfuel')
      refine ⟨after, ?_, hafter⟩
      rw [singleRest?_of_space hspaced, hread, Gap.text_addSpace hgap, List.append_assoc]
      rfl
    · have hspacing : isSpacing c = false := by simp [isSpacing_of_isPrintable hc, hspace]
      rw [List.append_assoc] at hnext
      obtain ⟨following, hfollowing, hpositive', hchar⟩ := singleRest?_of_char fuel gap hnext
        hspacing (by simpa using hbreak) hpositive
      obtain ⟨after, hread, hafter⟩ := ih h.of_cons hfollowing (fun _ => hpositive') hfuel'
      refine ⟨after, ?_, hafter⟩
      rw [hchar, hread]
      simp [prepend, Gap.text]

/-- A scalar between single quotes is read up to the closing quote. -/
theorem singleRest?_writeSingle (htail : tail.head? ≠ some '\'')
    (hsingle : canBeSingle text = true) (hfeed : '\n' ∉ text)
    (hrest : cursor.rest = writeSingle text ++ '\'' :: tail) (hcolumn : 0 < cursor.column)
    (hfuel : (writeSingle text).length < fuel) : ∃ after,
      singleRest? fuel .none cursor = some (text, after) ∧ after.rest = tail := by
  simp only [canBeSingle, isLiteral, Bool.and_eq_true, List.all_eq_true,
    Bool.not_eq_true'] at hsingle
  obtain ⟨⟨hprintable, hbefore⟩, hafter⟩ := hsingle
  have hprecedes : Gap.none.Precedes text := by
    refine ⟨fun c hc => ⟨hprintable c hc, ?_⟩, hbefore, hafter, trivial, .inl rfl, ?_⟩
    · rintro rfl
      exact hfeed hc
    · exact fun hbroken => absurd hbroken Bool.false_ne_true
  rw [writeSingle_eq_quotedFrom] at hrest hfuel
  exact singleRest?_quotedFrom htail hprecedes hrest (fun _ => hcolumn) hfuel

/-! ## Double Quotes -/

theorem hexDigit?_capitalDigit : ∀ n < 16, Text.hexDigit? (capitalDigit n) = some n := by decide

/-- Hexadecimal digits spell the number that they were written for. -/
theorem mapM_hexDigits (n width : Nat) : ∃ values,
    (hexDigits n width).mapM Text.hexDigit? = some values
      ∧ values.foldl (fun n digit => 16 * n + digit) 0 = n % 16 ^ width := by
  induction width generalizing n with
  | zero => exact ⟨[], rfl, by simp [Nat.mod_one]⟩
  | succ width ih =>
    -- The last digit is the remainder, and those before it spell the quotient.
    obtain ⟨values, hvalues, hn⟩ := ih (n / 16)
    refine ⟨values ++ [n % 16], ?_, ?_⟩
    · simp [hexDigits, hvalues, hexDigit?_capitalDigit (n % 16) (Nat.mod_lt n (by decide))]
    · rw [List.foldl_append, hn, List.foldl_cons, List.foldl_nil, Nat.pow_succ',
        Nat.mod_mul, Nat.add_comm]

theorem length_hexDigits (n width : Nat) : (hexDigits n width).length = width := by
  induction width generalizing n with
  | zero => rfl
  | succ width ih => simp [hexDigits, ih]

theorem hexCharacter?_hexDigits {c : Char} {width : Nat} (h : c.toNat < 16 ^ width) :
    hexCharacter? (hexDigits c.toNat width) = some c := by
  obtain ⟨values, hvalues, hn⟩ := mapM_hexDigits c.toNat width
  rw [Nat.mod_eq_of_lt h] at hn
  -- A character is never the number of a surrogate or too large.
  have hvalid : ¬ ((0xD800 ≤ c.toNat ∧ c.toNat ≤ 0xDFFF) ∨ 0x10FFFF < c.toNat) := by
    have := c.valid
    simp only [UInt32.isValidChar, Nat.isValidChar] at this
    unfold Char.toNat
    omega
  rw [hexCharacter?, hvalues]
  simp only [bind, Option.bind, hn, if_neg hvalid, Char.ofNat_toNat]

theorem hexEscape?_hexDigits {c : Char} {width : Nat} (h : c.toNat < 16 ^ width) (rest : Text) :
    hexEscape? width (hexDigits c.toNat width ++ rest) = some (c, width + 1) := by
  have hlength := length_hexDigits c.toNat width
  rw [hexEscape?, if_neg (by simp [hlength]), List.take_left' hlength, hexCharacter?_hexDigits h]
  rfl

theorem isPrintable_capitalDigit : ∀ n < 16,
    isPrintable (capitalDigit n) = true ∧ isBreak (capitalDigit n) = false := by decide

theorem isPrintable_of_mem_hexDigits {n width : Nat} : ∀ d ∈ hexDigits n width,
    isPrintable d = true ∧ isBreak d = false := by
  induction width generalizing n with
  | zero => simp [hexDigits]
  | succ width ih =>
    rw [hexDigits]
    intro d hd
    rcases List.mem_append.1 hd with hd | hd
    · exact ih d hd
    · rw [List.mem_singleton.1 hd]
      exact isPrintable_capitalDigit (n % 16) (Nat.mod_lt n (by decide))

/-- A letter that stands for a character is read as this one, and not as the start of a number. -/
theorem letter?_of_escapeLetter? {c letter : Char} (h : escapeLetter? c = some letter) :
    (isPrintable letter = true ∧ isBreak letter = false)
      ∧ letter ≠ 'x' ∧ letter ≠ 'u' ∧ letter ≠ 'U' ∧ escape?.letter? letter = some c := by
  obtain ⟨before, after, hpairs, -⟩ := List.lookup_eq_some_iff.1 h
  suffices hall : ∀ pair ∈ before ++ (c, letter) :: after,
      (isPrintable pair.2 = true ∧ isBreak pair.2 = false) ∧ pair.2 ≠ 'x'
        ∧ pair.2 ≠ 'u' ∧ pair.2 ≠ 'U' ∧ escape?.letter? pair.2 = some pair.1 from
    hall (c, letter) (by simp)
  rw [← hpairs]
  decide

/-- An escape spells the character that it was written for, with characters of one line. -/
theorem exists_writeEscape_eq (c : Char) : ∃ first spelled,
    writeEscape c = '\\' :: first :: spelled
      ∧ (∀ d ∈ first :: spelled, isPrintable d = true ∧ isBreak d = false)
      ∧ ∀ rest, escape? (first :: (spelled ++ rest)) = some (c, spelled.length + 1) := by
  have hnumber : ∀ width first, isPrintable first = true ∧ isBreak first = false →
      ∀ d ∈ first :: hexDigits c.toNat width, isPrintable d = true ∧ isBreak d = false :=
    fun width first hfirst => List.forall_mem_cons.2 ⟨hfirst, isPrintable_of_mem_hexDigits⟩
  unfold writeEscape
  cases hletter : escapeLetter? c with
  | some letter =>
    obtain ⟨hshown, hx, hu, hU, hread⟩ := letter?_of_escapeLetter? hletter
    refine ⟨letter, [], rfl, List.forall_mem_singleton.2 hshown, fun rest => ?_⟩
    rw [List.nil_append, escape?, hread]
    · rfl
    · exact hx
    · exact hu
    · exact hU
  | none =>
    -- The number of the character takes as few digits as it can: two, four or eight.
    simp only
    split
    · rename_i hsmall
      refine ⟨_, _, rfl, hnumber 2 'x' (by decide), fun rest => ?_⟩
      show hexEscape? 2 (hexDigits c.toNat 2 ++ rest) = _
      rw [hexEscape?_hexDigits (by omega)]
      simp [length_hexDigits]
    split
    · rename_i hsmall
      refine ⟨_, _, rfl, hnumber 4 'u' (by decide), fun rest => ?_⟩
      show hexEscape? 4 (hexDigits c.toNat 4 ++ rest) = _
      rw [hexEscape?_hexDigits (by omega)]
      simp [length_hexDigits]
    · refine ⟨_, _, rfl, hnumber 8 'U' (by decide), fun rest => ?_⟩
      show hexEscape? 8 (hexDigits c.toNat 8 ++ rest) = _
      have hvalid : c.toNat < 0x110000 := by
        have hc := c.valid
        simp only [UInt32.isValidChar, Nat.isValidChar] at hc
        unfold Char.toNat
        omega
      rw [hexEscape?_hexDigits (by omega)]
      simp [length_hexDigits]

theorem length_le_length_writeDouble (text : Text) : text.length ≤ (writeDouble text).length := by
  induction text with
  | nil => simp
  | cons c text ih =>
    -- An escape is not empty.
    have hpositive : 0 < (if needsEscape c then writeEscape c else [c]).length := by
      split
      · obtain ⟨first, spelled, hwrite, -⟩ := exists_writeEscape_eq c
        simp [hwrite]
      · simp
    rw [writeDouble] at ih ⊢
    rw [List.flatMap_cons, List.length_append, List.length_cons]
    omega

section

variable {c : Char} {rest : Text}

theorem doubleRest?_of_space (hrest : cursor.rest = ' ' :: rest) :
    doubleRest? (fuel + 1) gap cursor = doubleRest? fuel (gap.addSpace ' ') cursor.next := by
  rw [doubleRest?, hrest]
  simp [isSpacing]

/-- A character between double quotes that is shown as it is. -/
theorem doubleRest?_of_char (hrest : cursor.rest = c :: rest) (hspacing : isSpacing c = false)
    (hescape : needsEscape c = false) (hcolumn : 0 < cursor.column) :
    doubleRest? (fuel + 1) gap cursor
      = (doubleRest? fuel .none cursor.next).map (prepend (gap.text ++ [c])) := by
  simp only [needsEscape, Bool.or_eq_false_iff, decide_eq_false_iff_not] at hescape
  obtain ⟨⟨⟨-, hbreak⟩, hquote⟩, hslash⟩ := hescape
  rw [doubleRest?, hrest]
  simp [hspacing, hbreak, hquote, hslash, Cursor.atAnyMarker_of_pos hcolumn]

/-- A character between double quotes that is escaped. -/
theorem doubleRest?_of_escape (fuel : Nat) (gap : Gap) (hrest : cursor.rest = writeEscape c ++ rest)
    (hcolumn : 0 < cursor.column) : ∃ next : Cursor, next.rest = rest ∧ 0 < next.column
      ∧ doubleRest? (fuel + 1) gap cursor
        = (doubleRest? fuel .none next).map (prepend (gap.text ++ [c])) := by
  obtain ⟨first, spelled, hwrite, hshown, hread⟩ := exists_writeEscape_eq c
  have hbreak : isBreak first = false := (hshown first List.mem_cons_self).2
  rw [hwrite] at hrest
  refine ⟨cursor.skip (1 + (spelled.length + 1)), ?_, by rw [Cursor.column_skip]; omega, ?_⟩
  · rw [Cursor.rest_skip, hrest, Nat.add_comm]
    simp
  · rw [doubleRest?, hrest]
    simp [show isSpacing '\\' = false by decide, show isBreak '\\' = false by decide, hbreak,
      Cursor.atAnyMarker_of_pos hcolumn, hread rest]

end

/-- A scalar between double quotes is read up to the closing quote. -/
theorem doubleRest?_append (hgap : gap.isBroken = false)
    (hrest : cursor.rest = writeDouble text ++ '"' :: tail) (hcolumn : 0 < cursor.column)
    (hfuel : text.length < fuel) : ∃ after,
      doubleRest? fuel gap cursor = some (gap.text ++ text, after) ∧ after.rest = tail := by
  -- Each character is one step, escaped or not.
  induction text generalizing gap cursor fuel with
  | nil =>
    obtain ⟨fuel, rfl⟩ : ∃ n, fuel = n + 1 := ⟨fuel - 1, by simp at hfuel; omega⟩
    have hquote : cursor.rest = '"' :: tail := hrest
    refine ⟨cursor.next, ?_, by simp [hquote]⟩
    rw [doubleRest?, hquote]
    simp [isSpacing, isBreak, Cursor.atAnyMarker_of_pos hcolumn]
  | cons c text ih =>
    obtain ⟨fuel, rfl⟩ : ∃ n, fuel = n + 1 := ⟨fuel - 1, by simp at hfuel; omega⟩
    have hfuel' : text.length < fuel := by simpa using hfuel
    rw [writeDouble, List.flatMap_cons, List.append_assoc] at hrest
    cases hescape : needsEscape c with
    | true =>
      rw [if_pos hescape] at hrest
      obtain ⟨next, hnext, hpositive, hread⟩ := doubleRest?_of_escape fuel gap hrest hcolumn
      obtain ⟨after, hread', hafter⟩ := ih (show Gap.none.isBroken = false from rfl) hnext hpositive
        hfuel'
      exact ⟨after, by simp [hread, hread', prepend, Gap.text], hafter⟩
    | false =>
      rw [if_neg (by simp [hescape])] at hrest
      have hnext : cursor.next.rest = writeDouble text ++ '"' :: tail := by
        simp [hrest, writeDouble]
      by_cases hspace : c = ' '
      · subst hspace
        obtain ⟨after, hread, hafter⟩ := ih
          ((gap.isBroken_addSpace ' ').trans hgap) hnext (by simp) hfuel'
        refine ⟨after, ?_, hafter⟩
        rw [doubleRest?_of_space hrest, hread, Gap.text_addSpace hgap, List.append_assoc]
        rfl
      · have hprintable : isPrintable c = true := by
          simp only [needsEscape, Bool.or_eq_false_iff] at hescape
          simpa using hescape.1.1.1
        have hspacing : isSpacing c = false := by
          simp [isSpacing_of_isPrintable hprintable, hspace]
        obtain ⟨after, hread, hafter⟩ := ih (show Gap.none.isBroken = false from rfl) hnext
          (by simp) hfuel'
        refine ⟨after, ?_, hafter⟩
        rw [doubleRest?_of_char hrest hspacing hescape hcolumn, hread]
        simp [prepend, Gap.text]

/-- A scalar between double quotes is read up to the closing quote. -/
theorem doubleRest?_writeDouble (hrest : cursor.rest = writeDouble text ++ '"' :: tail)
    (hcolumn : 0 < cursor.column) (hfuel : (writeDouble text).length < fuel) : ∃ after,
      doubleRest? fuel .none cursor = some (text, after) ∧ after.rest = tail :=
  doubleRest?_append rfl hrest hcolumn
    (Nat.lt_of_le_of_lt (length_le_length_writeDouble text) hfuel)

end MaterialNode.Yaml
