import Mathlib.Data.Finset.Sort
import MaterialNode.Proofs.SlotRank
import MaterialNode.Proofs.Text.Fields
import MaterialNode.Proofs.Text.Replace

/-!
# The Emitted Body

The body of a shader is emitted line by line, from the line that opens it up to the first return. A
sample instruction is put together anew from pieces of its line, and a `discard` is replaced by a
text that returns the output. Still, what is inserted cannot help to form a `discard` or a `return;`:
neither word has a character of the ends of what is inserted. Such a word is found in an emitted line
only if it stands in a part of the source line (`Body.infix_of_infix_convertLine`). The body therefore
never returns unconditionally (`Body.isConversion_convert`), and it keeps a `discard` only where a sample
instruction copies it (`Body.discards_convert`).

## Main definitions

* `SampleInstruction.copied`: the pieces that an emitted sample instruction copies.
* `IsForeign`: a word that what is inserted cannot help to form.
* `Body.IsFirstFrom`: the first line from a given one on that holds a word.
* `Body.IsConversion`: lines that are the conversions of the source lines of a window.
-/

namespace MaterialNode

open Text

/-! ## Copied Pieces -/

namespace SampleInstruction

variable {line : Text}

/-- The pieces of a sample instruction that the emitted line copies. -/
def copied (call : SampleInstruction) : List Text := [call.target, call.coordinate, call.suffix]

theorem target_isPrefix (line : Text) : (ofLine line).target <+: line := by
  unfold ofLine
  cases hcut : line.before? "=" with
  | none => exact List.nil_prefix
  | some target => exact isPrefix_of_before? hcut

theorem coordinate_isInfix (line : Text) : (ofLine line).coordinate <:+: line := by
  unfold ofLine
  cases hcut : line.after? ", " with
  | none => exact List.nil_infix
  | some tail => exact (upTo_isPrefix tail ")").isInfix.trans (isSuffix_of_after? hcut).isInfix

theorem suffix_isSuffix (line : Text) : (ofLine line).suffix <:+ line := by
  unfold ofLine
  cases hcut : line.after? ")." with
  | none => exact List.nil_suffix
  | some suffix => exact isSuffix_of_after? hcut

/-- What a sample instruction copies are parts of its line. -/
theorem isInfix_of_mem_copied {piece : Text} (h : piece ∈ (ofLine line).copied) :
    piece <:+: line := by
  simp only [copied, List.mem_cons, List.not_mem_nil, or_false] at h
  rcases h with rfl | rfl | rfl
  · exact (target_isPrefix line).isInfix
  · exact coordinate_isInfix line
  · exact (suffix_isSuffix line).isInfix

end SampleInstruction

/-! ## Foreign Words -/

/-- The characters of what is put between the pieces of a sample instruction, numbers apart. -/
def insertedCharacters : Text := "=-Material_Texture2D_.SampleLevel(Sampler, ,0)."

/-- A word that what is inserted into a line cannot help to form. -/
structure IsForeign (word : Text) : Prop where
  /-- The word has no character of the ends of what is inserted. -/
  ends : Avoids "=, .\x7b\x7d" word
  /-- The word has a character that is not put between the pieces of a sample instruction. -/
  mark : ∃ mark ∈ word, isDigit mark = false ∧ mark ∉ insertedCharacters
  /-- The text that masks a fragment does not hold the word. -/
  masked : ¬ word <:+: ShaderLine.maskedReturn

variable {word line : Text}

theorem isForeign_discard : IsForeign "discard" where
  ends := by decide
  mark := ⟨'d', by decide⟩
  masked := by decide

theorem isForeign_return : IsForeign "return;" where
  ends := by decide
  mark := ⟨';', by decide⟩
  masked := by decide

namespace IsForeign

/-- A foreign word is found in an emitted sample instruction exactly if one of the pieces that are
copied holds it. -/
theorem infix_render_iff (h : IsForeign word) (call : SampleInstruction) (slots : SlotSet) :
    word <:+: call.render slots ↔ ∃ piece ∈ call.copied, word <:+: piece := by
  obtain ⟨mark, hmark, hdigit, hinserted⟩ := h.mark
  have hfixed : ∀ text ⊆ insertedCharacters, mark ∉ text := fun _ htext hmem =>
    hinserted (htext hmem)
  have hnumber : ∀ i : Int, mark ∉ ofInt i :=
    not_mem_ofInt hdigit (List.ne_of_not_mem_cons (hfixed ['-'] (by decide)))
  -- The names of the texture and of the sampler stand between the target and the coordinate.
  obtain ⟨names, hnames, hrender⟩ : ∃ names, mark ∉ names ∧ call.render slots = call.target
      ++ '=' :: (names ++ ' ' :: (call.coordinate ++ ',' :: (['0', ')'] ++ '.' :: call.suffix))) := by
    obtain ⟨rank, hrank⟩ : ∃ rank : Int, call.render slots = call.target
        ++ "= Material_Texture2D_" ++ ofInt rank ++ ".SampleLevel(Material_Texture2D_"
        ++ ofInt (call.samplerSlot - 1) ++ "Sampler, " ++ call.coordinate ++ ",0)."
        ++ call.suffix := ⟨_, rfl⟩
    refine ⟨" Material_Texture2D_" ++ ofInt rank ++ ".SampleLevel(Material_Texture2D_"
      ++ ofInt (call.samplerSlot - 1) ++ "Sampler,", ?_, ?_⟩
    · simp only [List.mem_append, not_or]
      exact ⟨⟨⟨⟨hfixed _ (by decide), hnumber rank⟩, hfixed _ (by decide)⟩, hnumber _⟩,
        hfixed _ (by decide)⟩
    · rw [hrank]
      simp
  have hname : ¬ word <:+: names := fun hpart => hnames (hpart.subset hmark)
  have hlevel : ¬ word <:+: ['0', ')'] := fun hpart =>
    hfixed ['0', ')'] (by decide) (hpart.subset hmark)
  -- The word does not reach over the characters at the ends of the pieces.
  rw [hrender, infix_append_cons_iff (h.ends '=' (by decide)),
    infix_append_cons_iff (h.ends ' ' (by decide)), infix_append_cons_iff (h.ends ',' (by decide)),
    infix_append_cons_iff (h.ends '.' (by decide))]
  simp [SampleInstruction.copied, hname, hlevel]

/-- A foreign word is found in a line that masks the fragment only where it stands in a part of the
source line without a `discard`. -/
theorem exists_kept (h : IsForeign word) (hword : word <:+: Body.maskDiscards line) :
    ∃ kept, kept <:+: line ∧ ¬ ("discard" : Text) <:+: kept ∧ word <:+: kept := by
  have hreplaces : ReplacesAll "discard"
      ('\x7b' :: (" output.OpacityMask = 0; return output; " ++ ['\x7d'])) line
      (Body.maskDiscards line) := (replacesAll_iff (by decide)).2 rfl
  have hinner : ¬ word <:+: " output.OpacityMask = 0; return output; " := fun hpart =>
    h.masked (hpart.trans ⟨['\x7b'], ['\x7d'], by decide⟩)
  exact hreplaces.exists_kept (h.ends _ (by decide)) (h.ends _ (by decide)) hinner hword

end IsForeign

namespace Body

variable {lines : List Text} {slots : SlotSet}

/-- A foreign word that is found in an emitted line stands in the source line. -/
theorem infix_of_infix_convertLine (h : IsForeign word) (hword : word <:+: convertLine slots line) :
    word <:+: line := by
  unfold convertLine at hword
  -- The line samples, or else discards, or else is kept.
  split at hword
  · obtain ⟨piece, hpiece, hpart⟩ := (h.infix_render_iff _ slots).1 hword
    exact hpart.trans (SampleInstruction.isInfix_of_mem_copied hpiece)
  · split at hword
    · obtain ⟨kept, hkept, -, hpart⟩ := h.exists_kept hword
      exact hpart.trans hkept
    · exact hword

/-! ## Discards -/

/-- An emitted line holds a `discard` exactly if its source line samples a texture and one of the
pieces that are copied holds it. -/
theorem discard_infix_convertLine_iff (slots : SlotSet) (line : Text) :
    ("discard" : Text) <:+: convertLine slots line
      ↔ ("Sample" : Text) <:+: line
        ∧ ∃ piece ∈ (SampleInstruction.ofLine line).copied, ("discard" : Text) <:+: piece := by
  have hword : ShaderLine.isSample line = true ↔ ("Sample" : Text) <:+: line := has_iff_infix
  by_cases hsample : ShaderLine.isSample line = true
  · rw [convertLine, if_pos hsample, bindSample, isForeign_discard.infix_render_iff]
    exact (and_iff_right (hword.1 hsample)).symm
  · refine iff_of_false (fun hemitted => ?_) fun hcopied => hsample (hword.2 hcopied.1)
    rw [convertLine, if_neg hsample] at hemitted
    -- A line that is kept has no `discard`, and where each is replaced none is left.
    split at hemitted
    · obtain ⟨kept, -, hnone, hpart⟩ := isForeign_discard.exists_kept hemitted
      exact hnone hpart
    · rename_i hkept
      rw [Bool.not_eq_true, ShaderLine.isDiscard, has_eq_false_iff] at hkept
      exact hkept hemitted

/-- A `discard` is emitted only where a sample instruction copies it: not at all if no line of the
body both samples and discards. -/
theorem discards_convert (lines : List Text) (textures : List Texture) :
    List.Forall₂ (fun line emitted => ("discard" : Text) <:+: emitted
        ↔ ("Sample" : Text) <:+: line
          ∧ ∃ piece ∈ (SampleInstruction.ofLine line).copied, ("discard" : Text) <:+: piece)
      (window lines) (convert lines textures)
      ∧ ((∀ line ∈ window lines, ("Sample" : Text) <:+: line → ¬ ("discard" : Text) <:+: line) →
        ∀ emitted ∈ convert lines textures, ¬ ("discard" : Text) <:+: emitted) := by
  constructor
  · rw [convert, List.forall₂_map_right_iff, List.forall₂_same]
    exact fun line _ => discard_infix_convertLine_iff _ line
  · intro hlines emitted hemitted hdiscard
    obtain ⟨line, hline, rfl⟩ := List.mem_map.1 hemitted
    obtain ⟨hsample, -⟩ := (discard_infix_convertLine_iff _ line).1 hdiscard
    exact hlines line hline hsample (infix_of_infix_convertLine isForeign_discard hdiscard)

/-- A body with a sample instruction and a `discard` on different lines. -/
def conditionalDiscard : List Text := ["// ps_5_0", "  float4 r0,r1;",
  "  r0.x = t0.Sample(s1_s, v0.xy).x;", "  if (r0.x < 0.5) discard;", "  return;"]

/-- No `discard` is left of a body that samples and discards on different lines. -/
theorem discards_convert_conditionalDiscard :
    (∀ line ∈ window conditionalDiscard, ("Sample" : Text) <:+: line →
        ¬ ("discard" : Text) <:+: line)
      ∧ ∀ emitted ∈ convert conditionalDiscard [⟨"Texture2D", "float4", "t0", 0⟩],
        ¬ ("discard" : Text) <:+: emitted := by
  have hlines : ∀ line ∈ window conditionalDiscard, ("Sample" : Text) <:+: line →
      ¬ ("discard" : Text) <:+: line := by decide
  exact ⟨hlines, (discards_convert conditionalDiscard _).2 hlines⟩

/-- Some bodies keep a `discard`: a sample instruction copies what stands after it on its line. -/
theorem not_forall_not_discard_infix_convert :
    ¬ ∀ (lines : List Text) (textures : List Texture), ∀ emitted ∈ convert lines textures,
      ¬ ("discard" : Text) <:+: emitted := by
  intro hall
  have hnone := hall ["// ps_5_0", "  float4 r0,r1;", "  r0.x = t0.Sample(s0_s, v0.xy).x; discard;"]
    []
  revert hnone
  decide +kernel

/-! ## The Window -/

/-- `IsFirstFrom word lines first index` holds if the line with the given index is the first to hold
a word, from the line with the index `first` on, or if no line holds it and the lines end there. -/
structure IsFirstFrom (word : Text) (lines : List Text) (first index : Nat) : Prop where
  /-- The line is not before the first one. -/
  first_le : first ≤ index
  /-- The line stands within the lines or at their end. -/
  index_le : index ≤ lines.length
  /-- No earlier line holds the word. -/
  not_infix : ∀ earlier line, first ≤ earlier → earlier < index → lines[earlier]? = some line →
    ¬ word <:+: line
  /-- The line holds the word. -/
  infix_line : ∀ line, lines[index]? = some line → word <:+: line

/-- The first line that holds a word is found by looking for it. -/
theorem isFirstFrom_findIdx (word : Text) {lines : List Text} {first : Nat}
    (h : first ≤ lines.length) :
    IsFirstFrom word lines first (first + (lines.drop first).findIdx (·.has word)) where
  first_le := Nat.le_add_right first _
  index_le := by
    have hle : (lines.drop first).findIdx (·.has word) ≤ (lines.drop first).length :=
      List.findIdx_le_length
    rw [List.length_drop] at hle
    omega
  not_infix := by
    intro earlier line hfirst hlt hline
    -- In what is searched the line stands before the one that is found.
    obtain ⟨count, rfl⟩ := Nat.exists_eq_add_of_le hfirst
    have hcount : count < (lines.drop first).findIdx (·.has word) := by omega
    rw [← List.getElem?_drop] at hline
    obtain ⟨hlength, rfl⟩ := List.getElem?_eq_some_iff.1 hline
    rw [← has_eq_false_iff]
    exact List.not_of_lt_findIdx hcount
  infix_line := by
    intro line hline
    rw [← List.getElem?_drop] at hline
    have hfound := List.findIdx_of_getElem?_eq_some hline
    exact has_iff_infix.1 hfound

/-- The emitted line for a source line, from the line and the set of the texture slots alone. -/
def convertFor (slots : Finset Nat) (line : Text) : Text :=
  convertLine (SlotSet.ofList slots.sort) line

theorem convertLine_boundSlots (textures : List Texture) :
    convertLine (boundSlots textures) = convertFor (textures.map (·.slot)).toFinset := by
  have hslots : boundSlots textures
      = SlotSet.ofList (textures.map (·.slot)).toFinset.sort :=
    SlotSet.ofList_congr fun slot => by rw [Finset.mem_sort, List.mem_toFinset]
  rw [hslots]
  rfl

/-- A line that neither samples nor discards is emitted as it is. -/
theorem convertFor_eq_self (slots : Finset Nat) {line : Text}
    (hsample : ¬ ("Sample" : Text) <:+: line) (hdiscard : ¬ ("discard" : Text) <:+: line) :
    convertFor slots line = line := by
  have hplain : ShaderLine.isSample line = false := has_eq_false_iff.2 hsample
  have hkept : ShaderLine.isDiscard line = false := has_eq_false_iff.2 hdiscard
  rw [convertFor, convertLine, hplain, hkept]
  rfl

/-- `IsConversion lines slots start stop emitted` holds if the emitted lines are the conversions of the
source lines from the one with the index `start` up to that with the index `stop`, one by one, and do
not return. -/
structure IsConversion (lines : List Text) (slots : Finset Nat) (start stop : Nat)
    (emitted : List Text) : Prop where
  /-- There is one emitted line for each source line. -/
  length_eq : emitted.length = stop - start
  /-- Each emitted line comes from the source line at its place and the set of the slots alone. -/
  getElem?_eq : ∀ index, index < stop - start →
    emitted[index]? = (lines[start + index]?).map (convertFor slots)
  /-- A source line that neither samples nor discards is emitted as it is. -/
  getElem?_of_plain : ∀ index line, index < stop - start → lines[start + index]? = some line →
    ¬ ("Sample" : Text) <:+: line → ¬ ("discard" : Text) <:+: line → emitted[index]? = some line
  /-- No emitted line returns unconditionally. -/
  not_return : ∀ line ∈ emitted, ¬ ("return;" : Text) <:+: line

/-- The window of a body that starts at a line is what comes before the first return from that line
on. -/
theorem window_eq_take {start : Nat} (h : start? lines = some start) :
    window lines = (lines.drop start).take ((lines.drop start).findIdx ShaderLine.isReturn) := by
  rw [window, h]
  dsimp only
  rw [List.takeWhile_eq_take_findIdx_not]
  simp only [Bool.not_not]

/-- The conversion of the lines from the first one of a body up to the first return. -/
theorem isConversion_of_start? {start stop : Nat} (hstart : start? lines = some start)
    (hstop : stop = start + (lines.drop start).findIdx ShaderLine.isReturn)
    (textures : List Texture) :
    IsConversion lines (textures.map (·.slot)).toFinset start stop (convert lines textures) := by
  have hcount : stop - start = (lines.drop start).findIdx ShaderLine.isReturn := by omega
  have hline : ∀ index, index < stop - start →
      (convert lines textures)[index]?
        = (lines[start + index]?).map (convertFor (textures.map (·.slot)).toFinset) := by
    intro index hindex
    rw [convert, window_eq_take hstart, convertLine_boundSlots, List.getElem?_map,
      List.getElem?_take_of_lt (hcount ▸ hindex), List.getElem?_drop]
  refine ⟨?_, hline, ?_, ?_⟩
  · rw [length_convert, window_eq_take hstart, List.length_take, hcount]
    exact Nat.min_eq_left List.findIdx_le_length
  · intro index line hindex hsource hsample hdiscard
    rw [hline index hindex, hsource, Option.map_some, convertFor_eq_self _ hsample hdiscard]
  · -- A return in an emitted line would stand in its source line, which is before the first return.
    intro emitted hemitted hreturn
    obtain ⟨line, hline, rfl⟩ := List.mem_map.1 hemitted
    have hsource := infix_of_infix_convertLine isForeign_return hreturn
    rw [window, hstart] at hline
    have hpasses := List.all_eq_true.1 List.all_takeWhile line hline
    rw [Bool.not_eq_true', ShaderLine.isReturn, has_eq_false_iff] at hpasses
    exact hpasses hsource

/-- Nothing is emitted without a line that opens the body. Otherwise the lines from the first one that
opens it up to the first return, or to the end, are emitted, one line for each, and no line that is
emitted returns unconditionally. -/
theorem isConversion_convert (lines : List Text) (textures : List Texture) :
    ((∀ line ∈ lines.drop 1, ¬ ("r0,r1" : Text) <:+: line) ∧ convert lines textures = [])
      ∨ ∃ start stop, start < lines.length ∧ IsFirstFrom "r0,r1" lines 1 start
        ∧ IsFirstFrom "return;" lines start stop
        ∧ IsConversion lines (textures.map (·.slot)).toFinset start stop
          (convert lines textures) := by
  cases hfind : (lines.drop 1).findIdx? ShaderLine.opensBody with
  | none =>
    have hstart : start? lines = none := by rw [start?, hfind]; rfl
    refine .inl ⟨fun line hline => ?_, by rw [convert, window, hstart]; rfl⟩
    exact has_eq_false_iff.1 (List.findIdx?_eq_none_iff.1 hfind line hline)
  | some opener =>
    have hstart : start? lines = some (1 + opener) := by
      rw [start?, hfind, Option.map_some, Nat.add_comm]
    obtain ⟨hlt, hopener⟩ := List.findIdx?_eq_some_iff_findIdx_eq.1 hfind
    rw [List.length_drop] at hlt
    have hlength : 1 + opener < lines.length := by omega
    have hfirst : IsFirstFrom "r0,r1" lines 1 (1 + opener) := by
      rw [← hopener]
      exact isFirstFrom_findIdx "r0,r1" (by omega)
    have hstop := isFirstFrom_findIdx ShaderLine.returnStatement (Nat.le_of_lt hlength)
    exact .inr ⟨1 + opener, _, hlength, hfirst, hstop, isConversion_of_start? hstart rfl textures⟩

end Body

end MaterialNode
