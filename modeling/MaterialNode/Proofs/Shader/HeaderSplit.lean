import MaterialNode.Proofs.Shader.DeclarationKind
import MaterialNode.Proofs.Shader.OpacityMask

/-!
# Where the Header Ends and the Body Starts

Two searches part a shader into header and body. The scan of the header stops at the first line
that it visits and that opens the body, while the conversion starts at the first line that opens
the body, visited or not. Up to where it stops, the scan depends on nothing that follows
(`ofSource_take_bodyStart`). The two searches agree exactly if no recorded constant buffer covers
the line where the conversion starts (`splitsAt_iff_not_covers`).
-/

namespace MaterialNode

/-! ## The Lines of a Declaration -/

namespace Declaration

variable {line : Text} {following : List Text} {declaration : Declaration}

/-- A declaration takes no more lines than there are. -/
theorem extraLines_le_length (h : ofLine? line following = some declaration) :
    declaration.extraLines ≤ following.length := by
  cases declaration with
  | constantBuffer buffer =>
    rw [ofLine?_of_kind (kind_of_ofLine? h)] at h
    obtain ⟨_, hread, -⟩ := Option.map_eq_some_iff.1 h
    -- The array stands on the second line that follows.
    obtain ⟨array, harray, -⟩ := Option.bind_eq_some_iff.1 hread
    obtain ⟨hlength, -⟩ := List.getElem?_eq_some_iff.1 harray
    exact hlength
  | texture | sampler | input | output => exact Nat.zero_le _

/-- A declaration is read from its own lines: it is read the same if fewer lines follow, as long
as these are among them. -/
theorem ofLine?_take_eq_some_iff {count : Nat} :
    ofLine? line (following.take count) = some declaration
      ↔ ofLine? line following = some declaration ∧ declaration.extraLines ≤ count := by
  -- Only a constant buffer reads further lines, and these are among the taken ones.
  constructor
  · intro h
    have hlength := extraLines_le_length h
    rw [List.length_take] at hlength
    refine ⟨?_, by omega⟩
    have hkind := kind_of_ofLine? h
    rw [ofLine?_of_kind hkind] at h ⊢
    cases declaration with
    | constantBuffer buffer =>
      have hcount : 1 < count := by
        have htwo : 2 ≤ min count following.length := hlength
        omega
      rwa [kind, DeclarationKind.read?, List.getElem?_take_of_lt hcount] at h
    | texture | sampler | input | output => exact h
  · rintro ⟨h, hcount⟩
    have hkind := kind_of_ofLine? h
    rw [ofLine?_of_kind hkind] at h ⊢
    cases declaration with
    | constantBuffer buffer =>
      rwa [kind, DeclarationKind.read?, List.getElem?_take_of_lt hcount]
    | texture | sampler | input | output => exact h

end Declaration

/-- The index of the last line that belongs to a step. -/
def HeaderStep.lastLine : HeaderStep → Nat
  | .declared index declaration => index + declaration.extraLines
  | .skipped line => line.index

namespace HeaderScan

/-! ## What the Scan Depends On -/

@[simp] theorem bodyStart_prepend (step : HeaderStep) (scan : HeaderScan) :
    (scan.prepend step).bodyStart = scan.bodyStart := rfl

/-- A scan does not stop at a line that it passes over. -/
theorem le_bodyStart (index covered : Nat) (lines : List Text) :
    index + min covered lines.length ≤ (ofLines index covered lines).bodyStart := by
  fun_induction ofLines index covered lines with
  | case1 => simp
  | case2 index line rest covered ih =>
    rw [List.length_cons]
    omega
  | case3 => simp
  | case4 index line rest _ _ _ ih | case5 index line rest _ _ ih =>
    have hle := Nat.le_trans (Nat.le_add_right _ _) ih
    rw [Nat.zero_min]
    exact Nat.le_trans (Nat.le_succ index) hle

/-- The lines of a step come before the line where the scan stops. -/
theorem lastLine_lt_bodyStart {lines : List Text} {index covered : Nat} {step : HeaderStep}
    (h : step ∈ (ofLines index covered lines).steps) :
    step.lastLine < (ofLines index covered lines).bodyStart := by
  fun_induction ofLines index covered lines with
  | case1 => cases h
  | case2 index line rest covered ih => exact ih h
  | case3 => cases h
  | case4 index line rest hopens declaration hdeclared ih =>
    rcases List.mem_cons.1 h with rfl | h
    · -- The scan goes on after the lines of the declaration.
      have hlength := Declaration.extraLines_le_length hdeclared
      have hle := le_bodyStart (index + 1) declaration.extraLines rest
      rw [Nat.min_eq_left hlength] at hle
      rw [HeaderStep.lastLine, bodyStart_prepend]
      omega
    · exact ih h
  | case5 index line rest hopens hskipped ih =>
    rcases List.mem_cons.1 h with rfl | h
    · have hle := le_bodyStart (index + 1) 0 rest
      rw [Nat.zero_min] at hle
      exact hle
    · exact ih h

/-- A scan from the next line on stops after the given one. -/
theorem exists_lines_before_bodyStart {index covered count : Nat} {rest : List Text}
    (h : (ofLines (index + 1) covered rest).bodyStart = index + count) :
    ∃ kept, count = kept + 1 ∧ index + count = index + 1 + kept := by
  have hle := le_bodyStart (index + 1) covered rest
  exact ⟨count - 1, by omega, by omega⟩

/-- A scan takes the same steps if the lines end where it stops. -/
theorem ofLines_take {lines : List Text} {index covered count : Nat}
    (h : (ofLines index covered lines).bodyStart = index + count) :
    ofLines index covered (lines.take count)
      = ⟨(ofLines index covered lines).steps, index + count, []⟩ := by
  fun_induction ofLines index covered lines generalizing count with
  | case1 index =>
    obtain rfl : count = 0 := by simpa using h.symm
    rfl
  | case2 index line rest covered ih =>
    obtain ⟨kept, hcount, hindex⟩ := exists_lines_before_bodyStart h
    rw [hindex] at h ⊢
    rw [hcount, List.take_succ_cons, ofLines_covered, ih h]
  | case3 index line rest hopens =>
    obtain rfl : count = 0 := by simpa using h.symm
    rfl
  | case4 index line rest hopens declaration hdeclared ih =>
    rw [bodyStart_prepend] at h
    obtain ⟨kept, hcount, hindex⟩ := exists_lines_before_bodyStart h
    rw [hindex] at h ⊢
    -- The scan does not stop within the declaration, so its lines are kept.
    have hread : Declaration.ofLine? line (rest.take kept) = some declaration := by
      have hle := le_bodyStart (index + 1) declaration.extraLines rest
      rw [Nat.min_eq_left (Declaration.extraLines_le_length hdeclared)] at hle
      exact Declaration.ofLine?_take_eq_some_iff.2 ⟨hdeclared, by omega⟩
    rw [hcount, List.take_succ_cons, ofLines_of_declared (Bool.eq_false_iff.2 hopens) hread, ih h]
    rfl
  | case5 index line rest hopens hskipped ih =>
    rw [bodyStart_prepend] at h
    obtain ⟨kept, hcount, hindex⟩ := exists_lines_before_bodyStart h
    rw [hindex] at h ⊢
    have hread : Declaration.ofLine? line (rest.take kept) = none := by
      rw [Option.eq_none_iff_forall_ne_some]
      intro declaration hdeclared
      -- With more lines to follow it would be read as well.
      have hmore := (Declaration.ofLine?_take_eq_some_iff.1 hdeclared).1
      rw [hskipped] at hmore
      cases hmore
    rw [hcount, List.take_succ_cons, ofLines_of_skipped (Bool.eq_false_iff.2 hopens) hread, ih h]
    rfl

/-- The scan of a shader takes the same steps if the source ends where it stops. -/
theorem ofSource_take_bodyStart (lines : List Text) :
    ofSource (lines.take (ofSource lines).bodyStart)
      = ⟨(ofSource lines).steps, (ofSource lines).bodyStart, []⟩ := by
  cases lines with
  | nil => rfl
  | cons marker rest =>
    obtain ⟨count, hstop, -, -⟩ := exists_body_eq_drop 1 0 rest
    rw [ofSource, hstop, Nat.add_comm 1 count, List.take_succ_cons, ofSource, ofLines_take hstop,
      Nat.add_comm 1 count]

end HeaderScan

/-- A shader declares what the lines declare that come before the one where the scan of its header
stops. -/
theorem Declarations.ofLines_take_bodyStart (lines : List Text) :
    Declarations.ofLines lines
      = { Declarations.ofLines (lines.take (HeaderScan.ofSource lines).bodyStart) with
          masked := (Declarations.ofLines lines).masked } := by
  rw [Declarations.ofLines_eq_collected (lines.take _), HeaderScan.ofSource_take_bodyStart,
    Declarations.ofLines_eq_collected lines]
  rfl

/-! ## The Two Searches -/

namespace HeaderScan

variable {lines : List Text} {start : Nat}

/-- What is recorded of a shader ends before the given line, and the rest is the body: the steps
of the scan are about earlier lines only, the earlier lines alone declare the same, and the mask is
that of the later ones. -/
structure SplitsAt (lines : List Text) (start : Nat) : Prop where
  /-- Nothing is recorded about the line or what follows it. -/
  lastLine_lt : ∀ step ∈ (ofSource lines).steps, step.lastLine < start
  /-- What is declared does not depend on the line or what follows it. -/
  ofLines_take : Declarations.ofLines lines
    = { Declarations.ofLines (lines.take start) with
        masked := (Declarations.ofLines lines).masked }
  /-- The shader is masked if a line discards from the given one on. -/
  masked_iff : (Declarations.ofLines lines).masked = true
    ↔ ∃ index line, start ≤ index ∧ lines[index]? = some line ∧ ShaderLine.isDiscard line = true

/-- A scan splits a shader where it stops. -/
theorem splitsAt_bodyStart (lines : List Text) : SplitsAt lines (ofSource lines).bodyStart where
  lastLine_lt step hstep := by
    cases lines with
    | nil => cases hstep
    | cons marker rest => exact lastLine_lt_bodyStart hstep
  ofLines_take := Declarations.ofLines_take_bodyStart lines
  masked_iff := masked_iff_exists_discard lines

/-- The parser and the conversion split a shader at the same line exactly if no constant buffer
that the parser records covers the line where the conversion starts. Sources that agree before
that line then declare the same. -/
theorem splitsAt_iff_not_covers (h : Body.start? lines = some start) :
    (SplitsAt lines start ↔ ¬ (ofSource lines).Covers start)
      ∧ ∀ other, Body.start? other = some start → other.take start = lines.take start →
        ¬ (ofSource lines).Covers start → ¬ (ofSource other).Covers start →
        Declarations.ofLines other
          = { Declarations.ofLines lines with masked := (Declarations.ofLines other).masked } := by
  have hsplits : ∀ {source : List Text}, Body.start? source = some start →
      ¬ (ofSource source).Covers start → SplitsAt source start := by
    intro source hstart hcovers
    have hstop : (ofSource source).bodyStart = start :=
      (bodyStart_of_start? hstart).2.resolve_right hcovers
    rw [← hstop]
    exact splitsAt_bodyStart source
  refine ⟨⟨?_, hsplits h⟩, ?_⟩
  · rintro hsplit ⟨index, buffer, hmem, -, hle⟩
    -- The last line of the buffer is the covered one or the one after it.
    have hlt : index + 2 < start := hsplit.lastLine_lt _ hmem
    omega
  · intro other hother htake hcovers hcovers'
    rw [(hsplits hother hcovers').ofLines_take, htake, (hsplits h hcovers).ofLines_take]

/-- A shader with a constant buffer before its body. -/
def bufferThenBody : List Text := ["// ps_5_0", "cbuffer cb0 : register(b0)", "\x7b",
  "  float4 cb0[1];", "\x7d", "  float4 r0,r1;", "  discard;", "  return;"]

/-- A buffer that is closed before the body starts does not cover the first line of the body. -/
theorem splitsAt_bufferThenBody :
    Body.start? bufferThenBody = some 5 ∧ ¬ (ofSource bufferThenBody).Covers 5
      ∧ SplitsAt bufferThenBody 5 := by
  have hstart : Body.start? bufferThenBody = some 5 := by decide
  have hcovers : ¬ (ofSource bufferThenBody).Covers 5 := by
    rintro ⟨index, buffer, hmem, hlt, hle⟩
    have hsteps : ∀ step ∈ (ofSource bufferThenBody).steps, step.lastLine < 5 := by decide
    have := hsteps _ hmem
    rw [HeaderStep.lastLine, Declaration.extraLines] at this
    omega
  exact ⟨hstart, hcovers, (splitsAt_iff_not_covers hstart).1.2 hcovers⟩

/-- A shader whose scratch registers are declared within a constant buffer. -/
def openerInBuffer : List Text := ["// ps_5_0", "cbuffer cb0 : register(b0)", "  float4 r0,r1;",
  "  float4 cb0[1];", "Texture2D<float4> t0 : register(t0);", "  discard;"]

/-- The parser need not split a shader where the conversion does. -/
theorem not_forall_splitsAt :
    ¬ ∀ lines start, Body.start? lines = some start → SplitsAt lines start := by
  intro h
  have hsplit : SplitsAt openerInBuffer 2 := h openerInBuffer 2 (by decide)
  have hmasked := hsplit.masked_iff.2 ⟨5, "  discard;", by decide, by decide, by decide⟩
  have hnot : (Declarations.ofLines openerInBuffer).masked = false := by decide
  rw [hnot] at hmasked
  cases hmasked

end HeaderScan

end MaterialNode
