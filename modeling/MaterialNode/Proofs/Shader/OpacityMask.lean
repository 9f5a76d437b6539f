import MaterialNode.Plan
import MaterialNode.Proofs.Shader.HeaderScan

/-!
# The Mask and the Emitted Body

A shader is masked if a line discards from the line on where the scan of its header stops. The
converted body masks the fragment at such a line unless the line samples a texture or stands at
or after the first return. The two agree on every other line, so a shader is masked exactly when
its body masks a fragment or spares a `discard` (`masked_iff_rewritesAt_or_sparedAt`).
-/

namespace MaterialNode

namespace HeaderScan

variable {lines : List Text} {start index : Nat} {line : Text}

/-! ## The First Line of the Body -/

/-- The scan of a shader hands over its lines from where it stops on. -/
theorem body_ofSource (lines : List Text) :
    (ofSource lines).body = lines.drop (ofSource lines).bodyStart := by
  cases lines with
  | nil => rfl
  | cons marker rest =>
    obtain ⟨count, hstart, hbody, -⟩ := exists_body_eq_drop 1 0 rest
    rw [ofSource, hstart, hbody, Nat.add_comm, List.drop_succ_cons]

/-- The scan stops at the first line that opens the body or, if it passes over that line,
later. -/
theorem bodyStart_of_start? (h : Body.start? lines = some start) :
    start ≤ (ofSource lines).bodyStart
      ∧ ((ofSource lines).bodyStart = start ∨ (ofSource lines).Covers start) := by
  cases lines with
  | nil => cases h
  | cons marker rest =>
    obtain ⟨first, hfirst, rfl⟩ := Option.map_eq_some_iff.1 h
    rw [Nat.add_comm first 1]
    obtain ⟨hle, hstops⟩ := bodyStart_of_findIdx? hfirst 1 0
    refine ⟨hle, ?_⟩
    rcases hstops with hstops | hcovered | hcovers
    · exact .inl hstops
    · exact absurd hcovered (Nat.not_lt_zero first)
    · exact .inr hcovers

/-- If there is a line where the scan stops or after it, then the body of the shader starts at
that line or before. -/
theorem exists_start?_of_le (h : (ofSource lines).bodyStart ≤ index)
    (hline : lines[index]? = some line) :
    ∃ start, Body.start? lines = some start ∧ start ≤ (ofSource lines).bodyStart := by
  cases lines with
  | nil => simp at hline
  | cons marker rest =>
    obtain ⟨count, hstart, -, hopens⟩ := exists_body_eq_drop 1 0 rest
    rw [ofSource, hstart] at h
    -- The scan stops before the end, so it stops at a line that opens the body.
    have hcount : count < rest.length := by
      obtain ⟨hindex, -⟩ := List.getElem?_eq_some_iff.1 hline
      rw [List.length_cons] at hindex
      omega
    have hopener : ShaderLine.opensBody rest[count] = true :=
      hopens _ (List.getElem?_eq_getElem hcount)
    cases hfirst : rest.findIdx? ShaderLine.opensBody with
    | none =>
      have := List.findIdx?_eq_none_iff.1 hfirst rest[count] (List.getElem_mem hcount)
      rw [hopener] at this
      cases this
    | some first =>
      have hbody : Body.start? (marker :: rest) = some (first + 1) := by
        rw [Body.start?, List.drop_succ_cons, List.drop_zero, hfirst]
        rfl
      exact ⟨first + 1, hbody, (bodyStart_of_start? hbody).1⟩

end HeaderScan

/-- A shader is masked if a line discards where the scan of its header stops or after it. -/
theorem masked_iff_exists_discard (lines : List Text) :
    (Declarations.ofLines lines).masked = true
      ↔ ∃ index line, (HeaderScan.ofSource lines).bodyStart ≤ index ∧ lines[index]? = some line
        ∧ ShaderLine.isDiscard line = true := by
  have hmasked : (Declarations.ofLines lines).masked
      = (lines.drop (HeaderScan.ofSource lines).bodyStart).any ShaderLine.isDiscard := by
    rw [← HeaderScan.body_ofSource]
    rfl
  -- The parser looks at all lines from the start of the body to the end of the source.
  rw [hmasked, List.any_eq_true]
  constructor
  · rintro ⟨line, hmem, hdiscard⟩
    obtain ⟨count, hcount⟩ := List.getElem?_of_mem hmem
    rw [List.getElem?_drop] at hcount
    exact ⟨_, line, Nat.le_add_right _ count, hcount, hdiscard⟩
  · rintro ⟨index, line, hle, hline, hdiscard⟩
    refine ⟨line, List.mem_of_getElem? (i := index - (HeaderScan.ofSource lines).bodyStart) ?_,
      hdiscard⟩
    rw [List.getElem?_drop, Nat.add_sub_cancel' hle]
    exact hline

/-! ## Rewritten and Spared Lines -/

/-- An entry of the longest start of a list that passes a test is an entry of the list up to
which every entry passes. -/
theorem getElem?_takeWhile_eq_some_iff {α : Type} {test : α → Bool} {entries : List α}
    {index : Nat} {entry : α} :
    (entries.takeWhile test)[index]? = some entry ↔ entries[index]? = some entry
      ∧ ∀ earlier other, earlier ≤ index → entries[earlier]? = some other → test other = true := by
  -- An entry is taken if no earlier one, nor itself, fails the test.
  induction entries generalizing index with
  | nil => simp
  | cons first rest ih =>
    rw [List.takeWhile_cons]
    cases hfirst : test first with
    | false =>
      rw [if_neg (by decide), List.getElem?_nil]
      refine iff_of_false (by simp) ?_
      rintro ⟨-, hall⟩
      have hpasses : test first = true := hall 0 first (Nat.zero_le index) rfl
      rw [hfirst] at hpasses
      cases hpasses
    | true =>
      rw [if_pos rfl]
      cases index with
      | zero =>
        refine ⟨fun h => ⟨h, ?_⟩, fun h => h.1⟩
        intro earlier other hle hother
        obtain rfl := Nat.le_zero.1 hle
        cases hother
        exact hfirst
      | succ index =>
        rw [List.getElem?_cons_succ, List.getElem?_cons_succ, ih]
        refine and_congr_right fun _ => ⟨fun hall earlier other hle hother => ?_,
          fun hall earlier other hle hother => hall (earlier + 1) other (by omega) hother⟩
        cases earlier with
        | zero =>
          cases hother
          exact hfirst
        | succ earlier => exact hall earlier other (by omega) hother

namespace Body

variable {lines : List Text} {textures : List Texture} {start index : Nat} {line : Text}

/-- The converted body masks the fragment at the line with the given index: the line discards,
does not sample, and its place in the body holds the line with every `discard` replaced. -/
def RewritesAt (lines : List Text) (textures : List Texture) (index : Nat) : Prop :=
  ∃ start line, start? lines = some start ∧ start ≤ index ∧ lines[index]? = some line
    ∧ ShaderLine.isDiscard line = true ∧ ShaderLine.isSample line = false
    ∧ (convert lines textures)[index - start]? = some (maskDiscards line)

/-- The line with the given index discards, but the converted body does not mask the fragment
there: the line samples a texture or stands at or after the first return. -/
def SparedAt (lines : List Text) (index : Nat) : Prop :=
  ∃ line, lines[index]? = some line ∧ ShaderLine.isDiscard line = true
    ∧ (ShaderLine.isSample line = true ∨ ∃ start stop last, start? lines = some start
      ∧ start ≤ stop ∧ stop ≤ index ∧ lines[stop]? = some last
      ∧ ShaderLine.isReturn last = true)

/-- The place of a line in the window, if no return comes before it or stands on it. -/
theorem getElem?_window (hstart : start? lines = some start) (hle : start ≤ index)
    (hline : lines[index]? = some line)
    (hreturn : ∀ stop last, start ≤ stop → stop ≤ index → lines[stop]? = some last →
      ShaderLine.isReturn last = false) :
    (window lines)[index - start]? = some line := by
  rw [window, hstart, getElem?_takeWhile_eq_some_iff]
  refine ⟨by rwa [List.getElem?_drop, Nat.add_sub_cancel' hle], ?_⟩
  intro earlier other hearlier hother
  -- An entry of the dropped list stands as much later in the source.
  rw [List.getElem?_drop] at hother
  rw [hreturn (start + earlier) other (Nat.le_add_right _ _) (by omega) hother]
  rfl

/-- The converted body masks no fragment at a line that is spared. -/
theorem not_rewritesAt_of_sparedAt (h : SparedAt lines index) :
    ¬ RewritesAt lines textures index := by
  rintro ⟨start, line, hstart, hle, hline, -, hsample, hemitted⟩
  obtain ⟨line', hline', -, hspared⟩ := h
  obtain rfl : line = line' := by
    rw [hline] at hline'
    exact Option.some.inj hline'
  rcases hspared with hsample' | ⟨start', stop, last, hstart', hfrom, hto, hlast, hreturn⟩
  · rw [hsample] at hsample'
    cases hsample'
  · obtain rfl : start = start' := by
      rw [hstart] at hstart'
      exact Option.some.inj hstart'
    -- The line has a place in the window, so no return comes before it.
    rw [convert, List.getElem?_map, Option.map_eq_some_iff, window, hstart] at hemitted
    obtain ⟨_, hplace, -⟩ := hemitted
    have hpasses := (getElem?_takeWhile_eq_some_iff.1 hplace).2 (stop - start) last (by omega)
      (by rwa [List.getElem?_drop, Nat.add_sub_cancel' hfrom])
    rw [hreturn] at hpasses
    cases hpasses

/-- From the start of the body on, a line that discards is rewritten unless it is spared. -/
theorem rewritesAt_iff_not_sparedAt (hstart : start? lines = some start) (hle : start ≤ index)
    (hline : lines[index]? = some line) (hdiscard : ShaderLine.isDiscard line = true) :
    RewritesAt lines textures index ↔ ¬ SparedAt lines index := by
  refine ⟨fun hrewrites hspared => not_rewritesAt_of_sparedAt hspared hrewrites, ?_⟩
  intro hspared
  have hsample : ShaderLine.isSample line = false := by
    rw [← Bool.not_eq_true]
    intro hsample
    exact hspared ⟨line, hline, hdiscard, .inl hsample⟩
  -- If a return came before the line, the window would end there.
  have hreturn : ∀ stop last, start ≤ stop → stop ≤ index → lines[stop]? = some last →
      ShaderLine.isReturn last = false := by
    intro stop last hfrom hto hlast
    rw [← Bool.not_eq_true]
    intro hreturn
    exact hspared ⟨line, hline, hdiscard,
      .inr ⟨start, stop, last, hstart, hfrom, hto, hlast, hreturn⟩⟩
  refine ⟨start, line, hstart, hle, hline, hdiscard, hsample, ?_⟩
  rw [convert, List.getElem?_map, getElem?_window hstart hle hline hreturn, Option.map_some,
    convertLine, hsample, if_neg (by decide), if_pos hdiscard]

end Body

/-- A shader is masked exactly when its converted body masks a fragment, or spares a `discard`,
at a line where the scan of the header stops or after it. -/
theorem masked_iff_rewritesAt_or_sparedAt (lines : List Text) (textures : List Texture) :
    (Declarations.ofLines lines).masked = true
      ↔ (∃ index, (HeaderScan.ofSource lines).bodyStart ≤ index
          ∧ Body.RewritesAt lines textures index)
        ∨ ∃ index, (HeaderScan.ofSource lines).bodyStart ≤ index ∧ Body.SparedAt lines index := by
  rw [masked_iff_exists_discard]
  constructor
  · rintro ⟨index, line, hle, hline, hdiscard⟩
    obtain ⟨start, hstart, hbody⟩ := HeaderScan.exists_start?_of_le hle hline
    -- The line stands in the body, where it is spared or rewritten.
    by_cases hspared : Body.SparedAt lines index
    · exact .inr ⟨index, hle, hspared⟩
    · exact .inl ⟨index, hle, (Body.rewritesAt_iff_not_sparedAt hstart (Nat.le_trans hbody hle)
        hline hdiscard).2 hspared⟩
  · rintro (⟨index, hle, _, line, -, -, hline, hdiscard, -, -⟩ |
      ⟨index, hle, line, hline, hdiscard, -⟩)
    · exact ⟨index, line, hle, hline, hdiscard⟩
    · exact ⟨index, line, hle, hline, hdiscard⟩

/-! ## Converted Shaders -/

/-- The contents of a converted shader hold its converted body. -/
theorem exists_contents_convert (source : Text) (stage : Stage) (samples : Option SampleStore)
    (template : List Text) :
    ∃ before after, (Program.convert source stage samples template).contents
      = some (Text.joinLines (before ++ Body.convert (Text.sourceLines source)
          (Declarations.ofLines (Text.sourceLines source)).textures ++ after)) := by
  obtain ⟨declarations, hdeclarations⟩ : ∃ declarations,
    declarations = Declarations.ofLines (Text.sourceLines source) := ⟨_, rfl⟩
  refine ⟨ConstantBuffer.blocks declarations.constantBuffers samples
    ++ EntryPoint.lines stage declarations, Closing.lines stage declarations template, ?_⟩
  rw [hdeclarations]
  rfl

/-- The mask of a converted shader, its plan and its code. The shader is masked exactly when its
body masks a fragment, or spares a `discard`, at a line where the scan of the header stops or
after it; the scan stops at the first line of the body unless it passes over that line with a
constant buffer. The plan is masked and two-sided exactly when the shader is masked, and its code
holds the converted body. -/
theorem masked_convert (source : Text) (stage : Stage) (samples : Option SampleStore)
    (template : List Text) (material : Text) (metadata : Option StageMetadata) :
    let lines := Text.sourceLines source
    let scan := HeaderScan.ofSource lines
    let program := Program.convert source stage samples template
    let textures := program.declarations.textures
    let plan := MaterialPlan.ofProgram material program metadata
    (program.declarations.masked = true
        ↔ (∃ index, scan.bodyStart ≤ index ∧ Body.RewritesAt lines textures index)
          ∨ ∃ index, scan.bodyStart ≤ index ∧ Body.SparedAt lines index)
      ∧ (∀ index, Body.SparedAt lines index → ¬ Body.RewritesAt lines textures index)
      ∧ (∀ start, Body.start? lines = some start → start ≤ scan.bodyStart
          ∧ (scan.bodyStart = start ∨ scan.Covers start))
      ∧ (plan.blendMode = .masked ↔ program.declarations.masked = true)
      ∧ plan.twoSided = program.declarations.masked
      ∧ ∃ before after,
        plan.code = Text.joinLines (before ++ Body.convert lines textures ++ after) := by
  refine ⟨masked_iff_rewritesAt_or_sparedAt _ _, fun _ => Body.not_rewritesAt_of_sparedAt,
    fun _ => HeaderScan.bodyStart_of_start?, ?_, rfl, ?_⟩
  · rw [MaterialPlan.ofProgram]
    split <;> simp_all
  · obtain ⟨before, after, hcontents⟩ := exists_contents_convert source stage samples template
    refine ⟨before, after, ?_⟩
    rw [MaterialPlan.ofProgram, hcontents]
    rfl

/-- A shader that discards after its return only. -/
def lateDiscard : Text := "// ps_5_0\n  float4 r0,r1;\n  return;\n  discard;"

theorem sparedAt_lateDiscard : Body.SparedAt (Text.sourceLines lateDiscard) 3 := by
  refine ⟨"  discard;", by decide +kernel, by decide, .inr ?_⟩
  exact ⟨1, 2, "  return;", by decide +kernel, by decide, by decide, by decide +kernel, by decide⟩

/-- The scan of a shader that discards after its return only stops at its body, and the `discard`
is not rewritten. -/
theorem masked_convert_lateDiscard :
    1 ≤ (HeaderScan.ofSource (Text.sourceLines lateDiscard)).bodyStart
      ∧ ¬ Body.RewritesAt (Text.sourceLines lateDiscard)
        (Program.convert lateDiscard .pixel none []).declarations.textures 3 := by
  obtain ⟨-, hspared, hstart, -⟩ := masked_convert lateDiscard .pixel none [] [] none
  exact ⟨(hstart 1 (by decide +kernel)).1, hspared 3 sparedAt_lateDiscard⟩

/-- A masked shader need not have a body that masks a fragment. -/
theorem not_forall_masked_iff_rewritesAt :
    ¬ ∀ source : Text, (Declarations.ofLines (Text.sourceLines source)).masked = true
      ↔ ∃ index, Body.RewritesAt (Text.sourceLines source)
        (Declarations.ofLines (Text.sourceLines source)).textures index := by
  intro h
  obtain ⟨index, hrewrites⟩ := (h lateDiscard).1 (by decide +kernel)
  -- No line before the last discards.
  have hlast : index = 3 := by
    obtain ⟨_, line, -, -, hline, hdiscard, -⟩ := hrewrites
    have hlength : (Text.sourceLines lateDiscard).length = 4 := by decide +kernel
    have hquiet : ((Text.sourceLines lateDiscard).take 3).all (fun line =>
        !ShaderLine.isDiscard line) = true := by
      decide +kernel
    obtain ⟨hindex, -⟩ := List.getElem?_eq_some_iff.1 hline
    rw [hlength] at hindex
    by_cases hearly : index < 3
    · rw [← List.getElem?_take_of_lt hearly] at hline
      have hkept := List.all_eq_true.1 hquiet line (List.mem_of_getElem? hline)
      rw [hdiscard] at hkept
      cases hkept
    · omega
  rw [hlast] at hrewrites
  exact Body.not_rewritesAt_of_sparedAt sparedAt_lateDiscard hrewrites

end MaterialNode
