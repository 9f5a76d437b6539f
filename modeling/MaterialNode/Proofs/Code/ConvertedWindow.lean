import MaterialNode.Proofs.Shader.HeaderSplit

/-!
# What the Code Depends On

The first source line is never read, and the conversion ends at the first return of the body. Two
sources that agree on the lines between therefore become the same code, unless the parser passes
over the first line of the body with a constant buffer (`convertLines_of_agreeUpTo`). Only the mask
depends on what follows the return.
-/

namespace MaterialNode

/-! ## Sources that Agree -/

/-- Two sources agree up to a line if they have the same lines up to and including that one, the
first line apart. -/
def AgreeUpTo (stop : Nat) (first second : List Text) : Prop :=
  ∀ index, 1 ≤ index → index ≤ stop → second[index]? = first[index]?

variable {stop : Nat} {first second : List Text}

/-- Sources that agree have the same lines in between, taken together. -/
theorem AgreeUpTo.take_drop_eq (h : AgreeUpTo stop first second) {offset count : Nat}
    (hpos : 1 ≤ offset) (hle : offset + count ≤ stop + 1) :
    (second.drop offset).take count = (first.drop offset).take count := by
  refine List.ext_getElem? fun index => ?_
  rw [List.getElem?_take, List.getElem?_take, List.getElem?_drop, List.getElem?_drop]
  split
  · exact h (offset + index) (by omega) (by omega)
  · rfl

theorem agreeUpTo_iff : AgreeUpTo stop first second
    ↔ (second.drop 1).take stop = (first.drop 1).take stop := by
  constructor
  · intro h
    exact h.take_drop_eq (Nat.le_refl 1) (by omega)
  · intro h index hpos hle
    obtain ⟨index, rfl⟩ := Nat.exists_eq_add_of_le hpos
    have hindex : index < stop := by omega
    rw [← List.getElem?_drop, ← List.getElem?_drop, ← List.getElem?_take_of_lt hindex, h,
      List.getElem?_take_of_lt hindex]

instance : Decidable (AgreeUpTo stop first second) := decidable_of_iff _ agreeUpTo_iff.symm

/-! ## The Body -/

/-- Where the body starts is seen from the lines up to any later one. -/
theorem Body.start?_eq_some_iff_take {lines : List Text} {start : Nat} (h : start ≤ stop) :
    start? lines = some start
      ↔ (((lines.drop 1).take stop).findIdx? ShaderLine.opensBody).map (· + 1) = some start := by
  rw [start?, List.findIdx?_take]
  cases (lines.drop 1).findIdx? ShaderLine.opensBody with
  | none => rfl
  | some opener =>
    simp only [Option.map_some, Option.bind_some, Option.guard, decide_eq_true_eq]
    split
    · rfl
    · -- A body that starts at the given line starts before the lines end.
      simp only [Option.some.injEq, Option.map_none, reduceCtorEq, iff_false]
      omega

/-- A list goes on passing a test up to the first entry that fails it, whatever follows. -/
theorem takeWhile_take_of_getElem? {α : Type} {test : α → Bool} {entries : List α} {count : Nat}
    {last : α} (hlast : entries[count]? = some last) (htest : test last = false) :
    (entries.take count).takeWhile test = entries.takeWhile test := by
  induction entries generalizing count with
  | nil => cases hlast
  | cons entry entries ih =>
    cases count with
    | zero =>
      obtain rfl : entry = last := Option.some.inj hlast
      rw [List.take_zero, List.takeWhile_nil, List.takeWhile_cons_of_neg (by simp [htest])]
    | succ count => rw [List.take_succ_cons, List.takeWhile_cons, List.takeWhile_cons, ih hlast]

namespace AgreeUpTo

variable {start : Nat} {last : Text}

/-- The body starts at the same line of both sources. -/
theorem start?_eq (h : AgreeUpTo stop first second) (hstart : Body.start? first = some start)
    (hle : start ≤ stop) : Body.start? second = some start := by
  rw [Body.start?_eq_some_iff_take hle] at hstart ⊢
  rw [agreeUpTo_iff.1 h, hstart]

/-- If the sources agree up to a return in the body, then the window shows the same lines. -/
theorem window_eq (h : AgreeUpTo stop first second) (hstart : Body.start? first = some start)
    (hle : start ≤ stop) (hlast : first[stop]? = some last)
    (hreturn : ShaderLine.isReturn last = true) : Body.window second = Body.window first := by
  have hpos : 1 ≤ start := by
    obtain ⟨opener, -, rfl⟩ := Option.map_eq_some_iff.1 hstart
    exact Nat.le_add_left 1 opener
  have hindex : start + (stop - start) = stop := Nat.add_sub_cancel' hle
  have htest : (!ShaderLine.isReturn last) = false := by rw [hreturn]; rfl
  -- Both windows end at the return, and the lines before it are the same.
  have hshared : (second.drop start).take (stop - start)
      = (first.drop start).take (stop - start) := h.take_drop_eq hpos (by omega)
  have hfirst : (first.drop start)[stop - start]? = some last := by
    rw [List.getElem?_drop, hindex, hlast]
  have hsecond : (second.drop start)[stop - start]? = some last := by
    rw [List.getElem?_drop, hindex, h stop (Nat.le_trans hpos hle) (Nat.le_refl stop), hlast]
  rw [Body.window, Body.window, h.start?_eq hstart hle, hstart]
  dsimp only
  rw [← takeWhile_take_of_getElem? hfirst htest, ← takeWhile_take_of_getElem? hsecond htest,
    hshared]

end AgreeUpTo

/-! ## The Declarations -/

/-- The first source line is not read. -/
theorem Declarations.ofLines_congr (h : first.drop 1 = second.drop 1) :
    ofLines first = ofLines second := by
  have hmarker : ∀ lines : List Text, ofLines lines = ofLines ([] :: lines.drop 1) := by
    intro lines
    cases lines <;> rfl
  rw [hmarker first, hmarker second, h]

/-- If neither of the two lines before the start of the body opens a constant buffer, then the scan
does not pass over the start. -/
theorem HeaderScan.not_covers_of_isConstantBuffer_eq_false {lines : List Text} {start : Nat}
    (h : ∀ index line, 1 ≤ index → index < start → start ≤ index + 2 →
      lines[index]? = some line → ShaderLine.isConstantBuffer line = false) :
    ¬ (ofSource lines).Covers start := by
  rintro ⟨index, buffer, hmem, hlt, hle⟩
  obtain ⟨line, hpos, hline, hread⟩ := exists_ofLine?_of_declared_mem_ofSource hmem
  -- What is read as a constant buffer starts on a line that opens one.
  have hopens : ShaderLine.isConstantBuffer line = true :=
    DeclarationKind.recognises_of_ofLine? (Declaration.kind_of_ofLine? hread)
  rw [h index line hpos hlt hle hline] at hopens
  cases hopens

/-- Sources that agree up to the start of the body, and whose scans stop there, declare the same
but for the mask. -/
theorem AgreeUpTo.declarations_eq {start : Nat} (h : AgreeUpTo stop first second)
    (hle : start ≤ stop) (hfirst : (HeaderScan.ofSource first).bodyStart = start)
    (hsecond : (HeaderScan.ofSource second).bodyStart = start) :
    Declarations.ofLines second
      = { Declarations.ofLines first with masked := (Declarations.ofLines second).masked } := by
  have htail : (second.take start).drop 1 = (first.take start).drop 1 := by
    rw [List.drop_take, List.drop_take]
    exact h.take_drop_eq (Nat.le_refl 1) (by omega)
  rw [Declarations.ofLines_take_bodyStart second, Declarations.ofLines_take_bodyStart first, hfirst,
    hsecond, Declarations.ofLines_congr htail]

/-! ## Programs -/

namespace Program

/-- The finished program of source lines. -/
def convertLines (lines : List Text) (stage : Stage) (samples : Option SampleStore)
    (template : List Text) : Program :=
  run ⟨stage, lines, [], Declarations.empty, none⟩ (conversion samples template)

/-- A source is converted line by line. -/
theorem convert_eq_convertLines (source : Text) (stage : Stage) (samples : Option SampleStore)
    (template : List Text) : convert source stage samples template
      = convertLines (Text.sourceLines source) stage samples template := rfl

/-- A finished program has its declarations, the lines that it emitted and these lines joined. -/
theorem convertLines_eq (lines : List Text) (stage : Stage) (samples : Option SampleStore)
    (template : List Text) :
    let declarations := Declarations.ofLines lines
    let emitted := ConstantBuffer.blocks declarations.constantBuffers samples
      ++ EntryPoint.lines stage declarations
      ++ Body.convert lines declarations.textures
      ++ Closing.lines stage declarations template
    convertLines lines stage samples template
      = ⟨stage, lines, emitted, declarations, some (Text.joinLines emitted)⟩ := rfl

/-- No step but the parser looks at the mask, and none but the parser and the conversion of the body
at the source lines. -/
theorem convertLines_congr {masked : Bool} (hdeclarations : Declarations.ofLines second
      = { Declarations.ofLines first with masked := masked })
    (hwindow : Body.window second = Body.window first) (stage : Stage)
    (samples : Option SampleStore) (template : List Text) :
    let program := convertLines first stage samples template
    convertLines second stage samples template
      = { program with
          sourceLines := second
          declarations := { program.declarations with masked := masked } } := by
  have hbody : ∀ textures, Body.convert second textures = Body.convert first textures := by
    intro textures
    rw [Body.convert, Body.convert, hwindow]
  rw [convertLines_eq, convertLines_eq, hdeclarations, hbody]
  cases stage <;> rfl

/-- The code of a shader and all that is declared depend on the lines up to the first return of the
body only, without the first line, unless one of the two lines before the body opens a constant
buffer: a source that agrees with another on these lines is converted to the same program, but for
its source lines and its mask. The plans of the two programs agree but for how the material blends
and whether it has two sides. -/
theorem convertLines_of_agreeUpTo {start : Nat} {last : Text}
    (hstart : Body.start? first = some start) (hle : start ≤ stop)
    (hlast : first[stop]? = some last) (hreturn : ShaderLine.isReturn last = true)
    (hagree : AgreeUpTo stop first second)
    (hbuffer : ∀ index line, 1 ≤ index → index < start → start ≤ index + 2 →
      first[index]? = some line → ShaderLine.isConstantBuffer line = false)
    (stage : Stage) (samples : Option SampleStore) (template : List Text) :
    let program := convertLines first stage samples template
    let other := convertLines second stage samples template
    other = { program with
        sourceLines := second
        declarations := { program.declarations with masked := other.declarations.masked } }
      ∧ ∀ (material : Text) (metadata : Option StageMetadata),
        let plan := MaterialPlan.ofProgram material program metadata
        let otherPlan := MaterialPlan.ofProgram material other metadata
        otherPlan = { plan with
          blendMode := otherPlan.blendMode
          twoSided := otherPlan.twoSided } := by
  intro program other
  have hstart' : Body.start? second = some start := hagree.start?_eq hstart hle
  have hbuffer' : ∀ index line, 1 ≤ index → index < start → start ≤ index + 2 →
      second[index]? = some line → ShaderLine.isConstantBuffer line = false := by
    intro index line hpos hlt hnear hline
    rw [hagree index hpos (by omega)] at hline
    exact hbuffer index line hpos hlt hnear hline
  -- Both scans stop where the body starts.
  have hstop : (HeaderScan.ofSource first).bodyStart = start :=
    (HeaderScan.bodyStart_of_start? hstart).2.resolve_right
      (HeaderScan.not_covers_of_isConstantBuffer_eq_false hbuffer)
  have hstop' : (HeaderScan.ofSource second).bodyStart = start :=
    (HeaderScan.bodyStart_of_start? hstart').2.resolve_right
      (HeaderScan.not_covers_of_isConstantBuffer_eq_false hbuffer')
  have hsame : other = { program with
      sourceLines := second
      declarations := { program.declarations with masked := other.declarations.masked } } :=
    convertLines_congr (hagree.declarations_eq hle hstop hstop')
      (hagree.window_eq hstart hle hlast hreturn) stage samples template
  refine ⟨hsame, fun material metadata => ?_⟩
  intro plan otherPlan
  -- A plan takes its code from the contents, and nothing else from the program but the mask.
  have hcontents : other.contents = program.contents := by rw [hsame]
  simp only [plan, otherPlan, MaterialPlan.ofProgram, hcontents]

/-- A shader that is not masked. -/
def quietTail : List Text := ["// ps_5_0", "cbuffer cb0 : register(b0)", "\x7b",
  "  float4 cb0[1];", "\x7d", "void main()", "\x7b", "  float4 r0,r1;", "  return;", "\x7d"]

/-- The same shader with another first line, and with a `discard` after the return. -/
def loudTail : List Text := ["cbuffer r0,r1", "cbuffer cb0 : register(b0)", "\x7b",
  "  float4 cb0[1];", "\x7d", "void main()", "\x7b", "  float4 r0,r1;", "  return;", "  discard;",
  "Texture2D<float4> t0 : register(t0);"]

/-- Both shaders become the same code, although one of them is masked. -/
theorem convertLines_of_agreeUpTo_quietTail :
    AgreeUpTo 8 quietTail loudTail
      ∧ (convertLines loudTail .pixel none ["return output;"]).contents
        = (convertLines quietTail .pixel none ["return output;"]).contents
      ∧ (convertLines quietTail .pixel none ["return output;"]).declarations.masked = false
      ∧ (convertLines loudTail .pixel none ["return output;"]).declarations.masked = true := by
  have hagree : AgreeUpTo 8 quietTail loudTail := by decide
  have hbuffer : ∀ index line, 1 ≤ index → index < 7 → 7 ≤ index + 2 →
      quietTail[index]? = some line → ShaderLine.isConstantBuffer line = false := by
    intro index line _ hlt hnear hline
    obtain rfl | rfl : index = 5 ∨ index = 6 := by omega
    all_goals
      cases hline
      decide
  obtain ⟨hsame, -⟩ := convertLines_of_agreeUpTo (by decide) (by decide) rfl (by decide) hagree
    hbuffer .pixel none ["return output;"]
  refine ⟨hagree, ?_, by decide, by decide⟩
  rw [hsame]

end Program

end MaterialNode
