import Mathlib.Data.List.Infix
import MaterialNode.Proofs.Shader.HeaderItem
import MaterialNode.Proofs.Shader.HeaderScan
import MaterialNode.Proofs.Shader.SampleLine

/-!
# Declared and Sampled Slots

A sampler is declared with the last digit of its register number as its slot, while an instruction
names it by the whole number. Both read the same slot for the registers 0 to 9 and for no others
(`samplerSlot_mem_samplers_iff`).
-/

namespace MaterialNode

open Text

/-! ## Slots Are Single Digits -/

/-- A single character spells no number above nine. -/
theorem Text.registerNumber_singleton_le (c : Char) : registerNumber [c] 0 ≤ 9 := by
  by_cases hdigit : isDigit c = true
  · have hdigits : IsDigits [c] := by simpa [IsDigits] using hdigit
    have hvalue : digitsValue [c] ≤ 9 := by
      simp only [isDigit, Bool.and_eq_true, decide_eq_true_eq] at hdigit
      have h0 : '0'.toNat = 48 := rfl
      have h9 : '9'.toNat = 57 := rfl
      simp only [digitsValue, List.foldl_cons, List.foldl_nil, digitValue]
      omega
    have hbound : 9 < registerBound := by decide
    change toRegister (numberAtStart [c]) ≤ 9
    rw [toRegister_numberAtStart hdigits (by omega)]
    exact hvalue
  · -- Blanks, signs and other characters that are no digits spell the number zero.
    have hzero : numberAtStart [c] = 0 := by
      have hstart : trimStart [c] = [] ∨ trimStart [c] = [c] := by
        cases hblank : isBlank c <;> simp [trimStart, hblank]
      rcases hstart with hstart | hstart
      · rw [numberAtStart, hstart]
        rfl
      · rw [numberAtStart, hstart]
        split
        · rename_i heq
          cases heq
          rfl
        · rename_i heq
          cases heq
          rfl
        · rw [List.takeWhile_cons, if_neg hdigit]
          rfl
    change toRegister (numberAtStart [c]) ≤ 9
    rw [hzero]
    decide

theorem ShaderLine.sampler?_le {line : Text} {slot : Nat} (h : sampler? line = some slot) :
    slot ≤ 9 := by
  simp only [sampler?, Option.bind_eq_bind, Option.bind_eq_some_iff, Option.pure_def,
    Option.some.injEq] at h
  obtain ⟨_, -, _, -, last, -, rfl⟩ := h
  exact registerNumber_singleton_le last

namespace Declarations

variable {lines : List Text} {slot : Nat}

/-- The slots of the samplers are those that the scan of the header recorded. -/
theorem mem_samplers_iff :
    slot ∈ (ofLines lines).samplers.slots
      ↔ ∃ index, .declared index (.sampler slot) ∈ (HeaderScan.ofSource lines).steps := by
  rw [ofLines_eq_collected, collected, SlotSet.mem_ofList, List.mem_filterMap]
  constructor
  · rintro ⟨declaration, hdeclared, hslot⟩
    obtain ⟨step, hstep, hdeclaration⟩ := List.mem_filterMap.1 hdeclared
    cases step with
    | skipped => cases hdeclaration
    | declared index =>
      cases hdeclaration
      cases declaration <;> cases hslot
      exact ⟨index, hstep⟩
  · rintro ⟨index, hstep⟩
    exact ⟨.sampler slot, List.mem_filterMap.2 ⟨_, hstep, rfl⟩, rfl⟩

/-- No header declares a slot above nine. -/
theorem le_of_mem_samplers (h : slot ∈ (ofLines lines).samplers.slots) : slot ≤ 9 := by
  obtain ⟨index, hstep⟩ := mem_samplers_iff.1 h
  obtain ⟨line, -, -, hread⟩ := HeaderScan.exists_ofLine?_of_declared_mem_ofSource hstep
  rw [Declaration.ofLine?_of_kind (Declaration.kind_of_ofLine? hread)] at hread
  obtain ⟨_, hslot, hsame⟩ := Option.map_eq_some_iff.1 hread
  cases hsame
  exact ShaderLine.sampler?_le hslot

end Declarations

/-! ## Written Samplers -/

theorem opensBody_samplerLine (register : Nat) :
    ShaderLine.opensBody (samplerLine register) = false :=
  has_eq_false_of_not_mem (c := ',') (by decide) (not_mem_samplerLine (by decide) (by decide))

/-- A sampler declares the last digit of its register number. -/
theorem ofLine?_samplerLine (register : Nat) (following : List Text) :
    Declaration.ofLine? (samplerLine register) following = some (.sampler (register % 10)) := by
  rw [Declaration.ofLine?_of_kind (kind_samplerLine register), DeclarationKind.read?,
    sampler?_samplerLine]
  rfl

variable {before after : List Text} {marker : Text} {register : Nat}

/-- A sampler before the body is recorded unless a constant buffer covers its line. -/
theorem mod_ten_mem_samplers (hbefore : ∀ line ∈ before, ShaderLine.opensBody line = false)
    (hcovers : ¬ (HeaderScan.ofSource
      (marker :: (before ++ samplerLine register :: after))).Covers (before.length + 1)) :
    register % 10 ∈ (Declarations.ofLines
      (marker :: (before ++ samplerLine register :: after))).samplers.slots := by
  rw [Nat.add_comm] at hcovers
  rcases HeaderScan.exists_prependAll_or_covers hbefore 1 0 with ⟨steps, hvisits⟩ | hnot | hcovered
  · rw [Declarations.mem_samplers_iff, HeaderScan.ofSource, hvisits,
      HeaderScan.ofLines_of_declared (opensBody_samplerLine register)
        (ofLine?_samplerLine register after)]
    exact ⟨_, List.mem_append_right steps List.mem_cons_self⟩
  · exact absurd hnot (Nat.not_lt_zero _)
  · exact absurd hcovered hcovers

/-- A sampler is declared before the body, by a line that no constant buffer covers, and an
instruction samples with it. The slot that is read from the instruction is the register number, up
to the largest number, the declared slots hold the last digit of the register number, and they hold
single digits only. So the slot that is read is the register number and is declared if and only if
the register number is at most nine. -/
theorem samplerSlot_mem_samplers_iff (hbefore : ∀ line ∈ before, ¬ ("r0,r1" : Text) <:+: line)
    (hcovers : ¬ (HeaderScan.ofSource
      (marker :: (before ++ samplerLine register :: after))).Covers (before.length + 1))
    {call : WrittenSample} (htarget : ¬ ("(s" : Text) <:+: call.target)
    (htexture : IsDigits call.texture) (hsampler : call.sampler = ofNat register) :
    let slot := (SampleInstruction.ofLine call.line).samplerSlot
    let declared := (Declarations.ofLines
      (marker :: (before ++ samplerLine register :: after))).samplers.slots
    slot = ((min register maxNumber : Nat) : Int)
      ∧ register % 10 ∈ declared
      ∧ (∀ other ∈ declared, other ≤ 9)
      ∧ (slot = register ∧ register ∈ declared ↔ register ≤ 9) := by
  intro slot declared
  have hslot : slot = ((min register maxNumber : Nat) : Int) := by
    have hdigits : IsDigits call.sampler := by
      rw [hsampler]
      exact isDigits_ofNat register
    have hread := WrittenSample.samplerSlot_line htarget htexture hdigits
    rwa [hsampler, digitsValue_ofNat] at hread
  have hmem : register % 10 ∈ declared :=
    mod_ten_mem_samplers (fun line hline => has_eq_false_iff.2 (hbefore line hline)) hcovers
  have hle : ∀ other ∈ declared, other ≤ 9 := fun _ => Declarations.le_of_mem_samplers
  refine ⟨hslot, hmem, hle, fun h => hle register h.2, fun hregister => ?_⟩
  -- A single digit is its own last digit.
  have hmax : 9 ≤ maxNumber := by decide
  rw [Nat.mod_eq_of_lt (by omega)] at hmem
  refine ⟨?_, hmem⟩
  rw [hslot, Nat.min_eq_left (by omega)]

/-- A shader that declares a texture and a sampler. -/
def oneSampler : List Text :=
  "// ps_5_0" :: ((["Texture2D<float4> t12 : register(t12);"] : List Text)
    ++ samplerLine 3 :: ["  float4 r0,r1;"])

/-- An instruction that uses both. -/
def oneSample : WrittenSample := ⟨"  r0.xyzw ", "12", "3", "v0.xy", "xyzw;"⟩

/-- A sampler of one digit is declared and sampled with the same slot. -/
theorem samplerSlot_mem_samplers_oneSampler :
    (SampleInstruction.ofLine oneSample.line).samplerSlot = (3 : Nat)
      ∧ 3 ∈ (Declarations.ofLines oneSampler).samplers.slots := by
  have hcovers : ¬ (HeaderScan.ofSource oneSampler).Covers 2 := by
    rintro ⟨index, buffer, hmem, -, -⟩
    have hsteps : ∀ step ∈ (HeaderScan.ofSource oneSampler).steps,
        step.declaration?.bind Declaration.constantBuffer? = none := by
      decide +kernel
    cases hsteps _ hmem
  have hbefore : ∀ line ∈ (["Texture2D<float4> t12 : register(t12);"] : List Text),
      ¬ ("r0,r1" : Text) <:+: line := by
    decide
  have htarget : ¬ ("(s" : Text) <:+: oneSample.target := by decide
  have htexture : IsDigits oneSample.texture := by decide
  have hsampler : oneSample.sampler = ofNat 3 := by decide
  obtain ⟨-, -, -, hagree⟩ := @samplerSlot_mem_samplers_iff _ _ "// ps_5_0" 3 hbefore hcovers
    oneSample htarget htexture hsampler
  exact hagree.2 (by decide)

/-- The slot of a sampled register need not be declared: not for a register number of two digits,
and not for one of a single digit if a constant buffer covers the line of the sampler. -/
theorem not_forall_samplerSlot_mem_samplers :
    (¬ ∀ (marker : Text) (before after : List Text) (register : Nat) (call : WrittenSample),
        (∀ line ∈ before, ¬ ("r0,r1" : Text) <:+: line) → call.IsWellFormed →
        call.sampler = ofNat register →
        (SampleInstruction.ofLine call.line).samplerSlot = register
          ∧ register ∈ (Declarations.ofLines
            (marker :: (before ++ samplerLine register :: after))).samplers.slots)
      ∧ ¬ ∀ (marker : Text) (before after : List Text) (register : Nat) (call : WrittenSample),
        register ≤ 9 → (∀ line ∈ before, ¬ ("r0,r1" : Text) <:+: line) → call.IsWellFormed →
        call.sampler = ofNat register →
        (SampleInstruction.ofLine call.line).samplerSlot = register
          ∧ register ∈ (Declarations.ofLines
            (marker :: (before ++ samplerLine register :: after))).samplers.slots := by
  constructor
  · intro h
    have hformed : WrittenSample.IsWellFormed ⟨"  r0.xyzw ", "0", "12", "v0.xy", "xyzw;"⟩ := by
      constructor <;> decide
    have htwelve := (h "// ps_5_0" [] ["  float4 r0,r1;"] 12 _ (by simp) hformed (by decide)).2
    exact absurd (Declarations.le_of_mem_samplers htwelve) (by decide)
  · intro h
    have hformed : WrittenSample.IsWellFormed ⟨"  r0.xyzw ", "0", "1", "v0.xy", "xyzw;"⟩ := by
      constructor <;> decide
    have hbuffer : ∀ line ∈ (["cbuffer cb0 : register(b0)"] : List Text),
        ¬ ("r0,r1" : Text) <:+: line := by
      decide
    have hcovered := (h "// ps_5_0" _ ["  float4 cb0[1];", "  float4 r0,r1;"] 1 _ (by decide)
      hbuffer hformed (by decide)).2
    revert hcovered
    decide +kernel

end MaterialNode
