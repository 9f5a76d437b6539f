import MaterialNode.Plan
import MaterialNode.Proofs.Shader.SampleLine
import MaterialNode.Proofs.SlotRank

/-!
# Pins and Bindings

The code of a material node numbers its textures by the ranks of their slots among the declared
ones, and a plan lists its pins in the order of a table with ascending slots. An ascending list is
determined by its members, so if the table has the declared slots, then the texture that a sample
reads by its rank is the one that feeds the pin at this place (`inputs_ofProgram_of_slots`).
-/

namespace MaterialNode

open Text

/-! ## Places in Ascending Order -/

namespace SlotSet

/-- A slot stands at its place. -/
theorem getElem?_of_placeIn {slots : List Nat} {slot place : Nat}
    (h : placeIn slot slots = some place) : slots[place]? = some slot := by
  induction slots generalizing place with
  | nil => cases h
  | cons first rest ih =>
    rw [placeIn] at h
    split at h
    · rename_i hfirst
      cases h
      rw [List.getElem?_cons_zero, hfirst]
    · obtain ⟨place, hplace, rfl⟩ := Option.map_eq_some_iff.1 h
      rw [List.getElem?_cons_succ, ih hplace]

end SlotSet

namespace Table

variable {ν : Type} {table : Table Nat ν}

/-- A key is listed if it holds something. -/
theorem mem_keys_iff {key : Nat} :
    key ∈ table.entries.map (·.1) ↔ (table.get? key).isSome = true := by
  rw [List.mem_map, Option.isSome_iff_exists]
  constructor
  · rintro ⟨⟨_, value⟩, hentry, rfl⟩
    exact ⟨value, mem_entries_iff.1 hentry⟩
  · rintro ⟨value, hvalue⟩
    exact ⟨(key, value), mem_entries_iff.2 hvalue, rfl⟩

/-- The keys are listed in ascending order. -/
theorem pairwise_keys (table : Table Nat ν) : (table.entries.map (·.1)).Pairwise (· < ·) := by
  rw [List.pairwise_map]
  exact table.ascending.imp fun h => of_decide_eq_true h

/-- A table that holds something at the given slots only lists their set. -/
theorem keys_eq_slots {slots : List Nat}
    (h : ∀ slot, (table.get? slot).isSome = true ↔ slot ∈ slots) :
    table.entries.map (·.1) = (SlotSet.ofList slots).slots := by
  refine table.pairwise_keys.eq_of_mem_iff (SlotSet.ofList slots).ascending ?_
  intro slot
  rw [mem_keys_iff, h, SlotSet.mem_ofList]

/-- Such a table lists a slot at its rank. -/
theorem getElem?_entries_of_rank? {slots : List Nat}
    (h : ∀ slot, (table.get? slot).isSome = true ↔ slot ∈ slots) {slot rank : Nat}
    (hrank : (SlotSet.ofList slots).rank? slot = some rank) :
    ∃ value, table.get? slot = some value ∧ table.entries[rank]? = some (slot, value) := by
  have hplace := SlotSet.getElem?_of_placeIn hrank
  rw [← keys_eq_slots h, List.getElem?_map] at hplace
  obtain ⟨⟨_, value⟩, hentry, rfl⟩ := Option.map_eq_some_iff.1 hplace
  exact ⟨value, mem_entries_iff.1 (List.mem_of_getElem? hentry), hentry⟩

end Table

/-! ## The Pins of a Plan -/

namespace MaterialPlan

/-- If the metadata of a stage names a texture for each declared slot and for no other, then a plan
has a pin for each declared slot and one for the coordinate, which comes last. The pin at the rank
of a declared slot has the name of the texture declared there and is fed by the texture that the
metadata names, and a sample of the slot reads the binding with this rank. -/
theorem inputs_ofProgram_of_slots (material : Text) (program : Program) (metadata : StageMetadata)
    (hnames : ∀ texture ∈ program.declarations.textures,
      texture.name = 't' :: Text.ofNat texture.slot)
    (hslots : ∀ slot, (metadata.textures.get? slot).isSome = true
      ↔ slot ∈ program.declarations.textures.map (·.slot)) :
    let textures := program.declarations.textures
    let inputs := (ofProgram material program (some metadata)).inputs
    inputs.length = (textures.map (·.slot)).toFinset.card + 1
      ∧ inputs.getLast? = some ⟨"tx", none, none⟩
      ∧ ∀ texture ∈ textures, ∃ rank info,
        (Body.boundSlots textures).rank? texture.slot = some rank
          ∧ metadata.textures.get? texture.slot = some info
          ∧ inputs[rank]? = some ⟨texture.name, some info.hash,
              some (if info.srgb then .srgb else .linear)⟩
          ∧ texture.name = 't' :: Text.ofNat texture.slot
          ∧ ∀ call : WrittenSample, call.IsWellFormed → digitsValue call.texture = texture.slot →
            Body.convertLine (Body.boundSlots textures) call.line = call.boundLine rank := by
  intro textures inputs
  have hinputs : inputs = metadata.textures.entries.map (fun entry => Pin.ofTexture entry.1 entry.2)
    ++ [Pin.coordinate] := rfl
  refine ⟨?_, ?_, ?_⟩
  · -- There are as many entries as slots in the set.
    have hkeys := congrArg List.length (Table.keys_eq_slots hslots)
    have hsize := SlotSet.size_ofList (textures.map (·.slot))
    rw [SlotSet.size] at hsize
    rw [hinputs, List.length_append, List.length_map, ← List.length_map (·.1), hkeys, hsize]
    rfl
  · rw [hinputs, List.getLast?_concat]
    rfl
  · intro texture htexture
    have hslot : texture.slot ∈ textures.map (·.slot) := List.mem_map_of_mem htexture
    have hrank : (Body.boundSlots textures).rank? texture.slot
        = some (SlotSet.countBelow (textures.map (·.slot)) texture.slot) := by
      rw [Body.boundSlots, SlotSet.rank?_ofList, if_pos hslot]
    obtain ⟨info, hinfo, hentry⟩ := Table.getElem?_entries_of_rank? hslots hrank
    refine ⟨_, info, hrank, hinfo, ?_, hnames texture htexture, ?_⟩
    · -- The pins of the textures come first, so the place is one of theirs.
      obtain ⟨hlt, -⟩ := List.getElem?_eq_some_iff.1 hentry
      rw [hinputs, List.getElem?_append_left (by rwa [List.length_map]),
        List.getElem?_map, hentry, Option.map_some, hnames texture htexture, Pin.ofTexture]
    · intro call hformed hread
      rw [Body.convertLine, if_pos call.isSample_line, call.bindSample_line hformed, hread, hrank]
      rfl

/-- A shader that declares its textures out of order, one of them twice. -/
def shuffledTextures : Text :=
  "// ps_5_0\nTexture2D<float4> t5 : register(t5);\nTexture2D<float4> t2 : register(t2);\n"
    ++ "TextureCube<float3> t5 : register(t5);\n"

/-- Metadata that names the textures of that shader. -/
def shuffledMetadata : StageMetadata where
  samples := .empty
  textures := .ofList [(5, ⟨"BBBB0002", false⟩), (2, ⟨"AAAA0001", true⟩)]

theorem isSome_get?_shuffledMetadata (slot : Nat) :
    (shuffledMetadata.textures.get? slot).isSome = true ↔ slot = 2 ∨ slot = 5 := by
  have hempty : (Table.empty : Table Nat BoundTexture).get? slot = none := rfl
  simp only [shuffledMetadata, Table.ofList, List.foldl_cons, List.foldl_nil, Table.get?_insert,
    hempty]
  split
  · simp_all
  · split <;> simp_all

/-- A sample of the slot that the shader declares twice. -/
def shuffledSample : WrittenSample := ⟨"  r0 ", "5", "1", "v0.xy", "xyzw;"⟩

/-- The texture of slot 5 is read by the binding 1 and feeds the pin at place 1. -/
theorem inputs_ofProgram_shuffledTextures :
    (MaterialPlan.ofProgram "ABCD" ((Program.ofSource shuffledTextures .pixel).step .parse)
        (some shuffledMetadata)).inputs[1]?
      = some ⟨"t5", some "BBBB0002", some .linear⟩
    ∧ Body.convertLine (SlotSet.ofList [5, 2, 5]) "  r0 = t5.Sample(s1_s, v0.xy).xyzw;"
      = "  r0 = Material_Texture2D_1.SampleLevel(Material_Texture2D_0Sampler, v0.xy,0).xyzw;" := by
  have htextures : ((Program.ofSource shuffledTextures .pixel).step .parse).declarations.textures
      = [⟨"Texture2D", "float4", "t5", 5⟩, ⟨"Texture2D", "float4", "t2", 2⟩,
        ⟨"TextureCube", "float3", "t5", 5⟩] := by
    decide +kernel
  have hplan := inputs_ofProgram_of_slots "ABCD"
    ((Program.ofSource shuffledTextures .pixel).step .parse) shuffledMetadata
    (by rw [htextures]; decide) (by
      intro slot
      rw [isSome_get?_shuffledMetadata, htextures]
      simp
      omega)
  rw [htextures] at hplan
  obtain ⟨-, -, hpins⟩ := hplan
  obtain ⟨rank, info, hrank, hinfo, hpin, -, hsample⟩ :=
    hpins ⟨"Texture2D", "float4", "t5", 5⟩ (by simp)
  obtain rfl : 1 = rank := Option.some.inj hrank
  obtain rfl : (⟨"BBBB0002", false⟩ : BoundTexture) = info := Option.some.inj hinfo
  have hread := hsample shuffledSample (by constructor <;> decide) rfl
  have hline : shuffledSample.line = "  r0 = t5.Sample(s1_s, v0.xy).xyzw;" := by decide +kernel
  have hbound : shuffledSample.boundLine 1
      = "  r0 = Material_Texture2D_1.SampleLevel(Material_Texture2D_0Sampler, v0.xy,0).xyzw;" := by
    decide +kernel
  rw [← hline, ← hbound]
  exact ⟨hpin, hread⟩

end MaterialPlan

end MaterialNode
