import MaterialNode.Plan
import MaterialNode.Proofs.Code.EmittedLines
import MaterialNode.Proofs.Text.Fields
import MaterialNode.Proofs.Text.Identifier

/-!
# Forwarded Names and Pins

The code of a material node ends with a call that forwards the declared textures and the screen
coordinate, while the pins of the node come from the metadata of the stage. A forwarded name is a
pin if it is the coordinate or the name `t` and the number of a slot for which the metadata has a
texture (`forwards_convert`); nothing makes the metadata agree with the declarations.
-/

namespace MaterialNode

open Text

/-! ## Arguments -/

namespace Closing

/-- `Forwards code argument` holds if the last line of the code is a call of the wrapper that has
the argument. Arguments are parted by commas, and blanks around them do not count. -/
def Forwards (code argument : Text) : Prop :=
  ∃ arguments : Text, (crlfLines code).getLast? = some ("return s.main(" ++ arguments ++ ");")
    ∧ ∃ field ∈ fields ',' arguments, argument = trim field

/-- The arguments of a call are the names of the textures, cut at commas, and the coordinate. -/
theorem fields_arguments (textures : List Texture) :
    fields ',' (textures.flatMap textureArgument ++ EntryPoint.coordinate)
      = textures.flatMap (fun texture => fields ',' texture.name) ++ [EntryPoint.coordinate] := by
  induction textures with
  | nil => decide
  | cons texture textures ih =>
    have hcomma : textureArgument texture = texture.name ++ [','] := rfl
    rw [List.flatMap_cons, hcomma, List.append_assoc, List.append_assoc, List.singleton_append,
      fields_append_cons, ih, List.flatMap_cons, List.append_assoc]

end Closing

/-! ## Pins -/

namespace MaterialPlan

/-- The texture that the metadata of a stage has for a slot. -/
def boundTexture? (metadata : Option StageMetadata) (slot : Nat) : Option BoundTexture :=
  metadata.bind fun stage => stage.textures.get? slot

theorem mem_boundTextures_iff {metadata : Option StageMetadata} {slot : Nat}
    {texture : BoundTexture} :
    (slot, texture) ∈ boundTextures metadata ↔ boundTexture? metadata slot = some texture := by
  cases metadata with
  | none => simp [boundTextures, boundTexture?]
  | some stage => exact Table.mem_entries_iff

/-- A pin has the name of the coordinate or that of a slot for which there is a texture. -/
theorem exists_pin_iff {material name : Text} {program : Program}
    {metadata : Option StageMetadata} :
    (∃ pin ∈ (ofProgram material program metadata).inputs, pin.name = name)
      ↔ name = EntryPoint.coordinate ∨ ∃ slot, (boundTexture? metadata slot).isSome = true
        ∧ name = 't' :: Text.ofNat slot := by
  constructor
  · rintro ⟨pin, hpin, rfl⟩
    rcases List.mem_append.1 hpin with hpin | hpin
    · obtain ⟨⟨slot, texture⟩, hbound, rfl⟩ := List.mem_map.1 hpin
      exact .inr ⟨slot, Option.isSome_of_eq_some (mem_boundTextures_iff.1 hbound), rfl⟩
    · obtain rfl := List.mem_singleton.1 hpin
      exact .inl rfl
  · rintro (rfl | ⟨slot, hbound, rfl⟩)
    · exact ⟨Pin.coordinate, List.mem_append_right _ (List.mem_singleton_self _), rfl⟩
    · obtain ⟨texture, htexture⟩ := Option.isSome_iff_exists.1 hbound
      refine ⟨Pin.ofTexture slot texture, List.mem_append_left _ (List.mem_map.2 ?_), rfl⟩
      exact ⟨(slot, texture), mem_boundTextures_iff.2 htexture, rfl⟩

end MaterialPlan

/-! ## The Call of a Converted Shader -/

namespace Closing

/-- A call forwards the fields of the names and the coordinate. -/
theorem exists_arguments_iff {textures : List Texture} {argument : Text} :
    (∃ arguments : Text, some (callLine textures) = some ("return s.main(" ++ arguments ++ ");")
        ∧ ∃ field ∈ fields ',' arguments, argument = trim field)
      ↔ argument = EntryPoint.coordinate ∨ ∃ texture ∈ textures,
        ∃ field ∈ fields ',' texture.name, argument = trim field := by
  have hcall : callLine textures = ("return s.main(" : Text)
      ++ (textures.flatMap textureArgument ++ EntryPoint.coordinate) ++ (");" : Text) := by
    unfold callLine
    simp only [List.append_assoc]
  have hcoordinate : trim EntryPoint.coordinate = EntryPoint.coordinate := by decide
  constructor
  · rintro ⟨arguments, hline, field, hfield, rfl⟩
    rw [hcall, Option.some.injEq] at hline
    -- What opens and what closes the call is fixed, so the arguments are determined.
    obtain rfl := List.append_cancel_left (List.append_cancel_right hline)
    rw [fields_arguments, List.mem_append, List.mem_flatMap, List.mem_singleton] at hfield
    rcases hfield with ⟨texture, htexture, hfield⟩ | rfl
    · exact .inr ⟨texture, htexture, field, hfield, rfl⟩
    · exact .inl hcoordinate
  · intro h
    refine ⟨_, congrArg some hcall, ?_⟩
    rw [fields_arguments]
    rcases h with rfl | ⟨texture, htexture, field, hfield, rfl⟩
    · exact ⟨_, List.mem_append_right _ (List.mem_singleton_self _), hcoordinate.symm⟩
    · exact ⟨field, List.mem_append_left _ (List.mem_flatMap.2 ⟨texture, htexture, hfield⟩), rfl⟩

/-- The contents of a converted pixel shader end with the call. -/
theorem forwards_contents_iff (source template : Text) (samples : Option SampleStore)
    (argument : Text) :
    let program := Program.convert source .pixel samples (templateLines template)
    Forwards (program.contents.getD []) argument
      ↔ argument = EntryPoint.coordinate ∨ ∃ texture ∈ program.declarations.textures,
        ∃ field ∈ fields ',' texture.name, argument = trim field := by
  intro program
  -- The emitted lines are read back from the contents, and the call is the last of them.
  have hlines : ∀ line ∈ program.outputLines, IsLine line := fun _ =>
    Program.isLine_of_mem_outputLines fun _ => isLine_of_mem_templateLines
  have hcontents : program.contents.getD [] = joinLines program.outputLines := rfl
  have hlast : program.outputLines.getLast? = some (callLine program.declarations.textures) := by
    rw [Program.outputLines_convert, List.getLast?_append, getLast?_lines]
    rfl
  rw [Forwards, hcontents, crlfLines_joinLines hlines, hlast]
  exact exists_arguments_iff

end Closing

namespace MaterialPlan

variable {metadata : Option StageMetadata}

/-- The name of a slot has one field, itself. -/
theorem trim_eq_of_mem_fields {slot : Nat} {field : Text}
    (h : field ∈ fields ',' ('t' :: Text.ofNat slot)) : trim field = 't' :: Text.ofNat slot := by
  have hname : IsIdentifier ('t' :: Text.ofNat slot) := isIdentifier_registerName (by decide) slot
  rw [fields_of_not_mem (hname.not_mem (by decide)), List.mem_singleton] at h
  rw [h, hname.trim_eq]

/-- All that a call forwards are pins exactly if the fields of the declared names are. The coordinate
always is. -/
theorem forall_exists_pin_iff {material code : Text} {program : Program} {textures : List Texture}
    (hforwards : ∀ argument, Closing.Forwards code argument
      ↔ argument = EntryPoint.coordinate ∨ ∃ texture ∈ textures,
        ∃ field ∈ fields ',' texture.name, argument = trim field) :
    (∀ argument, Closing.Forwards code argument
        → ∃ pin ∈ (ofProgram material program metadata).inputs, pin.name = argument)
      ↔ ∀ texture ∈ textures, ∀ field ∈ fields ',' texture.name,
        trim field = EntryPoint.coordinate
          ∨ ∃ slot, (boundTexture? metadata slot).isSome = true
            ∧ trim field = 't' :: Text.ofNat slot := by
  constructor
  · intro h texture htexture field hfield
    exact exists_pin_iff.1 (h _ ((hforwards _).2 (.inr ⟨texture, htexture, field, hfield, rfl⟩)))
  · intro h argument hargument
    refine exists_pin_iff.2 ?_
    rcases (hforwards argument).1 hargument with rfl | ⟨texture, htexture, field, hfield, rfl⟩
    · exact .inl rfl
    · exact h texture htexture field hfield

/-- The code of a converted pixel shader forwards the names of the declared textures, cut at commas,
and the coordinate. All of these are pins of the plan if and only if each field of a name is the
coordinate or the name of a slot for which the metadata has a texture. This is so if the metadata
has a texture for each declared name. -/
theorem forwards_convert (source template material : Text) (samples : Option SampleStore)
    (metadata : Option StageMetadata) :
    let program := Program.convert source .pixel samples (templateLines template)
    let textures := program.declarations.textures
    let plan := ofProgram material program metadata
    (∀ argument, Closing.Forwards plan.code argument
        ↔ argument = "tx" ∨ ∃ texture ∈ textures, ∃ field ∈ fields ',' texture.name,
          argument = trim field)
      ∧ ((∀ argument, Closing.Forwards plan.code argument
            → ∃ pin ∈ plan.inputs, pin.name = argument)
          ↔ ∀ texture ∈ textures, ∀ field ∈ fields ',' texture.name,
            trim field = "tx" ∨ ∃ slot, (boundTexture? metadata slot).isSome = true
              ∧ trim field = 't' :: Text.ofNat slot)
      ∧ ((∀ texture ∈ textures, ∃ slot, (boundTexture? metadata slot).isSome = true
            ∧ texture.name = 't' :: Text.ofNat slot)
          → ∀ argument, Closing.Forwards plan.code argument
            → ∃ pin ∈ plan.inputs, pin.name = argument) := by
  intro program textures plan
  have hforwards := Closing.forwards_contents_iff source template samples
  refine ⟨hforwards, forall_exists_pin_iff hforwards, fun hbound => ?_⟩
  refine (forall_exists_pin_iff hforwards).2 ?_
  intro texture htexture field hfield
  obtain ⟨slot, hslot, hname⟩ := hbound texture htexture
  rw [hname] at hfield
  exact .inr ⟨slot, hslot, trim_eq_of_mem_fields hfield⟩

/-- A shader that declares a texture. -/
def oneTexture : Text := "// ps_5_0\nTexture2D<float4> t0 : register(t0);"

theorem textures_oneTexture (samples : Option SampleStore) (template : List Text) :
    (Program.convert oneTexture .pixel samples template).declarations.textures
      = [⟨"Texture2D", "float4", "t0", 0⟩] :=
  (by decide +kernel : (Declarations.ofLines (sourceLines oneTexture)).textures
    = [⟨"Texture2D", "float4", "t0", 0⟩])

/-- Metadata that has a texture for the slot of that shader. -/
def oneTextureMetadata : StageMetadata where
  samples := .empty
  textures := .ofList [(0, ⟨"AAAA0001", true⟩)]

/-- With this metadata the name that the shader declares is forwarded and is a pin. -/
theorem forwards_convert_oneTexture :
    let program := Program.convert oneTexture .pixel none (templateLines "return output;")
    let plan := ofProgram "ABCD" program (some oneTextureMetadata)
    Closing.Forwards plan.code "t0" ∧ ∃ pin ∈ plan.inputs, pin.name = "t0" := by
  intro program plan
  obtain ⟨hforwards, -, hpins⟩ :=
    forwards_convert oneTexture "return output;" "ABCD" none (some oneTextureMetadata)
  rw [textures_oneTexture] at hforwards hpins
  have ht0 : Closing.Forwards plan.code "t0" :=
    (hforwards "t0").2 (.inr ⟨_, List.mem_singleton_self _, "t0", by decide, by decide⟩)
  refine ⟨ht0, hpins ?_ "t0" ht0⟩
  intro texture htexture
  obtain rfl := List.mem_singleton.1 htexture
  exact ⟨0, by decide, by decide⟩

/-- Without metadata the plan lacks the pin of the declared texture. -/
theorem not_forall_forwards_exists_pin :
    ¬ ∀ (source template material : Text) (samples : Option SampleStore)
      (metadata : Option StageMetadata),
      let program := Program.convert source .pixel samples (templateLines template)
      let plan := ofProgram material program metadata
      ∀ argument, Closing.Forwards plan.code argument
        → ∃ pin ∈ plan.inputs, pin.name = argument := by
  intro h
  have hforwards : Closing.Forwards ((Program.convert oneTexture .pixel none
      (templateLines "return output;")).contents.getD []) "t0" := by
    refine (Closing.forwards_contents_iff oneTexture "return output;" none _).2 (.inr ?_)
    rw [textures_oneTexture]
    exact ⟨_, List.mem_singleton_self _, "t0", by decide, by decide⟩
  have hpin := exists_pin_iff.1 (h oneTexture "return output;" "ABCD" none none "t0" hforwards)
  rcases hpin with hcoordinate | ⟨slot, hbound, -⟩
  · revert hcoordinate
    decide
  · cases hbound

end MaterialPlan

end MaterialNode
