import MaterialNode.Plan.Document
import MaterialNode.Proofs.Code.EmittedLines
import MaterialNode.Proofs.Files.Storage
import MaterialNode.Proofs.Json.RoundTrip

/-!
# Saved Plans

The document of a plan holds this plan and no other (`ofDocument?_document`), whatever the texts in
it are, so a plan that could be saved is loaded from where it was saved (`load_of_save`). The
contents of a converted shader are no document of a plan (`ofDocument?_contents_convert`), so the
file of a plan can be told from that of a shader.
-/

namespace MaterialNode

open Json

/-! ## Reading Back the Parts -/

@[simp] theorem BlendMode.ofWord?_word (mode : BlendMode) : ofWord? mode.word = some mode := by
  cases mode <;> decide

@[simp] theorem ColorSpace.ofWord?_word (space : ColorSpace) : ofWord? space.word = some space := by
  cases space <;> decide

/-- Items read back one by one if each of them does. -/
theorem mapM_map_of_forall {α β : Type} {write : α → β} {read? : β → Option α}
    (h : ∀ item, read? (write item) = some item) (items : List α) :
    (items.map write).mapM read? = some items := by
  have hread : ∀ item ∈ items, read? (write item) = some (id item) := fun item _ => h item
  rw [Text.mapM_map_eq_some_map hread, List.map_id]

/-- A member with a plain name reads back if its value does. -/
theorem membersReadBack_cons {name : Text} {value : Value} {members : List (Key × Value)}
    (hname : IsPlainName name) (hvalue : ReadsBack value) (hmembers : MembersReadBack members) :
    MembersReadBack (plainMember name value :: members) :=
  List.forall_mem_cons.2 ⟨⟨⟨name, hname, rfl⟩, hvalue⟩, hmembers⟩

theorem membersReadBack_nil : MembersReadBack [] := by
  rintro _ ⟨⟩

/-- A member that may be left out reads back. -/
theorem membersReadBack_optionalMember {name : Text} (hname : IsPlainName name)
    (value : Option Text) {members : List (Key × Value)} (hmembers : MembersReadBack members) :
    MembersReadBack (optionalMember name value ++ members) := by
  cases value with
  | none => exact hmembers
  | some text => exact membersReadBack_cons hname (readsBack_string text) hmembers

namespace Pin

theorem readsBack_toJson (pin : Pin) : ReadsBack pin.toJson := by
  -- The members in the order of the record.
  unfold toJson
  refine readsBack_object (membersReadBack_cons (by decide) (readsBack_string _) ?_)
  rw [← List.append_nil (optionalMember "sampler" _)]
  apply membersReadBack_optionalMember (by decide)
  exact membersReadBack_optionalMember (by decide) _ membersReadBack_nil

theorem ofJson?_toJson (pin : Pin) : ofJson? pin.toJson = some pin := by
  obtain ⟨name, textureHash, colorSpace⟩ := pin
  -- Each of the two optional members is written or left out.
  cases textureHash with
  | none =>
    cases colorSpace with
    | none => rfl
    | some space => cases space <;> rfl
  | some hash =>
    cases colorSpace with
    | none => rfl
    | some space => cases space <;> rfl

end Pin

namespace MaterialPlan

theorem readsBack_toJson (plan : MaterialPlan) : ReadsBack plan.toJson := by
  have hinputs : ReadsBack (.array (plan.inputs.map Pin.toJson)) := by
    refine readsBack_array fun item hitem => ?_
    obtain ⟨pin, -, rfl⟩ := List.mem_map.1 hitem
    exact pin.readsBack_toJson
  have himports : ReadsBack (.array (plan.textureImports.map .string)) := by
    refine readsBack_array fun item hitem => ?_
    obtain ⟨path, -, rfl⟩ := List.mem_map.1 hitem
    exact readsBack_string path
  unfold toJson
  apply readsBack_object
  apply membersReadBack_cons (by decide) (readsBack_string _)
  apply membersReadBack_cons (by decide) (readsBack_string _)
  apply membersReadBack_cons (by decide) (readsBack_bool _)
  apply membersReadBack_cons (by decide) hinputs
  apply membersReadBack_cons (by decide) himports
  exact membersReadBack_cons (by decide) (readsBack_string _) membersReadBack_nil

theorem ofJson?_toJson (plan : MaterialPlan) : ofJson? plan.toJson = some plan := by
  have hinputs : (plan.inputs.map Pin.toJson).mapM Pin.ofJson? = some plan.inputs :=
    mapM_map_of_forall Pin.ofJson?_toJson plan.inputs
  have himports : (plan.textureImports.map Value.string).mapM Value.text?
      = some plan.textureImports :=
    mapM_map_of_forall (fun path => show (Value.string path).text? = some path from rfl) _
  have hfields : plan.toJson.fields?
      ["material", "blend_mode", "two_sided", "inputs", "texture_imports", "code"]
      = some [some (.string plan.material), some (.string plan.blendMode.word),
        some (.bool plan.twoSided), some (.array (plan.inputs.map Pin.toJson)),
        some (.array (plan.textureImports.map .string)), some (.string plan.code)] := rfl
  rw [ofJson?, hfields]
  simp [required, Value.text?, Value.word?, Value.bool?, Value.items?, hinputs, himports]

/-- The document of a plan holds the plan. -/
theorem ofDocument?_document (plan : MaterialPlan) : ofDocument? plan.document = some plan := by
  rw [ofDocument?, document, read?_print plan.readsBack_toJson]
  exact plan.ofJson?_toJson

end MaterialPlan

/-! ## Saving and Loading -/

namespace MaterialPlan

variable {plan : MaterialPlan} {files after : FileTree} {path : Text}

/-- A plan is loaded from a file that holds a document of it. -/
theorem load_eq_ok_iff : load files path = .ok plan
    ↔ ∃ text, files.readText path = .ok text ∧ ofDocument? text = some plan := by
  unfold load
  cases files.readText path with
  | error cause => simp
  | ok text => cases hplan : ofDocument? text <;> simp [hplan]

theorem save_eq_ok_iff : plan.save files path = .ok after
    ↔ files.writeText path plan.document = .ok after := by
  unfold save
  cases files.writeText path plan.document <;> simp

/-- If saving a plan on a storage works, it leaves what saving leaves. -/
theorem save_of_saveOn {storage : Storage}
    (h : plan.saveOn files storage path = (.ok (), after)) : plan.save files path = .ok after := by
  rw [save_eq_ok_iff]
  apply FileTree.writeText_of_writeOn
  unfold saveOn at h
  split at h
  next hwrite =>
    cases h
    exact hwrite
  next => cases h

/-- A plan that was saved is loaded. -/
theorem load_of_save (h : plan.save files path = .ok after) : load after path = .ok plan :=
  load_eq_ok_iff.2 ⟨plan.document, FileTree.readText_of_writeText (save_eq_ok_iff.1 h),
    plan.ofDocument?_document⟩

/-- A plan with all kinds of characters that a document escapes, and with each kind of pin. -/
def escapedPlan : MaterialPlan where
  material := "\"A\\B/".toList ++ [Char.ofNat 0, Char.ofNat 31, Char.ofNat 127]
  blendMode := .masked
  twoSided := false
  inputs := [⟨"t0", some "a\tb", some .srgb⟩, ⟨"t1", some [], none⟩, ⟨"t2", none, some .linear⟩,
    ⟨"tx", none, none⟩]
  textureImports := ["Textures/\\u0041.dds", Char.ofNat 8232 :: "\\".toList]
  code := "#define cmp -\r\nfloat4 r0,r1;\r\n".toList ++ [Char.ofNat 128512]

theorem load_of_save_escapedPlan : ∃ after,
    escapedPlan.save ⟨[], .empty⟩ "plan.json" = .ok after
      ∧ load after "plan.json" = .ok escapedPlan := by
  have hsave : escapedPlan.save ⟨[], .empty⟩ "plan.json"
      = .ok ⟨[], .ofList [(["plan.json".toList], .file (.text escapedPlan.document))]⟩ := rfl
  exact ⟨_, hsave, load_of_save hsave⟩

end MaterialPlan

/-! ## Telling Plans from Shaders -/

/-- A converted shader starts with a static array or default or with the macro. -/
theorem Program.exists_contents_convert_eq_cons (source : Text) (stage : Stage)
    (samples : Option SampleStore) (template : List Text) :
    ∃ c text, (convert source stage samples template).contents = some (c :: text)
      ∧ (c = 's' ∨ c = '#') := by
  have hcontents : (convert source stage samples template).contents
      = some (Text.joinLines (convert source stage samples template).outputLines) := rfl
  rw [hcontents, outputLines_convert]
  cases (Declarations.ofLines (Text.sourceLines source)).constantBuffers with
  | cons buffer buffers => exact ⟨'s', _, rfl, .inl rfl⟩
  | nil =>
    cases stage with
    | vertex => exact ⟨'#', _, rfl, .inr rfl⟩
    | pixel =>
      -- The defaults of the inputs come before the macro, if there are any.
      rw [EntryPoint.lines, EntryPoint.pixelLines]
      cases EntryPoint.shapedInputs (Declarations.ofLines (Text.sourceLines source)).inputs with
      | nil => exact ⟨'#', _, rfl, .inr rfl⟩
      | cons input inputs => exact ⟨'s', _, rfl, .inl rfl⟩

namespace MaterialPlan

/-- A text that starts like a converted shader is no JSON. -/
theorem ofDocument?_cons_eq_none {c : Char} (h : c = 's' ∨ c = '#') (text : Text) :
    ofDocument? (c :: text) = none := by
  have hread : read? (c :: text) = none := by
    rw [read?, value?]
    rcases h with rfl | rfl <;> rfl
  rw [ofDocument?, hread]
  rfl

/-- The contents of a converted shader are no document of a plan. -/
theorem ofDocument?_contents_convert (source : Text) (stage : Stage)
    (samples : Option SampleStore) (template : List Text) :
    ofDocument? ((Program.convert source stage samples template).contents.getD []) = none := by
  obtain ⟨c, text, hcontents, hc⟩ :=
    Program.exists_contents_convert_eq_cons source stage samples template
  rw [hcontents]
  exact ofDocument?_cons_eq_none hc text

end MaterialPlan

end MaterialNode
