import MaterialNode.Metadata.Reader
import MaterialNode.Plan.Document
import MaterialNode.Proofs.Json.MemberOrder
import MaterialNode.Proofs.Plan.PinOrder

/-!
# Reordered Stage Metadata

Two documents that hold the members of their objects in different orders are read as the same stage
metadata, as long as no object repeats a name. A register number is spelled in one way only as the name
of an entry, so different names are different keys. The tables list their entries by number, hence the
pins of a plan ascend by slot however the document orders them: `10` comes after `3`.

## Main results

* `StageMetadata.isOrderFree_ofJson?`: the reader of stage metadata is free of the order of members.
* `StageMetadata.keys_perm_textureNames`: the slots of the textures are the names of the entries.
* `StageMetadata.bind_read?_of_reorders`: reordered documents give the same constant buffers and plans,
  with the textures in the order of their slots.
-/

namespace MaterialNode

open Json Json.Value

/-- A register number is spelled in one way as the name of an entry. -/
theorem Json.Key.text_eq_ofNat_of_register? {key : Key} {number : Nat}
    (h : key.register? = some number) : key.text = Text.ofNat number := by
  rw [Key.register?] at h
  split at h
  · rename_i hkey
    obtain ⟨-, hne, hdigits, hzero, -⟩ := hkey
    cases h
    refine (Text.ofNat_digitsValue ?_ (List.all_eq_true.1 hdigits) hzero).symm
    simpa using hne
  · cases h

theorem SampleRow.isOrderFree_ofJson? : IsOrderFree SampleRow.ofJson? := by
  intro first second h
  refine bind_eq_of_rel (rel_fields? _ h) fun fields others hfields => ?_
  -- There are as many fields as names, and each component is read from its own.
  obtain _ | ⟨hx, _ | ⟨hy, _ | ⟨hz, _ | ⟨hw, _ | _⟩⟩⟩⟩ := hfields
  case cons.cons.cons.cons.nil =>
    simp only [orDefault_eq_of_rel isOrderFree_binary64? _ hx,
      orDefault_eq_of_rel isOrderFree_binary64? _ hy,
      orDefault_eq_of_rel isOrderFree_binary64? _ hz,
      orDefault_eq_of_rel isOrderFree_binary64? _ hw]
  all_goals rfl

theorem BoundTexture.isOrderFree_ofJson? : IsOrderFree BoundTexture.ofJson? := by
  intro first second h
  refine bind_eq_of_rel (rel_fields? _ h) fun fields others hfields => ?_
  obtain _ | ⟨hhash, _ | ⟨hsrgb, _ | _⟩⟩ := hfields
  case cons.cons.nil =>
    simp only [required_eq_of_rel isOrderFree_text? hhash,
      orDefault_eq_of_rel isOrderFree_bool? _ hsrgb]
  all_goals rfl

theorem isOrderFree_readSamples? : IsOrderFree readSamples? := by
  have hrows : IsOrderFree (fun rows => do (← rows.items?).mapM SampleRow.ofJson?) := by
    intro first second h
    refine bind_eq_of_rel (rel_items? h) fun items others hitems => ?_
    exact mapM_eq_of_forall₂ hitems SampleRow.isOrderFree_ofJson?
  exact isOrderFree_readTable? (fun _ _ => Key.text_eq_ofNat_of_register?) hrows

theorem isOrderFree_readTextures? : IsOrderFree readTextures? :=
  isOrderFree_readTable? (fun _ _ => Key.text_eq_ofNat_of_register?) BoundTexture.isOrderFree_ofJson?

namespace StageMetadata

/-- Stage metadata is read the same from any order of the members at every level. -/
theorem isOrderFree_ofJson? : IsOrderFree ofJson? := by
  intro first second h
  refine bind_eq_of_rel (rel_fields? _ h) fun fields others hfields => ?_
  obtain _ | ⟨hsamples, _ | ⟨htextures, _ | _⟩⟩ := hfields
  case cons.cons.nil =>
    simp only [orDefault_eq_of_rel isOrderFree_readSamples? _ hsamples,
      orDefault_eq_of_rel isOrderFree_readTextures? _ htextures]
  all_goals rfl

/-! ## Slots -/

/-- The section of a document that holds its textures. A stage written as an array has it at the second
place. -/
def texturesSection? : Value → Option Value
  | .object members => member? "Textures" members
  | .array items => items[1]?
  | _ => none

/-- The names of the entries in the textures section of a document, in the order of the document. -/
def textureNames (document : Value) : List Text :=
  match texturesSection? document with
  | some (.object members) => members.map (·.1.text)
  | _ => []

theorem texturesSection?_of_fields? {document : Value} {samples textures : Option Value}
    (h : document.fields? ["ConstantBuffers", "Textures"] = some [samples, textures]) :
    texturesSection? document = textures := by
  cases document with
  | object members =>
    rw [fields?, Option.ite_none_right_eq_some] at h
    obtain ⟨-, h⟩ := h
    cases h
    rfl
  | array items =>
    rw [fields?, Option.ite_none_right_eq_some] at h
    obtain ⟨-, h⟩ := h
    cases h
    rfl
  | null | bool | number | string | brokenString => cases h

/-- The slots of the textures are those that the names of the entries spell. -/
theorem keys_perm_textureNames {document : Value} (hdistinct : document.hasDistinctNames = true)
    {info : StageMetadata} (h : ofJson? document = some info) :
    ((info.textures.entries.map (·.1)).map Text.ofNat).Perm (textureNames document) := by
  obtain ⟨fields, hfields, h⟩ := Option.bind_eq_some_iff.1 h
  -- The fields of a value with distinct names have distinct names as well.
  have hvalues : List.Forall₂ (Option.Rel IsReordering) fields fields := by
    have hsame := rel_fields? ["ConstantBuffers", "Textures"] ⟨.same document, hdistinct⟩
    rw [hfields] at hsame
    cases hsame with
    | some hsame => exact hsame
  match fields, h, hfields, hvalues with
  | [samples, textures], h, hfields, .cons _ (.cons hvalue .nil) =>
    obtain ⟨store, -, h⟩ := Option.bind_eq_some_iff.1 h
    obtain ⟨table, htable, h⟩ := Option.bind_eq_some_iff.1 h
    cases h
    rw [textureNames, texturesSection?_of_fields? hfields]
    cases hvalue with
    | none =>
      cases htable
      exact List.Perm.refl _
    | @some value _ hvalue =>
      obtain ⟨members, hmembers, hread⟩ := Option.bind_eq_some_iff.1 htable
      cases value with
      | object entries =>
        rw [Value.members?, Option.ite_none_right_eq_some] at hmembers
        obtain ⟨hsound, hmembers⟩ := hmembers
        cases hmembers
        have hnames := (hasDistinctNames_object_iff.1 hvalue.distinct).1
        rw [memberNames_of_keysAreSound hsound] at hnames
        exact keys_perm_of_readTable? (fun _ _ => Key.text_eq_ofNat_of_register?) hnames hread
      | null | bool | number | string | brokenString | array => cases hmembers

/-! ## Reordered Documents -/

/-- If two texts hold the same document with the members of its objects in different orders, then they
give the same stage metadata or are both refused. The metadata of one emits the same constant buffers as
that of the other for each program and makes the same plan. The pins of the plan stand for the entries of
the textures section, in the order of their slots and not of the document. -/
theorem bind_read?_of_reorders (first second : Text) (document reordered : Value)
    (hfirst : Json.read? first = some document) (hsecond : Json.read? second = some reordered)
    (hdistinct : document.hasDistinctNames = true) (hreorders : document.Reorders reordered) :
    (Json.read? first).bind ofJson? = (Json.read? second).bind ofJson?
      ∧ ∀ info other, (Json.read? first).bind ofJson? = some info →
        (Json.read? second).bind ofJson? = some other →
        (∀ program : Program, program.emitted (.constantBuffers (some info.samples))
          = program.emitted (.constantBuffers (some other.samples)))
        ∧ (∀ material program, MaterialPlan.ofProgram material program (some info)
          = MaterialPlan.ofProgram material program (some other))
        ∧ ∃ slots : List Nat, slots.Pairwise (· < ·)
          ∧ (slots.map Text.ofNat).Perm (textureNames document)
          ∧ ∀ material program,
            (MaterialPlan.ofProgram material program (some info)).inputs.map (·.name)
              = slots.map (fun slot => 't' :: Text.ofNat slot) ++ [EntryPoint.coordinate] := by
  have hread : ofJson? document = ofJson? reordered :=
    isOrderFree_ofJson? document reordered ⟨hreorders, hdistinct⟩
  rw [hfirst, hsecond]
  refine ⟨hread, fun info other hinfo hother => ?_⟩
  have hsame : info = other := Option.some.inj (hinfo.symm.trans (hread.trans hother))
  subst hsame
  refine ⟨fun _ => rfl, fun _ _ => rfl, info.textures.entries.map (·.1),
    info.textures.pairwise_keys, keys_perm_textureNames hdistinct hinfo, fun material program => ?_⟩
  rw [MaterialPlan.ofProgram, List.map_append, List.map_map, List.map_map]
  rfl

/-- A document that names the texture of slot 10 before that of slot 3. -/
def tenFirst : Value :=
  .object [
    plainMember "ConstantBuffers" (.object [
      plainMember "2" (.array [
        .object [plainMember "U" (.string "u"), plainMember "V" (.array [])]])]),
    plainMember "Textures" (.object [
      plainMember "10" (.object [plainMember "Hash" (.string "A"), plainMember "SRGB" (.bool true)]),
      plainMember "3" (.object [plainMember "Hash" (.string "B")])])]

/-- The document with the members of each object in the opposite order. -/
def threeFirst : Value :=
  .object [
    plainMember "Textures" (.object [
      plainMember "3" (.object [plainMember "Hash" (.string "B")]),
      plainMember "10" (.object [plainMember "SRGB" (.bool true), plainMember "Hash" (.string "A")])]),
    plainMember "ConstantBuffers" (.object [
      plainMember "2" (.array [
        .object [plainMember "V" (.array []), plainMember "U" (.string "u")]])])]

/-- Two members change places, each with a reordered value. -/
theorem reorders_pair {name other : Text} {first first' second second' : Value}
    (hfirst : first.Reorders first') (hsecond : second.Reorders second') :
    (object [plainMember name first, plainMember other second]).Reorders
      (object [plainMember other second', plainMember name first']) :=
  .object (.cons (.mk _ hfirst) (.cons (.mk _ hsecond) .nil)) (List.Perm.swap ..)

theorem reorders_threeFirst : tenFirst.Reorders threeFirst := by
  refine reorders_pair ?_ (reorders_pair (reorders_pair (.same _) (.same _)) (.same _))
  -- The only buffer stays where it is, and the row in it is reordered.
  refine .object (.cons (.mk _ ?_) .nil) (List.Perm.refl _)
  exact .array (.cons (reorders_pair (.same _) (.same _)) .nil)

/-- The metadata that both documents hold. -/
def threeAndTen : StageMetadata where
  samples := .ofList [(2, [⟨.zero, .zero, .zero, .zero⟩])]
  textures := .ofList [(3, ⟨"B", false⟩), (10, ⟨"A", true⟩)]

/-- The document that names slot 10 first gives a plan with slot 3 first, as the other one does. -/
theorem bind_read?_tenFirst :
    textureNames tenFirst = ["10".toList, "3".toList]
      ∧ (Json.read? tenFirst.print).bind ofJson? = some threeAndTen
      ∧ (∀ material program,
        (MaterialPlan.ofProgram material program (some threeAndTen)).inputs.map (·.name)
          = ["t3".toList, "t10".toList, "tx".toList])
      ∧ ∃ slots : List Nat, slots.Pairwise (· < ·)
        ∧ (slots.map Text.ofNat).Perm ["10".toList, "3".toList] := by
  have hten : Json.read? tenFirst.print = some tenFirst := by cbv
  have hthree : Json.read? threeFirst.print = some threeFirst := by set_option maxRecDepth 1000 in cbv
  have hread : (Json.read? threeFirst.print).bind ofJson? = some threeAndTen := by
    have hthreeAndTen : ofJson? threeFirst = some threeAndTen := by decide +kernel
    rw [hthree, Option.bind_some, hthreeAndTen]
  obtain ⟨hsame, hplans⟩ := bind_read?_of_reorders tenFirst.print threeFirst.print tenFirst threeFirst
    hten hthree (by decide) reorders_threeFirst
  obtain ⟨-, -, slots, hascending, hnames, -⟩ := hplans _ _ (hsame.trans hread) hread
  exact ⟨rfl, hsame.trans hread, fun _ _ => rfl, slots, hascending, hnames⟩

end StageMetadata

end MaterialNode
