import MaterialNode.Proofs.Batch.Outputs

/-!
# Intact Outputs

At the end of a batch the shader and the plan of a converted material may hold what another attempt
wrote over them, or the shader what was written as the plan. An intact plan can be told from a
shader and names its material, so intact outputs have places of their own.

## Main definitions

* `Batch.IsIntact`: the outputs of a material hold what its conversion gave.

## Main results

* `Batch.isIntact_of_nodup`: outputs are intact if no two attempts write one place.
* `Batch.nodup_of_isIntact`: intact outputs have places of their own.
* `Batch.isIntact_of_plain`: hashes without slashes and an extension that does not end like the
  names of plans keep the outputs apart.
-/

namespace MaterialNode

namespace Batch

variable {batch : Batch} {space : Workspace}

/-- The shader and the plan of a converted material hold what the conversion of its shader gave. -/
def IsIntact (batch : Batch) (space : Workspace) (material : Product) : Prop :=
  ∃ attempt ∈ batch.attempts space, ∃ program,
    attempt.job.hash = material.hash ∧ (attempt.converted batch).value = .ok program
    ∧ (batch.run space).files.readText material.shaderPath = .ok (attempt.plan program).code
    ∧ MaterialPlan.load (batch.run space).files material.planPath = .ok (attempt.plan program)

/-- Where the shader and the plan of a converted material are. -/
def Product.places (workDir : Location) (material : Product) : List Location :=
  [.ofPath workDir material.shaderPath, .ofPath workDir material.planPath]

/-- Whether a converted material is listed with the paths that a batch gives its outputs. -/
structure Product.IsOf (batch : Batch) (material : Product) : Prop where
  /-- The path of the shader. -/
  shaderPath_eq : material.shaderPath = batch.shaderPath material.hash
  /-- The path of the plan. -/
  planPath_eq : material.planPath = batch.planPath material.hash

namespace Attempt

variable {attempt : Attempt} {material : Product}

theorem product?_eq_some_iff :
    attempt.product? batch = some material ↔ (attempt.written batch).result = .ok material := by
  unfold product?
  split <;> simp_all

/-- A converted material is listed with the paths of its outputs. -/
theorem eq_of_product? (h : attempt.product? batch = some material) : material
    = ⟨attempt.job.hash, batch.shaderPath attempt.job.hash, batch.planPath attempt.job.hash⟩ := by
  obtain ⟨_, _, -, -, -, hmaterial⟩ := exists_of_result_eq_ok (product?_eq_some_iff.1 h)
  exact hmaterial

theorem places_of_product? (h : attempt.product? batch = some material) :
    attempt.places batch = [attempt.shaderPlace batch, attempt.planPlace batch] := by
  rw [places, product?_eq_some_iff.1 h]

/-- Right after a material was converted its outputs hold what they should, if they have different
places. -/
theorem readText_of_product? (hlog : attempt.start.LogIsFile)
    (h : attempt.product? batch = some material)
    (hplaces : attempt.shaderPlace batch ≠ attempt.planPlace batch) :
    ∃ program, (attempt.converted batch).value = .ok program
      ∧ (attempt.written batch).files.readText (batch.shaderPath attempt.job.hash)
        = .ok (attempt.plan program).code
      ∧ (attempt.written batch).files.readText (batch.planPath attempt.job.hash)
        = .ok (attempt.plan program).document := by
  obtain ⟨program, withShader, hprogram, hshader, hplan, -⟩ :=
    exists_of_result_eq_ok (product?_eq_some_iff.1 h)
  refine ⟨program, hprogram, ?_, FileTree.readText_of_writeText hplan⟩
  have hchanges := FileTree.ChangesOnly.of_writeText hplan
  refine (hchanges.readText_eq_ok_iff ?_).2 (FileTree.readText_of_writeText hshader)
  rw [(FileTree.ChangesOnly.of_writeText hshader).workDir_eq, workDir_converting batch hlog]
  simpa [shaderPlace, planPlace] using hplaces

end Attempt

/-! ## Places of Their Own are Enough -/

/-- The outputs of a material are intact if their places are different and not written again. -/
theorem isIntact_of_product? (hlog : space.LogIsFile) {report : Report}
    (hrun : (batch.run space).result = .ok report) {attempt : Attempt} {before after : List Attempt}
    (hattempts : batch.attempts space = before ++ attempt :: after) {material : Product}
    (hproduct : attempt.product? batch = some material)
    (hplaces : attempt.shaderPlace batch ≠ attempt.planPlace batch)
    (hlater : ∀ location ∈ attempt.places batch,
      location ∉ space.logPlaces ++ after.flatMap (Attempt.places batch)) :
    batch.IsIntact space material := by
  have hmem : attempt ∈ batch.attempts space :=
    hattempts ▸ List.mem_append_right before List.mem_cons_self
  have hof := isOf_of_mem_attempts hlog hmem
  have hfinal := (changesOnly_of_attempts_eq hlog hrun hattempts).files
  have hworkDir := (Attempt.changesOnly_written batch hof.logIsFile).files.workDir_eq
  obtain ⟨program, hprogram, hshader, hplan⟩ :=
    Attempt.readText_of_product? hof.logIsFile hproduct hplaces
  rw [Attempt.places_of_product? hproduct] at hlater
  obtain ⟨hnotShader, hnotPlan⟩ : attempt.shaderPlace batch ∉ _ ∧ attempt.planPlace batch ∉ _ :=
    ⟨hlater _ (by simp), hlater _ (by simp)⟩
  obtain rfl := Attempt.eq_of_product? hproduct
  refine ⟨attempt, hmem, program, rfl, hprogram, ?_, ?_⟩
  · exact (hfinal.readText_eq_ok_iff (hworkDir ▸ hnotShader)).2 hshader
  · refine MaterialPlan.load_eq_ok_iff.2 ⟨_, ?_, MaterialPlan.ofDocument?_document _⟩
    exact (hfinal.readText_eq_ok_iff (hworkDir ▸ hnotPlan)).2 hplan

/-- If no two attempts write one place, and none the log file, all outputs are intact. -/
theorem isIntact_of_nodup (hlog : space.LogIsFile) {report : Report}
    (hrun : (batch.run space).result = .ok report)
    (hnodup : (space.logPlaces ++ (batch.attempts space).flatMap (Attempt.places batch)).Nodup) :
    ∀ material ∈ report.converted, batch.IsIntact space material := by
  intro material hmaterial
  rw [(run_eq_ok hrun).1, List.mem_filterMap] at hmaterial
  obtain ⟨attempt, hattempt, hproduct⟩ := hmaterial
  obtain ⟨before, after, hattempts⟩ := List.append_of_mem hattempt
  have hplaces := Attempt.places_of_product? hproduct
  rw [hattempts, List.flatMap_append, List.flatMap_cons, hplaces] at hnodup
  simp only [List.nodup_append, List.mem_append] at hnodup
  obtain ⟨-, ⟨-, ⟨hown, -, hafter⟩, -⟩, hfile⟩ := hnodup
  apply isIntact_of_product? hlog hrun hattempts hproduct
  · simpa using hown
  · intro location hlocation hlater
    rw [hplaces] at hlocation
    rcases List.mem_append.1 hlater with hlater | hlater
    · exact hfile _ hlater _ (.inr (.inl hlocation)) rfl
    · exact hafter _ hlocation _ hlater rfl

/-! ## Converted Materials Need Places of Their Own -/

theorem exists_convert_of_convertFile {options : ConversionOptions} {path : Text}
    {program : Program} (h : (options.convertFile space path).value = .ok program) :
    ∃ source template, program = .convert source options.stage options.samples template := by
  unfold ConversionOptions.convertFile at h
  split at h
  · cases h
  · rename_i source hsource
    simp only [Logged.after, ConversionOptions.convertText] at h
    split at h
    · cases h
    · exact ⟨source, _, (Except.ok.inj h).symm⟩

/-- The code of a converted shader is no document of a plan. -/
theorem ofDocument?_code {attempt : Attempt} {program : Program}
    (h : (attempt.converted batch).value = .ok program) :
    MaterialPlan.ofDocument? (attempt.plan program).code = none := by
  obtain ⟨source, template, rfl⟩ := exists_convert_of_convertFile h
  exact MaterialPlan.ofDocument?_contents_convert ..

variable {material material' : Product}

/-- An intact shader has no place with an intact plan. -/
theorem IsIntact.shader_ne_plan (h : batch.IsIntact space material)
    (h' : batch.IsIntact space material') :
    Location.ofPath (batch.run space).files.workDir material.shaderPath
      ≠ Location.ofPath (batch.run space).files.workDir material'.planPath := by
  obtain ⟨attempt, -, program, -, hprogram, hshader, -⟩ := h
  obtain ⟨attempt', -, program', -, -, -, hplan⟩ := h'
  intro hplace
  obtain ⟨text, hread, htext⟩ := MaterialPlan.load_eq_ok_iff.1 hplan
  rw [← FileTree.readText_congr hshader hread hplace, ofDocument?_code hprogram] at htext
  cases htext

/-- The intact plans of two materials have different places. -/
theorem IsIntact.plan_ne_plan (h : batch.IsIntact space material)
    (h' : batch.IsIntact space material') (hhash : material.hash ≠ material'.hash) :
    Location.ofPath (batch.run space).files.workDir material.planPath
      ≠ Location.ofPath (batch.run space).files.workDir material'.planPath := by
  obtain ⟨attempt, -, program, hjob, -, -, hplan⟩ := h
  obtain ⟨attempt', -, program', hjob', -, -, hplan'⟩ := h'
  intro hplace
  obtain ⟨text, hread, htext⟩ := MaterialPlan.load_eq_ok_iff.1 hplan
  obtain ⟨text', hread', htext'⟩ := MaterialPlan.load_eq_ok_iff.1 hplan'
  rw [← FileTree.readText_congr hread hread' hplace, htext] at htext'
  have hmaterial := congrArg MaterialPlan.material (Option.some.inj htext')
  exact hhash (hjob.symm.trans (hmaterial.trans hjob'))

/-- So have their shaders, since the plans stand beside the shaders. -/
theorem IsIntact.shader_ne_shader (hextension : '/' ∉ batch.extension)
    (h : batch.IsIntact space material) (h' : batch.IsIntact space material')
    (hof : material.IsOf batch) (hof' : material'.IsOf batch)
    (hhash : material.hash ≠ material'.hash) :
    Location.ofPath (batch.run space).files.workDir material.shaderPath
      ≠ Location.ofPath (batch.run space).files.workDir material'.shaderPath := by
  have hplans := h.plan_ne_plan h' hhash
  obtain ⟨_, _, _, _, _, hshader, _⟩ := h
  obtain ⟨_, _, _, _, _, hshader', _⟩ := h'
  rw [hof.shaderPath_eq] at hshader ⊢
  rw [hof'.shaderPath_eq] at hshader' ⊢
  rw [hof.planPath_eq, hof'.planPath_eq] at hplans
  obtain ⟨_, hresolve, -⟩ := FileTree.readText_eq_ok_iff.1 hshader
  obtain ⟨_, hresolve', -⟩ := FileTree.readText_eq_ok_iff.1 hshader'
  exact fun hplace => hplans (ofPath_planPath_congr hextension hresolve hresolve' hplace)

/-- If all outputs are intact, no two outputs of converted materials have one place. -/
theorem nodup_of_isIntact (hlog : space.LogIsFile) (hextension : '/' ∉ batch.extension)
    {report : Report} (hrun : (batch.run space).result = .ok report)
    (hintact : ∀ material ∈ report.converted, batch.IsIntact space material) :
    (report.converted.flatMap (Product.places space.files.workDir)).Nodup := by
  have hpaths : ∀ material ∈ report.converted, material.IsOf batch := by
    intro material hmaterial
    rw [(run_eq_ok hrun).1, List.mem_filterMap] at hmaterial
    obtain ⟨attempt, -, hproduct⟩ := hmaterial
    rw [Attempt.eq_of_product? hproduct]
    exact ⟨rfl, rfl⟩
  have hhashes : report.converted.Pairwise fun a b => a.hash ≠ b.hash := by
    rw [(run_eq_ok hrun).1]
    refine List.Pairwise.filterMap _ ?_ (pairwise_hash_attempts batch space)
    intro attempt attempt' hne material hproduct material' hproduct'
    rw [Attempt.eq_of_product? hproduct, Attempt.eq_of_product? hproduct']
    exact hne
  rw [← workDir_run batch hlog]
  refine List.pairwise_flatMap.2 ⟨fun material hmaterial => ?_, ?_⟩
  · have hown := (hintact material hmaterial).shader_ne_plan (hintact material hmaterial)
    simpa [Product.places] using hown
  · refine (List.Pairwise.and_mem.1 hhashes).imp ?_
    rintro material material' ⟨hmaterial, hmaterial', hhash⟩ place hplace place' hplace'
    have h := hintact material hmaterial
    have h' := hintact material' hmaterial'
    simp only [Product.places, List.mem_cons, List.not_mem_nil, or_false] at hplace hplace'
    rcases hplace with rfl | rfl <;> rcases hplace' with rfl | rfl
    · exact h.shader_ne_shader hextension h' (hpaths _ hmaterial) (hpaths _ hmaterial') hhash
    · exact h.shader_ne_plan h'
    · exact (h'.shader_ne_plan h).symm
    · exact h.plan_ne_plan h' hhash

/-- All outputs of a batch are intact if no two of its attempts wrote one place, and only if no two
outputs of converted materials have one place. -/
theorem isIntact_of_nodup_and_nodup_of_isIntact (hlog : space.LogIsFile)
    (hextension : '/' ∉ batch.extension) {report : Report}
    (hrun : (batch.run space).result = .ok report) :
    ((space.logPlaces ++ (batch.attempts space).flatMap (Attempt.places batch)).Nodup →
        ∀ material ∈ report.converted, batch.IsIntact space material)
      ∧ ((∀ material ∈ report.converted, batch.IsIntact space material) →
        (report.converted.flatMap (Product.places space.files.workDir)).Nodup) :=
  ⟨isIntact_of_nodup hlog hrun, nodup_of_isIntact hlog hextension hrun⟩

/-- The report of a batch over one material that is converted. -/
def soleReport (extension : Text) : Report :=
  ⟨[⟨"A".toList, (soleBatch extension).shaderPath "A".toList, "out/A.json".toList⟩], []⟩

theorem isIntact_plainExport :
    ((soleBatch "usf".toList).run (.ofFiles plainExport)).result = .ok (soleReport "usf".toList)
      ∧ ∀ material ∈ (soleReport "usf".toList).converted,
        (soleBatch "usf".toList).IsIntact (.ofFiles plainExport) material := by
  have hrun : ((soleBatch "usf".toList).run (.ofFiles plainExport)).result
      = .ok (soleReport "usf".toList) := ok_of_toOption (by decide +kernel)
  refine ⟨hrun, (isIntact_of_nodup_and_nodup_of_isIntact (Workspace.logIsFile_ofFiles plainExport)
    (by decide) hrun).1 ?_⟩
  decide +kernel

/-- Admissible settings do not keep the outputs intact. -/
theorem not_forall_isIntact : ¬ ∀ (settings : Settings) (batch : Batch) (files : FileTree)
    (report : Report), settings.fault? = none → batch.extension = settings.outputExtension →
    (batch.run (.ofFiles files)).result = .ok report →
    ∀ material ∈ report.converted, batch.IsIntact (.ofFiles files) material := by
  intro hall
  have hrun : ((soleBatch "json".toList).run (.ofFiles plainExport)).result
      = .ok (soleReport "json".toList) := ok_of_toOption (by decide +kernel)
  have hintact := hall { Settings.default with outputExtension := "json".toList }
    (soleBatch "json".toList) plainExport _ (by decide) rfl hrun
  -- The shader would have the place of the plan.
  have hnodup := nodup_of_isIntact (Workspace.logIsFile_ofFiles plainExport) (by decide) hrun
    hintact
  exact absurd hnodup (by decide +kernel)

/-! ## Plain Names -/

/-- Names with an extension are no names of plans unless the extension ends like these. -/
theorem append_extension_ne {extension : Text} (hjson : extension ≠ "json".toList)
    (hending : ¬ ".json".toList <:+ extension) (name name' : Text) :
    name ++ '.' :: extension ≠ name' ++ ".json".toList := by
  intro heq
  rcases List.append_eq_append_iff.1 heq with ⟨middle, -, hmiddle⟩ | ⟨middle, -, hmiddle⟩
  · cases middle with
    | nil => exact hjson (List.cons.inj hmiddle).2
    | cons c middle => exact hending ⟨middle, (List.cons.inj hmiddle).2.symm⟩
  · cases middle with
    | nil => exact hjson (List.cons.inj hmiddle).2.symm
    | cons c middle =>
      have htail : "json".toList = middle ++ '.' :: extension := (List.cons.inj hmiddle).2
      have hdot : '.' ∈ middle ++ '.' :: extension := by simp
      rw [← htail] at hdot
      exact absurd hdot (by decide)

/-- Hashes without slashes name the outputs, which are straight in the output directory. -/
theorem places_isPrefix_of_plain (hlog : space.LogIsFile) (hextension : '/' ∉ batch.extension)
    (hhashes : ∀ job ∈ (batch.collected space).value.jobList, '/' ∉ job.hash) {attempt : Attempt}
    (hattempt : attempt ∈ batch.attempts space) : attempt.places batch
      <+: [Location.ofPath space.files.workDir batch.outputDir
          ++ [attempt.job.hash ++ '.' :: batch.extension],
        Location.ofPath space.files.workDir batch.outputDir
          ++ [attempt.job.hash ++ ".json".toList]] := by
  have hof := isOf_of_mem_attempts hlog hattempt
  have hhash := hhashes _ (mem_jobList_of_mem_attempts hattempt)
  have hfolder : batch.folder attempt.start.files.workDir attempt.job.hash
      = Location.ofPath space.files.workDir batch.outputDir := by
    rw [folder, Path.folders_of_not_mem hhash, hof.workDir_eq, Location.origin,
      (isInner_of_not_mem hhash).1]
    rfl
  have hprefix := places_isPrefix_folder hextension hof.logIsFile
  rwa [hfolder, Path.stem_of_not_mem hhash] at hprefix

/-- Hashes without slashes and an extension that does not end like the names of plans give each
output a place of its own. -/
theorem nodup_places_of_plain (hlog : space.LogIsFile) (hextension : '/' ∉ batch.extension)
    (hjson : batch.extension ≠ "json".toList) (hending : ¬ ".json".toList <:+ batch.extension)
    (hhashes : ∀ job ∈ (batch.collected space).value.jobList, '/' ∉ job.hash) :
    ((batch.attempts space).flatMap (Attempt.places batch)).Nodup := by
  have hnames := append_extension_ne hjson hending
  refine List.pairwise_flatMap.2 ⟨fun attempt hattempt => ?_, ?_⟩
  · refine (places_isPrefix_of_plain hlog hextension hhashes hattempt).sublist.nodup ?_
    simpa using hnames attempt.job.hash attempt.job.hash
  · refine (List.Pairwise.and_mem.1 (pairwise_hash_attempts batch space)).imp ?_
    rintro attempt attempt' ⟨hattempt, hattempt', hhash⟩ place hplace place' hplace'
    have hmem := (places_isPrefix_of_plain hlog hextension hhashes hattempt).subset hplace
    have hmem' := (places_isPrefix_of_plain hlog hextension hhashes hattempt').subset hplace'
    simp only [List.mem_cons, List.not_mem_nil, or_false] at hmem hmem'
    rcases hmem with rfl | rfl <;> rcases hmem' with rfl | rfl
    · simpa using hhash
    · simpa using hnames attempt.job.hash attempt'.job.hash
    · simpa using (hnames attempt'.job.hash attempt.job.hash).symm
    · simpa using hhash

/-- Hashes without slashes and an extension that does not end like the names of plans keep the
outputs of a batch apart, so all of them are intact. -/
theorem isIntact_of_plain (hlog : space.LogIsFile) {report : Report}
    (hrun : (batch.run space).result = .ok report) (hextension : '/' ∉ batch.extension)
    (hjson : batch.extension ≠ "json".toList) (hending : ¬ ".json".toList <:+ batch.extension)
    (hhashes : ∀ job ∈ (batch.collected space).value.jobList, '/' ∉ job.hash)
    (hapart : ∀ location ∈ space.logPlaces,
      location.dropLast ≠ Location.ofPath space.files.workDir batch.outputDir) :
    ∀ material ∈ report.converted, batch.IsIntact space material := by
  apply isIntact_of_nodup hlog hrun
  rw [List.nodup_append]
  refine ⟨?_, nodup_places_of_plain hlog hextension hjson hending hhashes, ?_⟩
  · rw [Workspace.logPlaces]
    cases space.logFile <;> simp
  · rintro location hlocation place hplace rfl
    obtain ⟨attempt, hattempt, hmem⟩ := List.mem_flatMap.1 hplace
    have hmem' := (places_isPrefix_of_plain hlog hextension hhashes hattempt).subset hmem
    simp only [List.mem_cons, List.not_mem_nil, or_false] at hmem'
    have hdirectory := hapart location hlocation
    rcases hmem' with rfl | rfl
    · exact hdirectory List.dropLast_concat
    · exact hdirectory List.dropLast_concat

end Batch

end MaterialNode
