import MaterialNode.Proofs.Batch.IntactOutputs
import MaterialNode.Proofs.Files.Steadiness

/-!
# Attempts that are Made Again

The names of shaders and plans are neither those of info files nor those of the shaders that are
converted. So a batch may write into the tree that it converts: the same info files are found
afterwards, and they and the shaders read as before. An attempt that is made again where its outputs
stand writes them as they stand.

## Main definitions

* `Batch.IsNamedOutput`: the name of a shader or of a plan.

## Main results

* `Collection.value_ofRoot_eq`: the same materials are collected after outputs were written.
* `Batch.readText_shaderSource_eq`: the shaders of materials read as before.
* `Batch.Attempt.written_again`: an attempt that is made again changes nothing.
-/

namespace MaterialNode

/-! ## Names of Outputs -/

/-- Whether what stands at a location has the name of a shader or of a plan. -/
def Batch.IsNamedOutput (location : Location) : Prop :=
  ∃ name, location.getLast? = some name ∧ (".usf".toList <:+ name ∨ ".json".toList <:+ name)

namespace Batch

theorem getLast?_of_isSuffix {ending name : Text} {c : Char} (h : ending <:+ name)
    (hlast : ending.getLast? = some c) : name.getLast? = some c := by
  obtain ⟨start, rfl⟩ := h
  rw [List.getLast?_append, hlast]
  rfl

/-- The names of outputs end in one of two letters. -/
theorem getLast?_of_isNamedOutput {above : Location} {name : Text}
    (h : IsNamedOutput (above ++ [name])) :
    name.getLast? = some 'f' ∨ name.getLast? = some 'n' := by
  obtain ⟨_, hlast, hending⟩ := h
  rw [List.getLast?_concat] at hlast
  obtain rfl := Option.some.inj hlast
  exact hending.imp (getLast?_of_isSuffix · (by decide)) (getLast?_of_isSuffix · (by decide))

theorem not_isNamedInfo_of_isNamedOutput {location : Location} (h : IsNamedOutput location) :
    ¬ InfoFile.IsNamedInfo location := by
  rintro ⟨name, hlast, hending⟩
  obtain ⟨above, rfl⟩ := List.getLast?_eq_some_iff.1 hlast
  have hletter : name.getLast? = some 'g' := getLast?_of_isSuffix hending (by decide)
  simpa [hletter] using getLast?_of_isNamedOutput h

end Batch

/-! ## Collecting Again -/

namespace Collection

variable {first second : FileTree} {places : List Location} {root : Text}

/-- Info files that read the same give the same materials and failures. -/
theorem value_addFiles_congr (collection : Collection) {paths : List Text}
    (h : ∀ path ∈ paths, second.readText path = first.readText path) :
    (addFiles (.ofFiles second) root collection paths).value
      = (addFiles (.ofFiles first) root collection paths).value := by
  induction paths generalizing collection with
  | nil => rfl
  | cons path paths ih =>
    obtain ⟨hpath, hpaths⟩ := List.forall_mem_cons.1 h
    have hfile : (addFile (.ofFiles second) root collection path).value
        = (addFile (.ofFiles first) root collection path).value := by
      simp only [addFile, Workspace.ofFiles, InfoFile.load, hpath]
    show (addFiles (.ofFiles second) root (addFile (.ofFiles second) root collection path).value
      paths).value = _
    rw [hfile]
    exact ih _ hpaths

/-- The same materials are collected after outputs were written. -/
theorem value_ofRoot_eq (hfirst : first.IsWellFormed) (hsecond : second.IsWellFormed)
    (h : first.ChangesOnly places second)
    (hplaces : ∀ location ∈ places, Batch.IsNamedOutput location) (report : Batch.Report) :
    (ofRoot (.ofFiles second) root report).value = (ofRoot (.ofFiles first) root report).value := by
  have hinfo : ∀ location ∈ places, ¬ InfoFile.IsNamedInfo location := fun location hmem =>
    Batch.not_isNamedInfo_of_isNamedOutput (hplaces location hmem)
  have hpaths : (InfoFile.filesUnder second root).value = (InfoFile.filesUnder first root).value :=
    InfoFile.filesUnder_eq hfirst hsecond h hinfo
  show (addFiles (.ofFiles second) root _ (InfoFile.filesUnder second root).value).value = _
  rw [hpaths]
  exact value_addFiles_congr _ fun path hpath => InfoFile.readText_eq hfirst h hinfo hpath

/-- The directory of a collected material is one that its path leads to. -/
theorem leadsOn_assetDir (hwell : first.IsWellFormed) {report : Batch.Report} {job : Batch.Job}
    (h : job ∈ (ofRoot (.ofFiles first) root report).value.jobList) :
    first.LeadsOn job.assetDir := by
  obtain ⟨before, path, after, hpaths, ⟨info, hload, -⟩, hdir, -⟩ :=
    (holds_addFiles first root report (InfoFile.filesUnder first root).value).first job h
  have hpath : path ∈ (InfoFile.filesUnder first root).value := by simp [hpaths]
  obtain ⟨above, name, hnames, hending, -⟩ := InfoFile.exists_of_mem_filesUnder hwell hpath
  have hdot : name ≠ ['.'] := by
    rintro rfl
    exact absurd hending (by decide)
  obtain ⟨parent, hparent⟩ := Path.exists_parent? hnames hdot
  -- The info file was read, so its path resolves.
  cases hread : first.readText path with
  | error cause => simp [InfoFile.load, hread] at hload
  | ok text =>
    obtain ⟨location, hresolve, -⟩ := FileTree.readText_eq_ok_iff.1 hread
    rw [hdir, hparent]
    exact FileTree.leadsOn_of_parent? hparent hresolve

end Collection

/-! ## Converting Again -/

/-- A conversion depends on what the shader and the template hold. -/
theorem ConversionOptions.value_convertFile_congr (options : ConversionOptions)
    {first second : FileTree} {path : Text} (hsource : second.readText path = first.readText path)
    (htemplate : second.readText options.template = first.readText options.template) :
    (options.convertFile (.ofFiles second) path).value
      = (options.convertFile (.ofFiles first) path).value := by
  have hlines : readTemplate second options.template = readTemplate first options.template := by
    rw [readTemplate, readTemplate, htemplate]
  unfold convertFile
  simp only [Workspace.ofFiles, hsource]
  cases first.readText path with
  | error cause => rfl
  | ok source =>
    simp only [Logged.after, convertText, Workspace.recorded, hlines]

namespace Batch

variable {batch : Batch} {job : Job}

section Reading

variable {first second : FileTree} {places : List Location}

/-- A shader of a collected material is read as before, or fails to be. -/
theorem readText_shaderSource_eq (h : first.ChangesOnly places second)
    (hplaces : ∀ location ∈ places, IsNamedOutput location)
    (hdir : first.LeadsOn job.assetDir) (hhash : '/' ∉ job.hash) :
    second.readText job.shaderSource = first.readText job.shaderSource := by
  have hpath : job.shaderSource = Path.join (Path.join job.assetDir "Shaders")
      ("PS_".toList ++ job.hash ++ ".hlsl".toList) := rfl
  have hne : "PS_".toList ++ job.hash ++ ".hlsl".toList ≠ [] := by simp
  have hname : '/' ∉ "PS_".toList ++ job.hash ++ ".hlsl".toList := by simp [hhash]
  have hlast : ("PS_".toList ++ job.hash ++ ".hlsl".toList).getLast? = some 'l' :=
    getLast?_of_isSuffix (List.suffix_append ..) (by decide)
  -- All that counts of the name is that it is one, and how it ends.
  generalize "PS_".toList ++ job.hash ++ ".hlsl".toList = name at hpath hne hname hlast
  have hdots : name ≠ ['.'] ∧ name ≠ ['.', '.'] := by
    constructor <;> rintro rfl <;> cases hlast
  rw [hpath]
  -- The directory of shaders is reached as before, and no output ends like a shader file.
  apply h.readText_eq
  · refine h.resolve_join_join_eq hdir (by decide) (fun location hmem => ?_) hne hname
    exact absurd (getLast?_of_isNamedOutput (hplaces _ hmem)) (by decide)
  · intro hmem
    rw [Location.ofPath_join (Path.isAbsolute_of_not_mem hname), Path.names_of_not_mem hne hname]
      at hmem
    have hplace : ∀ location : Location, location.walk [name] = location ++ [name] :=
      Location.step_of_ne hdots.1 hdots.2
    rw [hplace] at hmem
    simpa [hlast] using getLast?_of_isNamedOutput (hplaces _ hmem)

/-- What can be written in the output directory can be written again. -/
theorem writable_join_eq (h : first.ChangesOnly places second)
    (hdir : first.LeadsOn batch.outputDir) {name : Text} (hne : name ≠ []) (hname : '/' ∉ name) :
    second.writable (Path.join batch.outputDir name)
      = first.writable (Path.join batch.outputDir name) :=
  h.writable_eq (h.resolve_join_eq hdir hne hname)

end Reading

/-! ## Attempting Again -/

/-- A material is written again, where its outputs stand as they were written, and this changes
nothing. -/
theorem writeMaterial_again {started files : FileTree} {program : Program}
    (hshaderPath : files.writable (batch.shaderPath job.hash)
      = started.writable (batch.shaderPath job.hash))
    (hplanPath : ∀ {withShader}, started.writeText (batch.shaderPath job.hash)
        (MaterialPlan.ofProgram job.hash program job.info.pixel).code = .ok withShader →
      files.writable (batch.planPath job.hash) = withShader.writable (batch.planPath job.hash))
    (hshaderStands : ∀ {withShader}, started.writeText (batch.shaderPath job.hash)
        (MaterialPlan.ofProgram job.hash program job.info.pixel).code = .ok withShader →
      files.entryAt? (.ofPath started.workDir (batch.shaderPath job.hash))
        = some (.file (.text (MaterialPlan.ofProgram job.hash program job.info.pixel).code)))
    (hplanStands : ∀ {withShader withPlan}, started.writeText (batch.shaderPath job.hash)
        (MaterialPlan.ofProgram job.hash program job.info.pixel).code = .ok withShader →
      withShader.writeText (batch.planPath job.hash)
        (MaterialPlan.ofProgram job.hash program job.info.pixel).document = .ok withPlan →
      files.entryAt? (.ofPath withShader.workDir (batch.planPath job.hash))
        = some (.file (.text (MaterialPlan.ofProgram job.hash program job.info.pixel).document))) :
    batch.writeMaterial .ample files job program
      = ((batch.writeMaterial .ample started job program).1, files) := by
  -- The cases are those of the first attempt, and each of them comes again.
  cases hshader : started.writeText (batch.shaderPath job.hash)
      (MaterialPlan.ofProgram job.hash program job.info.pixel).code with
  | error cause =>
    have hbarred := FileTree.writeText_eq_error_iff.1 hshader
    rw [writeMaterial_of_error (FileTree.writeOn_of_error hbarred),
      writeMaterial_of_error (FileTree.writeOn_of_error (hshaderPath.trans hbarred))]
  | ok withShader =>
    have hshaderAgain := FileTree.writeOn_of_writeText
      (FileTree.writeText_again hshader hshaderPath (hshaderStands hshader))
    have hshaderFirst := FileTree.writeOn_of_writeText hshader
    cases hplan : withShader.writeText (batch.planPath job.hash)
        (MaterialPlan.ofProgram job.hash program job.info.pixel).document with
    | error cause =>
      have hbarred := FileTree.writeText_eq_error_iff.1 hplan
      have hagain := (hplanPath hshader).trans hbarred
      rw [writeMaterial_of_plan_error hshaderFirst (FileTree.writeOn_of_error hbarred),
        writeMaterial_of_plan_error hshaderAgain (FileTree.writeOn_of_error hagain)]
    | ok withPlan =>
      have hplanAgain := FileTree.writeOn_of_writeText
        (FileTree.writeText_again hplan (hplanPath hshader) (hplanStands hshader hplan))
      rw [writeMaterial_of_ok hshaderFirst (FileTree.writeOn_of_writeText hplan),
        writeMaterial_of_ok hshaderAgain hplanAgain]

namespace Attempt

variable {attempt : Attempt} {program : Program} {withShader withPlan : FileTree}

/-- A shader that is written stands in its place after the attempt. -/
theorem entryAt?_shaderPlace (hlog : attempt.start.LogIsFile)
    (hstorage : (attempt.converting batch).storage = .ample)
    (hnodup : (attempt.places batch).Nodup)
    (hconverted : (attempt.converted batch).value = .ok program)
    (hshader : (attempt.converting batch).files.writeText (batch.shaderPath attempt.job.hash)
      (attempt.plan program).code = .ok withShader) :
    attempt.shaderPlace batch ∈ attempt.places batch
      ∧ (attempt.written batch).files.entryAt? (attempt.shaderPlace batch)
        = some (.file (.text (attempt.plan program).code)) := by
  have hwritten := written_of_ok batch hconverted
  rw [hstorage] at hwritten
  have hshaderOn := FileTree.writeOn_of_writeText hshader
  -- A plan that is saved stands elsewhere, so that it does not replace the shader.
  cases hplan : withShader.writeText (batch.planPath attempt.job.hash)
      (attempt.plan program).document with
  | error cause =>
    have hbarred := FileTree.writeText_eq_error_iff.1 hplan
    rw [writeMaterial_of_plan_error hshaderOn (FileTree.writeOn_of_error hbarred)] at hwritten
    rw [places, hwritten]
    exact ⟨List.mem_singleton_self _, entryAt?_of_shader hlog hshader⟩
  | ok withPlan =>
    rw [writeMaterial_of_ok hshaderOn (FileTree.writeOn_of_writeText hplan)] at hwritten
    rw [places, hwritten] at hnodup ⊢
    exact ⟨List.mem_cons_self, entryAt?_shaderPlace_of_plan hlog hshader hplan (by simpa using hnodup)⟩

/-- So does a plan that is saved. -/
theorem entryAt?_planPlace (hlog : attempt.start.LogIsFile)
    (hstorage : (attempt.converting batch).storage = .ample)
    (hconverted : (attempt.converted batch).value = .ok program)
    (hshader : (attempt.converting batch).files.writeText (batch.shaderPath attempt.job.hash)
      (attempt.plan program).code = .ok withShader)
    (hplan : withShader.writeText (batch.planPath attempt.job.hash) (attempt.plan program).document
      = .ok withPlan) :
    attempt.planPlace batch ∈ attempt.places batch
      ∧ (attempt.written batch).files.entryAt? (attempt.planPlace batch)
        = some (.file (.text (attempt.plan program).document)) := by
  have hwritten := written_of_ok batch hconverted
  rw [hstorage, writeMaterial_of_ok (FileTree.writeOn_of_writeText hshader)
    (FileTree.writeOn_of_writeText hplan)] at hwritten
  rw [places, hwritten]
  exact ⟨by simp, entryAt?_of_plan hlog hshader hplan⟩

variable {base started files : FileTree} {locations : List Location}

/-- A material whose outputs are found is written again, and nothing changes. -/
theorem writeMaterial_eq (hstarted : base.ChangesOnly locations started)
    (hfiles : base.ChangesOnly locations files) (hdir : base.LeadsOn batch.outputDir)
    (hextension : '/' ∉ batch.extension) (hhash : '/' ∉ job.hash)
    (hnodup : (places batch ⟨job, .ofFiles started⟩).Nodup)
    (hkept : ∀ location ∈ places batch ⟨job, .ofFiles started⟩,
      files.entryAt? location = (written batch ⟨job, .ofFiles started⟩).files.entryAt? location)
    (hvalue : (converted batch ⟨job, .ofFiles started⟩).value = .ok program) :
    batch.writeMaterial .ample files job program
      = ((batch.writeMaterial .ample started job program).1, files) := by
  have hlog : (Attempt.mk job (.ofFiles started)).start.LogIsFile :=
    Workspace.logIsFile_ofFiles started
  have hshaderName : '/' ∉ job.hash ++ ".".toList ++ batch.extension := by
    simp [hhash, hextension]
  have hplanName : '/' ∉ job.hash ++ ".json".toList := by simp [hhash]
  -- What is written does not change which paths can be written, and it is kept.
  apply writeMaterial_again
  · exact (writable_join_eq hfiles hdir (by simp) hshaderName).trans
      (writable_join_eq hstarted hdir (by simp) hshaderName).symm
  · intro withShader hshader
    have hchanges := FileTree.ChangesOnly.of_writeText hshader
    have hwithShader := (hstarted.mono (List.subset_append_right _ locations)).trans
      (hchanges.mono (List.subset_append_left _ locations))
    exact (writable_join_eq hfiles hdir (by simp) hplanName).trans
      (writable_join_eq hwithShader hdir (by simp) hplanName).symm
  · intro withShader hshader
    obtain ⟨hmem, hstands⟩ := entryAt?_shaderPlace hlog rfl hnodup hvalue hshader
    exact (hkept _ hmem).trans hstands
  · intro withShader withPlan hshader hplan
    obtain ⟨hmem, hstands⟩ := entryAt?_planPlace hlog rfl hvalue hshader hplan
    rw [(FileTree.ChangesOnly.of_writeText hshader).workDir_eq]
    exact (hkept _ hmem).trans hstands

/-- An attempt that finds its outputs, and converts the same, comes to the same and changes
nothing. -/
theorem written_again (hstarted : base.ChangesOnly locations started)
    (hfiles : base.ChangesOnly locations files) (hdir : base.LeadsOn batch.outputDir)
    (hextension : '/' ∉ batch.extension) (hhash : '/' ∉ job.hash)
    (hnodup : (places batch ⟨job, .ofFiles started⟩).Nodup)
    (hkept : ∀ location ∈ places batch ⟨job, .ofFiles started⟩,
      files.entryAt? location = (written batch ⟨job, .ofFiles started⟩).files.entryAt? location)
    (hconverted : (converted batch ⟨job, .ofFiles files⟩).value
      = (converted batch ⟨job, .ofFiles started⟩).value) :
    (written batch ⟨job, .ofFiles files⟩).result = (written batch ⟨job, .ofFiles started⟩).result
      ∧ (written batch ⟨job, .ofFiles files⟩).space = .ofFiles files := by
  cases hvalue : (converted batch ⟨job, .ofFiles started⟩).value with
  | error error =>
    rw [written_of_error batch hvalue, written_of_error batch (hconverted.trans hvalue)]
    exact ⟨rfl, rfl⟩
  | ok program =>
    have hmaterial := writeMaterial_eq hstarted hfiles hdir hextension hhash hnodup hkept hvalue
    have hagain := written_of_ok batch (hconverted.trans hvalue)
    rw [hagain, written_of_ok batch hvalue]
    constructor
    · show (batch.writeMaterial .ample files job program).1 = _
      rw [hmaterial]
      rfl
    · show Workspace.ofFiles (batch.writeMaterial .ample files job program).2 = _
      rw [hmaterial]

end Attempt

end Batch

end MaterialNode
