import MaterialNode.Proofs.Batch.AttemptsAgain

/-!
# Repeated Batches

A batch with plain hashes that is run on what it left behind repeats itself, wherever its output
directory is, if no log file is open and storage fails no write. It leaves all files alone and comes to the same report. If it failed as a whole, it
does so again; only if the path of its output directory climbs may it meet another fault then, from
further down the path.

## Main definitions

* `Batch.IsPlain`: what a batch needs to repeat itself.
* `Batch.IsRepetition`: a run that repeats another one.

## Main results

* `Batch.isHierarchy_run`: a batch keeps a hierarchy.
* `Batch.isRepetition_run_run`: a plain batch repeats itself.
-/

namespace MaterialNode

namespace Batch

variable {batch : Batch}

/-! ## Keeping a Hierarchy -/

theorem Attempt.isHierarchy_finish {attempt : Attempt} (hlog : attempt.start.LogIsFile)
    (h : attempt.start.files.IsHierarchy) : (attempt.finish batch).files.IsHierarchy := by
  have hconverting : (attempt.converting batch).files.IsHierarchy :=
    Workspace.isHierarchy_recorded hlog h _
  have hwritten : (attempt.written batch).space.files.IsHierarchy := by
    cases attempt.course batch with
    | unconverted _ _ _ hspace => rwa [hspace]
    | unwritten _ _ _ _ _ hspace => rwa [hspace]
    | shaderBrokenOff _ _ _ _ _ hstart _ hspace =>
      rw [hspace]
      exact hconverting.writeContent hstart
    | unsaved _ _ _ _ hshader _ _ _ hspace =>
      rw [hspace]
      exact hconverting.writeContent hshader
    | planBrokenOff _ _ _ _ _ _ hshader hstart _ hspace =>
      rw [hspace]
      exact (hconverting.writeContent hshader).writeContent hstart
    | done _ _ _ _ hshader hplan _ hspace =>
      rw [hspace]
      exact (hconverting.writeContent hshader).writeContent hplan
  exact Workspace.isHierarchy_recorded ((changesOnly_written batch hlog).logIsFile hlog) hwritten _

theorem isHierarchy_finishFrom {space : Workspace} (hlog : space.LogIsFile)
    (h : space.files.IsHierarchy) (jobs : List Job) :
    (batch.finishFrom space jobs).files.IsHierarchy := by
  -- Along the run, one attempt at a time.
  induction jobs generalizing space with
  | nil => exact h
  | cons job jobs ih =>
    have hstart : (Attempt.mk job space).start.LogIsFile := hlog
    exact ih ((Attempt.changesOnly_finish batch hstart).logIsFile hlog)
      (Attempt.isHierarchy_finish hstart h)

/-- A batch keeps a hierarchy. -/
theorem isHierarchy_run (batch : Batch) {space : Workspace} (hlog : space.LogIsFile)
    (h : space.files.IsHierarchy) : (batch.run space).files.IsHierarchy := by
  have hprepared : (batch.prepared space).files.IsHierarchy := h.createDirectories _
  cases hrun : (batch.run space).result with
  | error cause =>
    rw [Written.files, run_eq_error hrun]
    exact hprepared
  | ok report =>
    rw [Written.files, (run_eq_ok hrun).2]
    refine isHierarchy_finishFrom (logIsFile_started batch hlog) ?_ _
    exact Workspace.isHierarchy_recorded (logIsFile_prepared hlog) hprepared _

/-! ## The Run Again -/

/-- Attempts that leave the workspace alone all start in it. -/
theorem attemptsFrom_of_forall {space : Workspace} {jobs : List Job}
    (h : ∀ job ∈ jobs, Attempt.finish batch ⟨job, space⟩ = space) :
    batch.attemptsFrom space jobs = jobs.map (fun job => ⟨job, space⟩)
      ∧ batch.finishFrom space jobs = space := by
  induction jobs with
  | nil => exact ⟨rfl, rfl⟩
  | cons job jobs ih =>
    obtain ⟨hjob, hjobs⟩ := List.forall_mem_cons.1 h
    obtain ⟨hattempts, hend⟩ := ih hjobs
    constructor
    · rw [attemptsFrom, hjob, hattempts]
      rfl
    · show batch.finishFrom (Attempt.finish batch ⟨job, space⟩) jobs = space
      rw [hjob, hend]

variable {files : FileTree}

/-- Without a log file and a fault of storage, a workspace is its files. -/
theorem eq_ofFiles {places : List Location} {space : Workspace}
    (h : Workspace.ChangesOnly places (.ofFiles files) space) : space = .ofFiles space.files := by
  have hlog : space.logFile = none := h.logFile_eq
  have hstorage : space.storage = .ample := h.storage_eq
  rw [Workspace.ofFiles, ← hlog, ← hstorage]

/-- With a template that cannot be read, nothing is converted and nothing is written. -/
theorem finish_of_readText_template {cause : FileError}
    (h : files.readText batch.template = .error cause) (job : Job) :
    Attempt.finish batch ⟨job, .ofFiles files⟩ = .ofFiles files := by
  have hvalue : ∃ error, (Attempt.converted batch ⟨job, .ofFiles files⟩).value = .error error := by
    unfold Attempt.converted ConversionOptions.convertFile
    cases (Workspace.ofFiles files).files.readText (Job.shaderSource job) with
    | error cause => exact ⟨_, rfl⟩
    | ok source =>
      refine ⟨.template batch.template cause, ?_⟩
      simp [Logged.after, ConversionOptions.convertText, conversion, readTemplate,
        Workspace.recorded, Workspace.ofFiles, h]
  obtain ⟨error, herror⟩ := hvalue
  rw [Attempt.finish, Attempt.written_of_error batch herror]
  rfl

/-- The files that a batch leaves behind. -/
def filesAfter (batch : Batch) (files : FileTree) : FileTree := (batch.run (.ofFiles files)).files

/-- The template is read in the end as each attempt reads it, unless the batch writes it. -/
theorem readText_template_eq {report : Report}
    (hrun : (batch.run (.ofFiles files)).result = .ok report)
    (htemplate : Location.ofPath files.workDir batch.template
      ∉ (batch.attempts (.ofFiles files)).flatMap (Attempt.places batch)) {attempt : Attempt}
    (hattempt : attempt ∈ batch.attempts (.ofFiles files)) :
    (batch.filesAfter files).readText batch.template
      = attempt.start.files.readText batch.template := by
  have hlog := Workspace.logIsFile_ofFiles files
  have hworkDir := workDir_prepared batch (.ofFiles files)
  cases htext : (batch.prepared (.ofFiles files)).files.readText batch.template with
  | ok text =>
    obtain ⟨before, after, hattempts⟩ := List.append_of_mem hattempt
    have hstart := (changesOnly_start hlog hattempts).files
    have hafter := (changesOnly_run batch hlog).files
    have hbefore : Location.ofPath (batch.prepared (.ofFiles files)).files.workDir batch.template
        ∉ (Workspace.ofFiles files).logPlaces ++ before.flatMap (Attempt.places batch) := by
      rw [hworkDir]
      intro hmem
      rw [hattempts, List.flatMap_append] at htemplate
      exact htemplate (List.mem_append_left _ hmem)
    rw [(hstart.readText_eq_ok_iff hbefore).2 htext]
    exact (hafter.readText_eq_ok_iff (hworkDir ▸ htemplate)).2 htext
  | error cause =>
    -- Nothing is written, so that the first files are the last.
    have hstarted : batch.started (.ofFiles files)
        = .ofFiles (batch.prepared (.ofFiles files)).files := rfl
    have hfinish : ∀ job ∈ (batch.collected (.ofFiles files)).value.jobList,
        Attempt.finish batch ⟨job, .ofFiles (batch.prepared (.ofFiles files)).files⟩ = _ :=
      fun job _ => finish_of_readText_template htext job
    obtain ⟨hattempts, hend⟩ := attemptsFrom_of_forall hfinish
    rw [attempts, hstarted, hattempts] at hattempt
    obtain ⟨job, -, rfl⟩ := List.mem_map.1 hattempt
    rw [filesAfter, Written.files, (run_eq_ok hrun).2, hstarted, hend]

/-- The places of what a batch writes: none if it fails as a whole. -/
def places (batch : Batch) (space : Workspace) : List Location :=
  match (batch.run space).result with
  | .ok _ => (batch.attempts space).flatMap (Attempt.places batch)
  | .error _ => []

/-- The output directory is not created again. -/
theorem createDirectories_again {report : Report}
    (hrun : (batch.run (.ofFiles files)).result = .ok report) :
    (batch.filesAfter files).createDirectories batch.outputDir
        = (.ok (), batch.filesAfter files)
      ∧ (batch.prepared (.ofFiles files)).files.LeadsOn batch.outputDir := by
  have hcreate : files.createDirectories batch.outputDir
      = (.ok (), (batch.prepared (.ofFiles files)).files) := by
    cases hresult : (files.createDirectories batch.outputDir).1 with
    | error cause => cases hrun.symm.trans (result_run_eq_error_iff.2 hresult)
    | ok _ => exact Prod.ext hresult rfl
  have hchanges := (changesOnly_run batch (Workspace.logIsFile_ofFiles files)).files
  exact ⟨FileTree.createDirectories_of_eq_ok hcreate hchanges.isDirectory,
    FileTree.leadsOn_of_isDirectory (FileTree.isDirectory_of_createDirectoriesWith hcreate)⟩

/-- Whether a batch repeats itself on a tree. -/
structure IsPlain (batch : Batch) (files : FileTree) : Prop where
  /-- Everything stands in a directory, as it does in all file systems. -/
  isHierarchy : files.IsHierarchy
  /-- Shaders are written with their usual extension. -/
  extension_eq : batch.extension = "usf".toList
  /-- Hashes are names. -/
  slash_not_mem : ∀ job ∈ (batch.collected (.ofFiles files)).value.jobList, '/' ∉ job.hash
  /-- The template is none of the files that the batch writes. -/
  template_not_mem :
    Location.ofPath files.workDir batch.template ∉ batch.places (.ofFiles files)

namespace IsPlain

variable {report : Report}

theorem slash_not_mem_extension (h : batch.IsPlain files) : '/' ∉ batch.extension := by
  rw [h.extension_eq]
  decide

/-- What a batch writes has the names of outputs. -/
theorem isNamedOutput (h : batch.IsPlain files) {location : Location}
    (hlocation : location ∈ (batch.attempts (.ofFiles files)).flatMap (Attempt.places batch)) :
    IsNamedOutput location := by
  obtain ⟨attempt, hattempt, hplace⟩ := List.mem_flatMap.1 hlocation
  have hmem := (places_isPrefix_of_plain (Workspace.logIsFile_ofFiles files)
    h.slash_not_mem_extension h.slash_not_mem hattempt).subset hplace
  rw [h.extension_eq] at hmem
  simp only [List.mem_cons, List.not_mem_nil, or_false] at hmem
  rcases hmem with rfl | rfl
  · exact ⟨_, List.getLast?_concat, .inl (List.suffix_append ..)⟩
  · exact ⟨_, List.getLast?_concat, .inr (List.suffix_append ..)⟩

/-- Each material is converted again as it was. -/
theorem value_converted_again (h : batch.IsPlain files)
    (hrun : (batch.run (.ofFiles files)).result = .ok report) {job : Job} {started : FileTree}
    (hattempt : ⟨job, .ofFiles started⟩ ∈ batch.attempts (.ofFiles files))
    (hstarted : (batch.prepared (.ofFiles files)).files.ChangesOnly
      ((batch.attempts (.ofFiles files)).flatMap (Attempt.places batch)) started) :
    (Attempt.converted batch ⟨job, .ofFiles (batch.filesAfter files)⟩).value
      = (Attempt.converted batch ⟨job, .ofFiles started⟩).value := by
  have hwell := (h.isHierarchy.createDirectories batch.outputDir).toIsWellFormed
  have hjob := mem_jobList_of_mem_attempts hattempt
  have hdir := Collection.leadsOn_assetDir hwell hjob
  have hhash := h.slash_not_mem _ hjob
  have hfiles := (changesOnly_run batch (Workspace.logIsFile_ofFiles files)).files
  have hplaces : ∀ location ∈ (batch.attempts (.ofFiles files)).flatMap (Attempt.places batch),
      IsNamedOutput location := fun location hlocation => h.isNamedOutput hlocation
  have htemplate := h.template_not_mem
  rw [places, hrun] at htemplate
  -- A conversion reads the shader and the template, and both are as they were.
  apply ConversionOptions.value_convertFile_congr
  · exact (readText_shaderSource_eq hfiles hplaces hdir hhash).trans
      (readText_shaderSource_eq hstarted hplaces hdir hhash).symm
  · exact readText_template_eq hrun htemplate hattempt

/-- Each attempt comes to the same again, and changes nothing. -/
theorem written_again (h : batch.IsPlain files)
    (hrun : (batch.run (.ofFiles files)).result = .ok report) {attempt : Attempt}
    (hattempt : attempt ∈ batch.attempts (.ofFiles files)) :
    (Attempt.written batch ⟨attempt.job, .ofFiles (batch.filesAfter files)⟩).result
        = (attempt.written batch).result
      ∧ (Attempt.written batch ⟨attempt.job, .ofFiles (batch.filesAfter files)⟩).space
        = .ofFiles (batch.filesAfter files) := by
  have hlog := Workspace.logIsFile_ofFiles files
  obtain ⟨before, after, hattempts⟩ := List.append_of_mem hattempt
  obtain ⟨job, start⟩ := attempt
  have hstart : Workspace.ChangesOnly _
    (.ofFiles (batch.prepared (.ofFiles files)).files) start := changesOnly_start hlog hattempts
  rw [eq_ofFiles hstart] at hattempt hattempts ⊢
  have hstarted : (batch.prepared (.ofFiles files)).files.ChangesOnly
      ((batch.attempts (.ofFiles files)).flatMap (Attempt.places batch)) start.files := by
    refine hstart.files.mono ?_
    rw [hattempts, List.flatMap_append]
    exact List.subset_append_left ..
  -- The places of an attempt are its own, so that its outputs stand in the end.
  have hnodup := nodup_places_of_plain hlog h.slash_not_mem_extension
    (by rw [h.extension_eq]; decide) (by rw [h.extension_eq]; decide) h.slash_not_mem
  rw [hattempts, List.flatMap_append, List.flatMap_cons, List.nodup_append, List.nodup_append]
    at hnodup
  obtain ⟨-, ⟨hown, -, hlater⟩, -⟩ := hnodup
  have hend := (changesOnly_of_attempts_eq hlog hrun hattempts).files
  refine Attempt.written_again hstarted (changesOnly_run batch hlog).files
    (createDirectories_again hrun).2 h.slash_not_mem_extension
    (h.slash_not_mem _ (mem_jobList_of_mem_attempts hattempt)) hown ?_
    (h.value_converted_again hrun hattempt hstarted)
  intro location hlocation
  exact hend.entryAt?_eq location fun hmem => hlater location hlocation location hmem rfl

/-- The same materials are collected again. -/
theorem collected_again (h : batch.IsPlain files)
    (hrun : (batch.run (.ofFiles files)).result = .ok report) :
    batch.prepared (.ofFiles (batch.filesAfter files)) = .ofFiles (batch.filesAfter files)
      ∧ (batch.collected (.ofFiles (batch.filesAfter files))).value
        = (batch.collected (.ofFiles files)).value := by
  have hlog := Workspace.logIsFile_ofFiles files
  have hprepared : batch.prepared (.ofFiles (batch.filesAfter files))
      = .ofFiles (batch.filesAfter files) := by
    rw [prepared]
    show Workspace.ofFiles ((batch.filesAfter files).createDirectories _).2 = _
    rw [(createDirectories_again hrun).1]
  refine ⟨hprepared, ?_⟩
  have hfirst := (h.isHierarchy.createDirectories batch.outputDir).toIsWellFormed
  have hsecond := (isHierarchy_run batch hlog h.isHierarchy).toIsWellFormed
  rw [collected, hprepared]
  exact Collection.value_ofRoot_eq hfirst hsecond (changesOnly_run batch hlog).files
    (fun location hlocation => h.isNamedOutput hlocation) _

/-- The same materials are attempted again, all in the workspace that the batch left. -/
theorem attempts_again (h : batch.IsPlain files)
    (hrun : (batch.run (.ofFiles files)).result = .ok report) :
    batch.attempts (.ofFiles (batch.filesAfter files))
        = (batch.attempts (.ofFiles files)).map (fun attempt =>
            ⟨attempt.job, .ofFiles (batch.filesAfter files)⟩)
      ∧ batch.finishFrom (batch.started (.ofFiles (batch.filesAfter files)))
          (batch.collected (.ofFiles (batch.filesAfter files))).value.jobList
        = .ofFiles (batch.filesAfter files) := by
  obtain ⟨hprepared, hcollected⟩ := h.collected_again hrun
  have hstarted : batch.started (.ofFiles (batch.filesAfter files))
      = .ofFiles (batch.filesAfter files) := by
    rw [started, hprepared]
    rfl
  have hjobs : (batch.collected (.ofFiles files)).value.jobList
      = (batch.attempts (.ofFiles files)).map Attempt.job := (map_job_attemptsFrom ..).symm
  -- No attempt changes anything, so that all start from what was left.
  have hfinish : ∀ job ∈ (batch.attempts (.ofFiles files)).map Attempt.job,
      Attempt.finish batch ⟨job, .ofFiles (batch.filesAfter files)⟩
        = .ofFiles (batch.filesAfter files) := by
    intro job hjob
    obtain ⟨attempt, hattempt, rfl⟩ := List.mem_map.1 hjob
    rw [Attempt.finish, (h.written_again hrun hattempt).2]
    rfl
  obtain ⟨hattempts, hend⟩ := attemptsFrom_of_forall hfinish
  rw [attempts, hstarted, hcollected, hjobs, hattempts, hend, List.map_map]
  exact ⟨rfl, rfl⟩

/-- A batch that comes to a report comes to it again, and changes nothing. -/
theorem run_run (h : batch.IsPlain files)
    (hrun : (batch.run (.ofFiles files)).result = .ok report) :
    (batch.run (.ofFiles (batch.filesAfter files))).result = .ok report
      ∧ (batch.run (.ofFiles (batch.filesAfter files))).space
        = .ofFiles (batch.filesAfter files) := by
  obtain ⟨hattempts, hend⟩ := h.attempts_again hrun
  cases hagain : (batch.run (.ofFiles (batch.filesAfter files))).result with
  | error cause =>
    have hcreate := result_run_eq_error_iff.1 hagain
    cases (congrArg Prod.fst (createDirectories_again hrun).1).symm.trans hcreate
  | ok report' =>
    obtain ⟨hreport', hspace⟩ := run_eq_ok hagain
    refine ⟨congrArg Except.ok ?_, hspace.trans hend⟩
    -- Each attempt has the product or the failure that it had.
    have hproducts : ∀ attempt ∈ batch.attempts (.ofFiles files),
        Attempt.product? batch ⟨attempt.job, .ofFiles (batch.filesAfter files)⟩
          = attempt.product? batch := by
      intro attempt hattempt
      rw [Attempt.product?, (h.written_again hrun hattempt).1]
      rfl
    have hfailures : ∀ attempt ∈ batch.attempts (.ofFiles files),
        Attempt.failure? batch ⟨attempt.job, .ofFiles (batch.filesAfter files)⟩
          = attempt.failure? batch := by
      intro attempt hattempt
      rw [Attempt.failure?, (h.written_again hrun hattempt).1]
      rfl
    rw [hreport', (run_eq_ok hrun).1, (h.collected_again hrun).2, hattempts, List.filterMap_map,
      List.filterMap_map]
    congr 1
    · exact List.filterMap_congr hproducts
    · exact congrArg _ (List.filterMap_congr hfailures)

end IsPlain

/-! ## Repetitions -/

/-- A run of a batch that repeats another one. -/
structure IsRepetition (batch : Batch) (first second : Written (Except FileError Report)) :
    Prop where
  /-- All files stay as they are. -/
  files_eq : second.files = first.files
  /-- A report is the same again. -/
  report_eq : ∀ report, first.result = .ok report → second.result = .ok report
  /-- A failure as a whole is the same again, unless the path of the output directory climbs. -/
  cause_repeats : ∀ cause, first.result = .error cause →
    ∃ fault, second.result = .error fault ∧ cause.Repeats batch.outputDir fault

/-- A plain batch that is run on what it leaves behind repeats itself. No log file is open, which would
grow with each run, and storage fails no write, which it might fail in one run only. -/
theorem isRepetition_run_run (h : batch.IsPlain files) :
    batch.IsRepetition (batch.run (.ofFiles files))
      (batch.run (batch.run (.ofFiles files)).space) := by
  have hspace : (batch.run (.ofFiles files)).space = .ofFiles (batch.filesAfter files) := by
    have hprepared : Workspace.ChangesOnly _
      (.ofFiles (batch.prepared (.ofFiles files)).files) _ :=
        changesOnly_run batch (Workspace.logIsFile_ofFiles files)
    exact eq_ofFiles hprepared
  rw [hspace]
  -- A run that comes to a report repeats all its attempts; any other only created directories.
  cases hrun : (batch.run (.ofFiles files)).result with
  | ok report =>
    obtain ⟨hresult, hfiles⟩ := h.run_run hrun
    constructor
    · rw [Written.files, hfiles]
      rfl
    · intro report' hreport'
      rw [hresult, ← hrun, hreport']
    · intro cause hcause
      cases hrun.symm.trans hcause
  | error cause =>
    have hprepared := run_eq_error hrun
    have hcreate : files.createDirectories batch.outputDir
        = (.error cause, batch.filesAfter files) := by
      refine Prod.ext (result_run_eq_error_iff.1 hrun) ?_
      rw [filesAfter, Written.files, hprepared]
      rfl
    obtain ⟨fault, hrepeats, hagain⟩ :=
      FileTree.exists_createDirectories_eq_error h.isHierarchy hcreate
    have hresult : (batch.run (.ofFiles (batch.filesAfter files))).result = .error fault :=
      result_run_eq_error_iff.2 (congrArg Prod.fst hagain)
    constructor
    · rw [Written.files, run_eq_error hresult]
      exact congrArg Prod.snd hagain
    · intro report hreport
      cases hrun.symm.trans hreport
    · intro cause' hcause'
      obtain rfl : cause = cause' := Except.error.inj (hrun.symm.trans hcause')
      exact ⟨fault, hresult, hrepeats⟩

/-- A batch that writes into the tree that it converts. -/
def inwardBatch : Batch := ⟨"export", "export/usf", "t.usf", "usf"⟩

theorem isRepetition_run_run_inwardBatch : inwardBatch.IsPlain plainExport
    ∧ inwardBatch.IsRepetition (inwardBatch.run (.ofFiles plainExport))
      (inwardBatch.run (inwardBatch.run (.ofFiles plainExport)).space) := by
  have hplain : inwardBatch.IsPlain plainExport := by
    refine ⟨⟨⟨?_, ?_⟩, ?_, ?_⟩, rfl, ?_, ?_⟩ <;> decide +kernel
  exact ⟨hplain, isRepetition_run_run hplain⟩

/-- A tree with one file. -/
def soleFile : FileTree := ⟨[], .ofList [(["f".toList], .file (.text "x"))]⟩

/-- A batch whose output path comes to this file after it climbed out of a directory that the batch
creates. -/
def climbingBatch : Batch := ⟨"export", "new/../f/c", "t.usf", "usf"⟩

/-- A batch need not fail as a whole for the same cause again. -/
theorem not_forall_result_run_run_eq : ¬ ∀ (batch : Batch) (files : FileTree),
    batch.IsPlain files → (batch.run (batch.run (.ofFiles files)).space).result
      = (batch.run (.ofFiles files)).result := by
  intro hall
  have hplain : climbingBatch.IsPlain soleFile := by
    refine ⟨⟨⟨?_, ?_⟩, ?_, ?_⟩, rfl, ?_, ?_⟩ <;> decide +kernel
  have hfirst : (climbingBatch.run (.ofFiles soleFile)).result = .error .alreadyExists := rfl
  have hsecond : (climbingBatch.run (climbingBatch.run (.ofFiles soleFile)).space).result
      = .error .notDirectory := rfl
  cases (hsecond.symm.trans (hall climbingBatch soleFile hplain)).trans hfirst

end Batch

end MaterialNode
