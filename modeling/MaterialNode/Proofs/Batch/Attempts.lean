import MaterialNode.Proofs.Batch.Collection
import MaterialNode.Proofs.Files.Storage
import MaterialNode.Proofs.Plan.SavedPlan

/-!
# The Attempts of a Batch

A batch attempts one material after another, each in the workspace that the attempts before it leave
behind. An attempt stops at the first of its steps that fails: the conversion, the writing of the
shader or that of the plan, where a write that storage breaks off has opened its file already. It
writes no file but the shader and the plan of its material, so the files at the end of a batch are
those of the last attempt that wrote them.

## Main definitions

* `Batch.Attempt`: an attempt at a material, with the workspace that it starts in.
* `Batch.attempts`: the attempts of a batch.
* `Batch.Attempt.Course`: the ways that an attempt can go.

## Main results

* `Batch.Attempt.course`: each attempt goes one of these ways.
* `Batch.Attempt.exists_of_result_eq_ok`: what an attempt that succeeds has done.
* `Batch.Attempt.changesOnly_written`: what an attempt writes.
* `Batch.run_eq_ok`: the report of a batch, and the workspace that it leaves behind.
* `Batch.changesOnly_of_attempts_eq`: what is written after an attempt.
-/

namespace MaterialNode

/-- An attempt at converting a material. -/
structure Batch.Attempt where
  /-- The material to convert. -/
  job : Batch.Job
  /-- The workspace that the attempt starts in. -/
  start : Workspace

namespace Batch

namespace Attempt

variable (batch : Batch) (attempt : Attempt)

/-- The conversion of the material's shader, with its records. -/
def converted : Logged (Except ConversionError Program) :=
  (batch.conversion attempt.job).convertFile attempt.start attempt.job.shaderSource

/-- The workspace that the shader and the plan are written in. -/
def converting : Workspace := attempt.start.recorded (attempt.converted batch).log

/-- What the attempt comes to. -/
def written : Written (Except MaterialError Product) := batch.convertJob attempt.start attempt.job

/-- The plan of the material with a converted shader. -/
def plan (program : Program) : MaterialPlan :=
  .ofProgram attempt.job.hash program attempt.job.info.pixel

/-- Where the shader is written. -/
def shaderPlace : Location :=
  .ofPath attempt.start.files.workDir (batch.shaderPath attempt.job.hash)

/-- Where the plan is written. -/
def planPlace : Location :=
  .ofPath attempt.start.files.workDir (batch.planPath attempt.job.hash)

/-- The places that the attempt writes. A file that is opened is written, also if the write is
broken off afterwards. -/
def places : List Location :=
  match (attempt.written batch).result with
  | .ok _ => [attempt.shaderPlace batch, attempt.planPlace batch]
  | .error (.conversion _) => []
  | .error (.shader _ cause) => if cause.isOpened then [attempt.shaderPlace batch] else []
  | .error (.plan (.writing _ cause)) =>
    if cause.isOpened then [attempt.shaderPlace batch, attempt.planPlace batch]
    else [attempt.shaderPlace batch]
  | .error (.plan _) => [attempt.shaderPlace batch]

/-- The converted material, if the attempt succeeds. -/
def product? : Option Product :=
  match (attempt.written batch).result with
  | .ok material => some material
  | .error _ => none

/-- The failure, if the attempt fails. -/
def failure? : Option Failure :=
  match (attempt.written batch).result with
  | .ok _ => none
  | .error error => some ⟨attempt.job.hash, error.chain⟩

/-- The workspace that the attempt leaves behind, with the outcome on record. -/
def finish : Workspace :=
  (attempt.written batch).space.recorded [materialRecord attempt.job (attempt.written batch).result]

/-! ## The Course of an Attempt -/

/-- The ways that an attempt can go. -/
inductive Course : Prop where
  /-- The shader cannot be converted. -/
  | unconverted (error : ConversionError)
      (hconverted : (attempt.converted batch).value = .error error)
      (hresult : (attempt.written batch).result = .error (.conversion error))
      (hspace : (attempt.written batch).space = attempt.converting batch)
  /-- The file of the shader is not opened. -/
  | unwritten (program : Program) (cause : WriteError)
      (hconverted : (attempt.converted batch).value = .ok program)
      (hcause : cause.isOpened = false)
      (hresult : (attempt.written batch).result
        = .error (.shader (batch.shaderPath attempt.job.hash) cause))
      (hspace : (attempt.written batch).space = attempt.converting batch)
  /-- The writing of the shader is broken off. -/
  | shaderBrokenOff (program : Program) (bytes : Nat) (wording : Text) (withStart : FileTree)
      (hconverted : (attempt.converted batch).value = .ok program)
      (hstart : (attempt.converting batch).files.writeContent (batch.shaderPath attempt.job.hash)
        (.ofStart bytes (attempt.plan program).code) = .ok withStart)
      (hresult : (attempt.written batch).result = .error (.shader
        (batch.shaderPath attempt.job.hash) (.storage (.brokenOff bytes wording))))
      (hspace : (attempt.written batch).space = (attempt.converting batch).withFiles withStart)
  /-- The shader is written, and the file of the plan is not opened. -/
  | unsaved (program : Program) (withShader : FileTree) (cause : WriteError)
      (hconverted : (attempt.converted batch).value = .ok program)
      (hshader : (attempt.converting batch).files.writeText (batch.shaderPath attempt.job.hash)
        (attempt.plan program).code = .ok withShader)
      (hcause : cause.isOpened = false)
      (hplan : withShader.writeOn (attempt.converting batch).storage
        (batch.planPath attempt.job.hash) (attempt.plan program).document
        = (.error cause, withShader))
      (hresult : (attempt.written batch).result
        = .error (.plan (.writing (batch.planPath attempt.job.hash) cause)))
      (hspace : (attempt.written batch).space = (attempt.converting batch).withFiles withShader)
  /-- The shader is written, and the writing of the plan is broken off. -/
  | planBrokenOff (program : Program) (withShader : FileTree) (bytes : Nat) (wording : Text)
      (withStart : FileTree) (hconverted : (attempt.converted batch).value = .ok program)
      (hshader : (attempt.converting batch).files.writeText (batch.shaderPath attempt.job.hash)
        (attempt.plan program).code = .ok withShader)
      (hstart : withShader.writeContent (batch.planPath attempt.job.hash)
        (.ofStart bytes (attempt.plan program).document) = .ok withStart)
      (hresult : (attempt.written batch).result = .error (.plan
        (.writing (batch.planPath attempt.job.hash) (.storage (.brokenOff bytes wording)))))
      (hspace : (attempt.written batch).space = (attempt.converting batch).withFiles withStart)
  /-- The shader is written and the plan is saved. -/
  | done (program : Program) (withShader withPlan : FileTree)
      (hconverted : (attempt.converted batch).value = .ok program)
      (hshader : (attempt.converting batch).files.writeText (batch.shaderPath attempt.job.hash)
        (attempt.plan program).code = .ok withShader)
      (hplan : withShader.writeText (batch.planPath attempt.job.hash)
        (attempt.plan program).document = .ok withPlan)
      (hresult : (attempt.written batch).result = .ok ⟨attempt.job.hash,
        batch.shaderPath attempt.job.hash, batch.planPath attempt.job.hash⟩)
      (hspace : (attempt.written batch).space = (attempt.converting batch).withFiles withPlan)

variable {attempt}

theorem written_of_error {error : ConversionError}
    (h : (attempt.converted batch).value = .error error) : attempt.written batch
      = ⟨.error (.conversion error), attempt.converting batch, (attempt.converted batch).log⟩ := by
  unfold written convertJob
  simp only
  rw [show ((batch.conversion attempt.job).convertFile _ _).value = _ from h]
  rfl

theorem written_of_ok {program : Program} (h : (attempt.converted batch).value = .ok program) :
    attempt.written batch
      = ⟨(batch.writeMaterial (attempt.converting batch).storage (attempt.converting batch).files
          attempt.job program).1,
        (attempt.converting batch).withFiles (batch.writeMaterial
          (attempt.converting batch).storage (attempt.converting batch).files attempt.job program).2,
        (attempt.converted batch).log⟩ := by
  unfold written convertJob
  simp only
  rw [show ((batch.conversion attempt.job).convertFile _ _).value = _ from h]
  rfl

end Attempt

section Material

variable {batch : Batch} {storage : Storage} {files withShader after : FileTree} {job : Job}
  {program : Program} {cause : WriteError}

/-- A shader that cannot be written ends the attempt. -/
theorem writeMaterial_of_error (hshader : files.writeOn storage (batch.shaderPath job.hash)
      (MaterialPlan.ofProgram job.hash program job.info.pixel).code = (.error cause, after)) :
    batch.writeMaterial storage files job program
      = (.error (.shader (batch.shaderPath job.hash) cause), after) := by
  simp only [writeMaterial, hshader]

variable (hshader : files.writeOn storage (batch.shaderPath job.hash)
  (MaterialPlan.ofProgram job.hash program job.info.pixel).code = (.ok (), withShader))

include hshader

/-- A plan that cannot be saved leaves the shader. -/
theorem writeMaterial_of_plan_error (hplan : withShader.writeOn storage (batch.planPath job.hash)
      (MaterialPlan.ofProgram job.hash program job.info.pixel).document
      = (.error cause, after)) :
    batch.writeMaterial storage files job program
      = (.error (.plan (.writing (batch.planPath job.hash) cause)), after) := by
  simp only [writeMaterial, MaterialPlan.saveOn, hshader, hplan]

theorem writeMaterial_of_ok (hplan : withShader.writeOn storage (batch.planPath job.hash)
      (MaterialPlan.ofProgram job.hash program job.info.pixel).document = (.ok (), after)) :
    batch.writeMaterial storage files job program
      = (.ok ⟨job.hash, batch.shaderPath job.hash, batch.planPath job.hash⟩, after) := by
  simp only [writeMaterial, MaterialPlan.saveOn, hshader, hplan]

end Material

namespace Attempt

variable (batch : Batch) {attempt : Attempt}

/-- An attempt that has written the shader goes on with the plan. -/
theorem course_of_shader {program : Program} {withShader : FileTree}
    (hconverted : (attempt.converted batch).value = .ok program)
    (htext : (attempt.converting batch).files.writeText (batch.shaderPath attempt.job.hash)
      (attempt.plan program).code = .ok withShader)
    (hshader : (attempt.converting batch).files.writeOn (attempt.converting batch).storage
      (batch.shaderPath attempt.job.hash) (attempt.plan program).code = (.ok (), withShader)) :
    attempt.Course batch := by
  have hwritten := written_of_ok batch hconverted
  -- The plan is saved if its write goes well, and whatever becomes of it, the shader stays.
  cases withShader.writeCourse (attempt.converting batch).storage
      (batch.planPath attempt.job.hash) (attempt.plan program).document with
  | barred cause _ hplan =>
    rw [writeMaterial_of_plan_error hshader hplan] at hwritten
    exact .unsaved program withShader _ hconverted htext rfl hplan (by rw [hwritten])
      (by rw [hwritten])
  | refused wording hplan =>
    rw [writeMaterial_of_plan_error hshader hplan] at hwritten
    exact .unsaved program withShader _ hconverted htext rfl hplan (by rw [hwritten])
      (by rw [hwritten])
  | brokenOff bytes wording withStart hstart hplan =>
    rw [writeMaterial_of_plan_error hshader hplan] at hwritten
    exact .planBrokenOff program withShader bytes wording withStart hconverted htext hstart
      (by rw [hwritten]) (by rw [hwritten])
  | done withPlan hdocument hplan =>
    rw [writeMaterial_of_ok hshader hplan] at hwritten
    exact .done program withShader withPlan hconverted htext hdocument (by rw [hwritten])
      (by rw [hwritten])

/-- Each attempt goes one of these ways: it stops at the first of its three steps that fails. -/
theorem course (attempt : Attempt) : attempt.Course batch := by
  cases hconverted : (attempt.converted batch).value with
  | error error =>
    have hwritten := written_of_error batch hconverted
    exact .unconverted error hconverted (by rw [hwritten]) (by rw [hwritten])
  | ok program =>
    have hwritten := written_of_ok batch hconverted
    cases (attempt.converting batch).files.writeCourse (attempt.converting batch).storage
        (batch.shaderPath attempt.job.hash) (attempt.plan program).code with
    | barred cause _ hshader =>
      rw [writeMaterial_of_error hshader] at hwritten
      exact .unwritten program _ hconverted rfl (by rw [hwritten]) (by rw [hwritten]; rfl)
    | refused wording hshader =>
      rw [writeMaterial_of_error hshader] at hwritten
      exact .unwritten program _ hconverted rfl (by rw [hwritten]) (by rw [hwritten]; rfl)
    | brokenOff bytes wording withStart hstart hshader =>
      rw [writeMaterial_of_error hshader] at hwritten
      exact .shaderBrokenOff program bytes wording withStart hconverted hstart (by rw [hwritten])
        (by rw [hwritten])
    | done withShader htext hshader => exact course_of_shader batch hconverted htext hshader

/-- An attempt that succeeds has converted and written the shader and saved the plan. -/
theorem exists_of_result_eq_ok {batch : Batch} {material : Product}
    (h : (attempt.written batch).result = .ok material) :
    ∃ program withShader, (attempt.converted batch).value = .ok program
      ∧ (attempt.converting batch).files.writeText (batch.shaderPath attempt.job.hash)
        (attempt.plan program).code = .ok withShader
      ∧ withShader.writeText (batch.planPath attempt.job.hash) (attempt.plan program).document
        = .ok (attempt.written batch).files
      ∧ material = ⟨attempt.job.hash, batch.shaderPath attempt.job.hash,
        batch.planPath attempt.job.hash⟩ := by
  cases attempt.course batch with
  | unconverted _ _ hresult => cases hresult.symm.trans h
  | unwritten _ _ _ _ hresult => cases hresult.symm.trans h
  | shaderBrokenOff _ _ _ _ _ _ hresult => cases hresult.symm.trans h
  | unsaved _ _ _ _ _ _ _ hresult => cases hresult.symm.trans h
  | planBrokenOff _ _ _ _ _ _ _ _ hresult => cases hresult.symm.trans h
  | done program withShader withPlan hprogram hshader hplan hresult hspace =>
    have hfiles : (attempt.written batch).files = withPlan := congrArg Workspace.files hspace
    refine ⟨program, withShader, hprogram, hshader, ?_, Except.ok.inj (h.symm.trans hresult)⟩
    rw [hplan, hfiles]

theorem changesOnly_converting (hlog : attempt.start.LogIsFile) :
    Workspace.ChangesOnly attempt.start.logPlaces attempt.start (attempt.converting batch) :=
  Workspace.changesOnly_recorded hlog _

theorem workDir_converting (hlog : attempt.start.LogIsFile) :
    (attempt.converting batch).files.workDir = attempt.start.files.workDir :=
  (changesOnly_converting batch hlog).files.workDir_eq

section Writing

variable {batch} {content content' : Content} {files withShader : FileTree}

/-- Writing the shader, or its start, changes what is at its place. -/
theorem changesOnly_of_shader (hlog : attempt.start.LogIsFile)
    (hshader : (attempt.converting batch).files.writeContent (batch.shaderPath attempt.job.hash)
      content = .ok files) :
    (attempt.converting batch).files.ChangesOnly [attempt.shaderPlace batch] files := by
  have hfiles := FileTree.ChangesOnly.of_writeContent hshader
  rwa [workDir_converting batch hlog] at hfiles

theorem workDir_of_shader (hlog : attempt.start.LogIsFile)
    (hshader : (attempt.converting batch).files.writeContent (batch.shaderPath attempt.job.hash)
      content = .ok files) : files.workDir = attempt.start.files.workDir :=
  (changesOnly_of_shader hlog hshader).workDir_eq.trans (workDir_converting batch hlog)

theorem entryAt?_of_shader (hlog : attempt.start.LogIsFile)
    (hshader : (attempt.converting batch).files.writeContent (batch.shaderPath attempt.job.hash)
      content = .ok files) : files.entryAt? (attempt.shaderPlace batch) = some (.file content) := by
  have hentry := FileTree.entryAt?_of_writeContent hshader
  rwa [workDir_converting batch hlog] at hentry

section Plan

variable (hlog : attempt.start.LogIsFile)
  (hshader : (attempt.converting batch).files.writeContent (batch.shaderPath attempt.job.hash)
    content = .ok withShader)
  (hplan : withShader.writeContent (batch.planPath attempt.job.hash) content' = .ok files)

include hlog hshader hplan

/-- Writing the plan after that, or its start, changes what is at the place of the plan. -/
theorem changesOnly_of_plan : withShader.ChangesOnly [attempt.planPlace batch] files := by
  have hfiles := FileTree.ChangesOnly.of_writeContent hplan
  rwa [workDir_of_shader hlog hshader] at hfiles

theorem entryAt?_of_plan : files.entryAt? (attempt.planPlace batch) = some (.file content') := by
  have hentry := FileTree.entryAt?_of_writeContent hplan
  rwa [workDir_of_shader hlog hshader] at hentry

/-- A plan that has another place leaves the shader as it was written. -/
theorem entryAt?_shaderPlace_of_plan (hplaces : attempt.shaderPlace batch ≠ attempt.planPlace batch) :
    files.entryAt? (attempt.shaderPlace batch) = some (.file content) := by
  have hchanges := changesOnly_of_plan hlog hshader hplan
  rw [hchanges.entryAt?_eq _ (by simpa using hplaces), entryAt?_of_shader hlog hshader]

/-- The two writes together change what is at either place. -/
theorem changesOnly_of_shader_of_plan : (attempt.converting batch).files.ChangesOnly
    [attempt.shaderPlace batch, attempt.planPlace batch] files :=
  ((changesOnly_of_shader hlog hshader).mono (by simp)).trans
    ((changesOnly_of_plan hlog hshader hplan).mono (by simp))

end Plan

end Writing

/-- An attempt writes its places and the log file. -/
theorem changesOnly_written (hlog : attempt.start.LogIsFile) :
    Workspace.ChangesOnly (attempt.start.logPlaces ++ attempt.places batch) attempt.start
      (attempt.written batch).space := by
  have hconverting := (changesOnly_converting batch hlog).mono
    (List.subset_append_left _ (attempt.places batch))
  cases attempt.course batch with
  | unconverted _ _ _ hspace => rwa [hspace]
  | unwritten _ _ _ _ _ hspace => rwa [hspace]
  | shaderBrokenOff _ _ _ _ _ hstart hresult hspace =>
    rw [hspace]
    refine hconverting.trans (.withFiles ((changesOnly_of_shader hlog hstart).mono ?_))
    simp [places, hresult, WriteError.isOpened]
  | unsaved _ _ _ _ hshader hcause _ hresult hspace =>
    rw [hspace]
    refine hconverting.trans (.withFiles ((changesOnly_of_shader hlog hshader).mono ?_))
    simp [places, hresult, hcause]
  | planBrokenOff _ _ _ _ _ _ hshader hstart hresult hspace =>
    rw [hspace]
    refine hconverting.trans (.withFiles ((changesOnly_of_shader_of_plan hlog hshader hstart).mono ?_))
    simp [places, hresult, WriteError.isOpened]
  | done _ _ _ _ hshader hplan hresult hspace =>
    rw [hspace]
    refine hconverting.trans (.withFiles ((changesOnly_of_shader_of_plan hlog hshader hplan).mono ?_))
    simp [places, hresult]

/-- What stands after an attempt is on record differs from what it wrote by the log file. -/
theorem changesOnly_finish_written (hlog : attempt.start.LogIsFile) :
    Workspace.ChangesOnly attempt.start.logPlaces (attempt.written batch).space
      (attempt.finish batch) := by
  have hwritten := changesOnly_written batch hlog
  rw [← hwritten.logPlaces_eq]
  exact Workspace.changesOnly_recorded (hwritten.logIsFile hlog) _

theorem changesOnly_finish (hlog : attempt.start.LogIsFile) :
    Workspace.ChangesOnly (attempt.start.logPlaces ++ attempt.places batch) attempt.start
      (attempt.finish batch) :=
  (changesOnly_written batch hlog).trans
    ((changesOnly_finish_written batch hlog).mono (List.subset_append_left _ _))

end Attempt

/-! ## One Attempt after Another -/

/-- The attempts at a list of materials, the first one first. -/
def attemptsFrom (batch : Batch) (space : Workspace) : List Job → List Attempt
  | [] => []
  | job :: jobs => ⟨job, space⟩ :: attemptsFrom batch (Attempt.finish batch ⟨job, space⟩) jobs

/-- The workspace after a list of materials was attempted. -/
def finishFrom (batch : Batch) (space : Workspace) (jobs : List Job) : Workspace :=
  jobs.foldl (fun space job => Attempt.finish batch ⟨job, space⟩) space

variable {batch : Batch}

theorem map_job_attemptsFrom (batch : Batch) (space : Workspace) (jobs : List Job) :
    (batch.attemptsFrom space jobs).map Attempt.job = jobs := by
  induction jobs generalizing space with
  | nil => rfl
  | cons job jobs ih => rw [attemptsFrom, List.map_cons, ih]

theorem attemptsFrom_append (batch : Batch) (space : Workspace) (first second : List Job) :
    batch.attemptsFrom space (first ++ second) = batch.attemptsFrom space first
      ++ batch.attemptsFrom (batch.finishFrom space first) second := by
  induction first generalizing space with
  | nil => rfl
  | cons job first ih =>
    rw [List.cons_append, attemptsFrom, attemptsFrom, ih, List.cons_append]
    rfl

/-- The first attempts are those at the first materials. -/
theorem attemptsFrom_map_job {space : Workspace} {jobs : List Job} {first second : List Attempt}
    (h : batch.attemptsFrom space jobs = first ++ second) :
    batch.attemptsFrom space (first.map Attempt.job) = first := by
  have hjobs := map_job_attemptsFrom batch space jobs
  rw [h, List.map_append] at hjobs
  rw [← hjobs, attemptsFrom_append] at h
  have hlength := congrArg List.length
    (map_job_attemptsFrom batch space (first.map Attempt.job))
  rw [List.length_map, List.length_map] at hlength
  exact (List.append_inj h hlength).1

theorem result_addMaterial (space : Workspace) (report : Report) (job : Job) :
    (batch.addMaterial space report job).result
      = ⟨report.converted ++ (Attempt.product? batch ⟨job, space⟩).toList,
        report.failed ++ (Attempt.failure? batch ⟨job, space⟩).toList⟩ := by
  unfold addMaterial Attempt.product? Attempt.failure? Attempt.written
  cases hresult : (batch.convertJob space job).result <;>
    simp [hresult, Report.addConverted, Report.addFailed]

/-- Attempts add their products and their failures to a report. -/
theorem addMaterials_eq (batch : Batch) (space : Workspace) (report : Report) (jobs : List Job) :
    (batch.addMaterials space report jobs).result
        = ⟨report.converted ++ (batch.attemptsFrom space jobs).filterMap (Attempt.product? batch),
          report.failed ++ (batch.attemptsFrom space jobs).filterMap (Attempt.failure? batch)⟩
      ∧ (batch.addMaterials space report jobs).space = batch.finishFrom space jobs := by
  induction jobs generalizing space report with
  | nil => simp [addMaterials, attemptsFrom, finishFrom]
  | cons job jobs ih =>
    obtain ⟨hresult, hspace⟩ := ih (batch.addMaterial space report job).space
      (batch.addMaterial space report job).result
    refine ⟨hresult.trans ?_, hspace⟩
    have hstart : (batch.addMaterial space report job).space
        = Attempt.finish batch ⟨job, space⟩ := rfl
    rw [result_addMaterial, hstart, attemptsFrom, List.filterMap_cons, List.filterMap_cons]
    cases Attempt.product? batch ⟨job, space⟩ <;> cases Attempt.failure? batch ⟨job, space⟩ <;> simp

theorem changesOnly_finishFrom (batch : Batch) {space : Workspace} (hlog : space.LogIsFile)
    (jobs : List Job) : Workspace.ChangesOnly
      (space.logPlaces ++ (batch.attemptsFrom space jobs).flatMap (Attempt.places batch)) space
      (batch.finishFrom space jobs) := by
  induction jobs generalizing space with
  | nil => exact .refl ..
  | cons job jobs ih =>
    have hstart : (Attempt.mk job space).start.LogIsFile := hlog
    have hfirst := Attempt.changesOnly_finish batch hstart
    have hrest := ih (hfirst.logIsFile hlog)
    rw [hfirst.logPlaces_eq] at hrest
    refine (hfirst.mono ?_).trans (hrest.mono ?_)
    · simp [attemptsFrom]
    · simp [attemptsFrom]

/-- Where an attempt starts, and what follows it. -/
theorem attemptsFrom_eq_append_cons {space : Workspace} {jobs : List Job} {attempt : Attempt}
    {before after : List Attempt} (h : batch.attemptsFrom space jobs = before ++ attempt :: after) :
    attempt.start = batch.finishFrom space (before.map Attempt.job)
      ∧ after = batch.attemptsFrom (attempt.finish batch) (after.map Attempt.job)
      ∧ batch.finishFrom space jobs
        = batch.finishFrom (attempt.finish batch) (after.map Attempt.job) := by
  -- Attempt by attempt up to the one that is looked at.
  induction before generalizing space jobs with
  | nil =>
    cases jobs with
    | nil => cases h
    | cons job jobs =>
      cases h
      rw [map_job_attemptsFrom batch]
      exact ⟨rfl, rfl, rfl⟩
  | cons first before ih =>
    cases jobs with
    | nil => cases h
    | cons job jobs =>
      obtain ⟨rfl, hrest⟩ := List.cons.inj h
      exact ih hrest

/-! ## The Whole Batch -/

variable (batch) (space : Workspace)

/-- The workspace with the output directory, as far as it could be created. -/
def prepared : Workspace := space.withFiles (space.files.createDirectories batch.outputDir).2

/-- The collected materials, and the report of the info files that failed. -/
def collected : Logged Collection := Collection.ofRoot (batch.prepared space) batch.root .empty

/-- The workspace that the first attempt starts in. -/
def started : Workspace :=
  (batch.prepared space).recorded ((batch.collected space).log ++ [⟨.info, .batch, "found "
    ++ Text.ofNat (batch.collected space).value.jobList.length ++ " material(s) under "
    ++ batch.root⟩])

/-- The attempts of a batch. -/
def attempts : List Attempt :=
  batch.attemptsFrom (batch.started space) (batch.collected space).value.jobList

variable {batch space}

/-- A batch reports what its attempts come to. -/
theorem run_eq_ok {report : Report} (hrun : (batch.run space).result = .ok report) :
    report = ⟨(batch.attempts space).filterMap (Attempt.product? batch),
        (batch.collected space).value.report.failed
          ++ (batch.attempts space).filterMap (Attempt.failure? batch)⟩
      ∧ (batch.run space).space
        = batch.finishFrom (batch.started space) (batch.collected space).value.jobList := by
  obtain ⟨hresult, hspace⟩ := addMaterials_eq batch (batch.started space)
    (batch.collected space).value.report (batch.collected space).value.jobList
  have hconverted : (batch.collected space).value.report.converted = [] :=
    Collection.converted_ofRoot ..
  rw [hconverted, List.nil_append] at hresult
  unfold run at hrun ⊢
  cases hcreate : space.files.createDirectories batch.outputDir with
  | mk created files =>
    rw [hcreate] at hrun
    have hprepared : space.withFiles files = batch.prepared space := by rw [prepared, hcreate]
    cases created with
    | error cause => cases hrun
    | ok _ =>
      simp only [hprepared] at hrun ⊢
      exact ⟨(Except.ok.inj hrun).symm.trans hresult, hspace⟩

/-- A batch fails as a whole if its output directory cannot be created. -/
theorem result_run_eq_error_iff {cause : FileError} : (batch.run space).result = .error cause
    ↔ (space.files.createDirectories batch.outputDir).1 = .error cause := by
  unfold run
  cases hcreate : space.files.createDirectories batch.outputDir with
  | mk created files => cases created <;> simp

/-- A batch that fails as a whole only tried to create its output directory. -/
theorem run_eq_error {cause : FileError} (hrun : (batch.run space).result = .error cause) :
    (batch.run space).space = batch.prepared space := by
  unfold run at hrun ⊢
  cases hcreate : space.files.createDirectories batch.outputDir with
  | mk created files =>
    rw [hcreate] at hrun
    cases created with
    | error cause => simp only [prepared, hcreate]
    | ok _ => cases hrun

/-! ## From the Start to an Attempt, and on to the End -/

theorem logIsFile_prepared (hlog : space.LogIsFile) : (batch.prepared space).LogIsFile := by
  intro location hlocation
  obtain ⟨content, hcontent⟩ := hlog location hlocation
  exact ⟨content, (FileTree.addsDirectories_createDirectories ..).file_iff.2 hcontent⟩

/-- Before the first attempt the log file is written. -/
theorem changesOnly_started (batch : Batch) (hlog : space.LogIsFile) :
    Workspace.ChangesOnly space.logPlaces (batch.prepared space) (batch.started space) :=
  Workspace.changesOnly_recorded (logIsFile_prepared hlog) _

theorem logIsFile_started (batch : Batch) (hlog : space.LogIsFile) :
    (batch.started space).LogIsFile :=
  (changesOnly_started batch hlog).logIsFile (logIsFile_prepared hlog)

theorem workDir_prepared (batch : Batch) (space : Workspace) :
    (batch.prepared space).files.workDir = space.files.workDir :=
  (FileTree.addsDirectories_createDirectories ..).workDir_eq

/-- What an attempt has in common with the start of the batch. -/
structure Attempt.IsOf (space : Workspace) (attempt : Attempt) : Prop where
  /-- What is open as a log file is a file. -/
  logIsFile : attempt.start.LogIsFile
  /-- The log file stands where it stood. -/
  logPlaces_eq : attempt.start.logPlaces = space.logPlaces
  /-- The working directory is the same. -/
  workDir_eq : attempt.start.files.workDir = space.files.workDir

/-- Before an attempt only the places of earlier attempts and the log file are written. -/
theorem changesOnly_start (hlog : space.LogIsFile) {attempt : Attempt} {before after : List Attempt}
    (h : batch.attempts space = before ++ attempt :: after) :
    Workspace.ChangesOnly (space.logPlaces ++ before.flatMap (Attempt.places batch))
      (batch.prepared space) attempt.start := by
  have hstarted := changesOnly_started batch hlog
  have hbefore :=
    changesOnly_finishFrom batch (logIsFile_started batch hlog) (before.map Attempt.job)
  rw [attemptsFrom_map_job h, ← (attemptsFrom_eq_append_cons h).1, hstarted.logPlaces_eq] at hbefore
  exact (hstarted.mono (List.subset_append_left _ _)).trans hbefore

theorem isOf_of_mem_attempts (hlog : space.LogIsFile) {attempt : Attempt}
    (h : attempt ∈ batch.attempts space) : attempt.IsOf space := by
  obtain ⟨before, after, hattempts⟩ := List.append_of_mem h
  have hstart := changesOnly_start hlog hattempts
  constructor
  · exact hstart.logIsFile (logIsFile_prepared hlog)
  · exact hstart.logPlaces_eq
  · exact hstart.files.workDir_eq.trans (workDir_prepared batch space)

/-- After an attempt only the places of later attempts and the log file are written. -/
theorem changesOnly_of_attempts_eq (hlog : space.LogIsFile) {report : Report}
    (hrun : (batch.run space).result = .ok report) {attempt : Attempt} {before after : List Attempt}
    (h : batch.attempts space = before ++ attempt :: after) :
    Workspace.ChangesOnly (space.logPlaces ++ after.flatMap (Attempt.places batch))
      (attempt.written batch).space (batch.run space).space := by
  have hof : attempt.IsOf space :=
    isOf_of_mem_attempts hlog (h ▸ List.mem_append_right before List.mem_cons_self)
  obtain ⟨-, hafter, hfinish⟩ := attemptsFrom_eq_append_cons h
  have hrecorded := Attempt.changesOnly_finish_written batch hof.logIsFile
  have hattempt := Attempt.changesOnly_finish batch hof.logIsFile
  have hrest := changesOnly_finishFrom batch (hattempt.logIsFile hof.logIsFile)
    (after.map Attempt.job)
  rw [← hafter, hattempt.logPlaces_eq, hof.logPlaces_eq] at hrest
  rw [hof.logPlaces_eq] at hrecorded
  rw [(run_eq_ok hrun).2, hfinish]
  exact (hrecorded.mono (List.subset_append_left _ _)).trans hrest

/-- Once its output directory is created a batch writes the places of its attempts and the log
file. -/
theorem changesOnly_run (batch : Batch) (hlog : space.LogIsFile) : Workspace.ChangesOnly
    (space.logPlaces ++ (batch.attempts space).flatMap (Attempt.places batch))
    (batch.prepared space) (batch.run space).space := by
  cases hrun : (batch.run space).result with
  | error cause =>
    rw [run_eq_error hrun]
    exact .refl ..
  | ok report =>
    have hstarted := changesOnly_started batch hlog
    have hattempts := changesOnly_finishFrom batch (logIsFile_started batch hlog)
      (batch.collected space).value.jobList
    rw [hstarted.logPlaces_eq] at hattempts
    rw [(run_eq_ok hrun).2]
    exact (hstarted.mono (List.subset_append_left _ _)).trans hattempts

theorem workDir_run (batch : Batch) (hlog : space.LogIsFile) :
    (batch.run space).files.workDir = space.files.workDir :=
  (changesOnly_run batch hlog).files.workDir_eq.trans (workDir_prepared batch space)

/-- Elsewhere a batch leaves files as they are. -/
theorem file_run_iff (hlog : space.LogIsFile) {location : Location} {content : Content}
    (hlocation : location ∉ space.logPlaces)
    (hplaces : ∀ attempt ∈ batch.attempts space, location ∉ attempt.places batch) :
    (batch.run space).space.files.entryAt? location = some (.file content)
      ↔ space.files.entryAt? location = some (.file content) := by
  have hnot : location
      ∉ space.logPlaces ++ (batch.attempts space).flatMap (Attempt.places batch) := by
    rw [List.mem_append, List.mem_flatMap]
    rintro (hmem | ⟨attempt, hattempt, hmem⟩)
    · exact hlocation hmem
    · exact hplaces attempt hattempt hmem
  rw [(changesOnly_run batch hlog).files.entryAt?_eq location hnot]
  exact (FileTree.addsDirectories_createDirectories ..).file_iff

theorem mem_jobList_of_mem_attempts {attempt : Attempt} (h : attempt ∈ batch.attempts space) :
    attempt.job ∈ (batch.collected space).value.jobList := by
  rw [← map_job_attemptsFrom batch (batch.started space)
    (batch.collected space).value.jobList]
  exact List.mem_map_of_mem h

/-- No two attempts are at one material. -/
theorem pairwise_hash_attempts (batch : Batch) (space : Workspace) :
    (batch.attempts space).Pairwise fun a b => a.job.hash ≠ b.job.hash := by
  have hjobs : (batch.collected space).value.jobList.Pairwise fun a b => a.hash ≠ b.hash := by
    have hkeyed : (batch.collected space).value.IsKeyed := Collection.isKeyed_ofRoot _ _ _
    refine (Collection.pairwise_jobList hkeyed).imp ?_
    intro first second hbefore heq
    rw [heq, SortKey.irrefl] at hbefore
    cases hbefore
  rw [← map_job_attemptsFrom batch (batch.started space)
    (batch.collected space).value.jobList, List.pairwise_map] at hjobs
  exact hjobs

end Batch

end MaterialNode
