import Mathlib.Data.List.Nodup
import MaterialNode.CommandLine.Run
import MaterialNode.Proofs.Batch.Attempts
import MaterialNode.Proofs.Files.Hierarchy

/-!
# The Account of a Batch

The report of a batch accounts for each info file under the root and for each collected material. An
info file that cannot be loaded has one entry, in the order in which the files are read. A material
is either converted or has one entry, which comes after those of the info files.

The records of a batch go to the log file before the next file is read, and an info file can be the
log file itself. What an info file holds is therefore told together with the files it is read from.

## Main definitions

* `InfoFile.Reading`: an info file with the files that it is read from.
* `Batch.readings`: the info files of a batch in the order in which they are read.
* `Batch.Report.Accounts`: a report accounts for info files and materials.

## Main results

* `Batch.accounts_of_run`: the report of a batch accounts for its info files and its materials.
* `Batch.exists_accounts_run`: a batch whose output directory can be created has such a report, and
  succeeds if every info file is loaded and every material converted.
-/

namespace MaterialNode

/-! ## The Readings of Info Files -/

/-- The reading of an info file. -/
structure InfoFile.Reading where
  /-- The path of the info file. -/
  path : Text
  /-- The files that it is read from. -/
  files : FileTree

namespace InfoFile.Reading

/-- The failure of the reading, if the info file cannot be loaded. -/
def failure? (reading : Reading) : Option Batch.Failure :=
  InfoFile.failure? reading.files reading.path

theorem failure?_eq_none_iff {reading : Reading} : reading.failure? = none
    ↔ ∃ info, (InfoFile.load reading.files reading.path).value = .ok info := by
  unfold failure? InfoFile.failure?
  cases (InfoFile.load reading.files reading.path).value <;> simp

end InfoFile.Reading

namespace Collection

/-- The readings of a list of info files, the first one first. -/
def readingsFrom (space : Workspace) (root : Text) (collection : Collection) :
    List Text → List InfoFile.Reading
  | [] => []
  | path :: rest =>
    let first := addFile space root collection path
    ⟨path, space.files⟩ :: readingsFrom (space.recorded first.log) root first.value rest

theorem map_path_readingsFrom (space : Workspace) (root : Text) (collection : Collection)
    (paths : List Text) :
    (readingsFrom space root collection paths).map InfoFile.Reading.path = paths := by
  induction paths generalizing space collection with
  | nil => rfl
  | cons path paths ih => rw [readingsFrom, List.map_cons, ih]

/-- The failures of the readings are added to the report, one by one. -/
theorem report_addFiles_eq (space : Workspace) (root : Text) (collection : Collection)
    (paths : List Text) : (addFiles space root collection paths).value.report
      = { collection.report with
          failed := collection.report.failed ++
            (readingsFrom space root collection paths).filterMap InfoFile.Reading.failure? } := by
  induction paths generalizing space collection with
  | nil => simp [addFiles, readingsFrom]
  | cons path paths ih =>
    refine (ih _ _).trans ?_
    rw [report_addFile, readingsFrom, List.filterMap_cons, InfoFile.Reading.failure?]
    cases InfoFile.failure? space.files path <;> simp

end Collection

/-! ## Converted or Failed -/

namespace Batch.Attempt

variable {batch : Batch} {attempt : Attempt}

/-- An attempt comes to a product or to a failure, and either names its material. -/
theorem product_or_failure (batch : Batch) (attempt : Attempt) :
    (∃ product, attempt.product? batch = some product ∧ product.hash = attempt.job.hash
        ∧ attempt.failure? batch = none)
      ∨ ∃ failure, attempt.failure? batch = some failure ∧ failure.subject = attempt.job.hash
        ∧ attempt.product? batch = none := by
  unfold product? failure?
  cases hresult : (attempt.written batch).result with
  | error error => exact .inr ⟨_, rfl, rfl, rfl⟩
  | ok material =>
    obtain ⟨_, _, -, -, -, rfl⟩ := exists_of_result_eq_ok hresult
    exact .inl ⟨_, rfl, rfl, rfl⟩

theorem hash_of_product? {product : Product} (h : attempt.product? batch = some product) :
    product.hash = attempt.job.hash := by
  rcases product_or_failure batch attempt with ⟨other, hother, hhash, -⟩ | ⟨-, -, -, hnone⟩
  · rw [hother] at h
    exact Option.some.inj h ▸ hhash
  · rw [hnone] at h
    cases h

theorem subject_of_failure? {failure : Failure} (h : attempt.failure? batch = some failure) :
    failure.subject = attempt.job.hash := by
  rcases product_or_failure batch attempt with ⟨-, -, -, hnone⟩ | ⟨other, hother, hsubject, -⟩
  · rw [hnone] at h
    cases h
  · rw [hother] at h
    exact Option.some.inj h ▸ hsubject

/-- Products and failures are as many as attempts. -/
theorem length_filterMap_add (batch : Batch) (attempts : List Attempt) :
    (attempts.filterMap (product? batch)).length + (attempts.filterMap (failure? batch)).length
      = attempts.length := by
  induction attempts with
  | nil => rfl
  | cons attempt attempts ih =>
    rw [List.filterMap_cons, List.filterMap_cons, List.length_cons]
    -- An attempt adds one to either count.
    rcases product_or_failure batch attempt with ⟨product, hproduct, -, hnone⟩
      | ⟨failure, hfailure, -, hnone⟩
    · simp only [hproduct, hnone, List.length_cons]
      omega
    · simp only [hfailure, hnone, List.length_cons]
      omega

end Batch.Attempt

/-! ## The Account -/

namespace Batch

/-- The info files of a batch in the order in which they are read. -/
def readings (batch : Batch) (space : Workspace) : List InfoFile.Reading :=
  let paths := InfoFile.filesUnder (batch.prepared space).files batch.root
  Collection.readingsFrom ((batch.prepared space).recorded paths.log) batch.root
    ⟨Table.empty, .empty⟩ paths.value

/-- A report accounts for a list of info files and for a list of materials, of which some fail. -/
structure Report.Accounts (report : Report) (readings : List InfoFile.Reading) (jobs : List Job)
    (losses : List Failure) : Prop where
  /-- The info files are read in ascending order of their paths, each once. -/
  readings_ascending : readings.Pairwise fun a b => Path.before a.path b.path = true
  /-- The materials come by ascending hash, each once. -/
  jobs_ascending : jobs.Pairwise fun a b => SortKey.before a.hash b.hash = true
  /-- The failures of the info files that cannot be loaded come first, then those of materials. -/
  failed_eq : report.failed = readings.filterMap InfoFile.Reading.failure? ++ losses
  /-- The converted materials come by ascending hash, each once. -/
  converted_ascending :
    report.converted.Pairwise fun a b => SortKey.before a.hash b.hash = true
  /-- The materials that fail come by ascending hash, each once. -/
  losses_ascending : losses.Pairwise fun a b => SortKey.before a.subject b.subject = true
  /-- No material is converted and fails as well. -/
  disjoint : ∀ product ∈ report.converted, ∀ loss ∈ losses, product.hash ≠ loss.subject
  /-- The materials are those that are converted and those that fail. -/
  exists_job_iff : ∀ hash, (∃ job ∈ jobs, job.hash = hash)
    ↔ (∃ product ∈ report.converted, product.hash = hash) ∨ ∃ loss ∈ losses, loss.subject = hash
  /-- There are as many entries as materials and info files that cannot be loaded. -/
  length_add_length : report.converted.length + report.failed.length
    = jobs.length + (readings.filterMap InfoFile.Reading.failure?).length

variable {batch : Batch} {space : Workspace}

theorem map_path_readings (batch : Batch) (space : Workspace) :
    (batch.readings space).map InfoFile.Reading.path
      = (InfoFile.filesUnder (batch.prepared space).files batch.root).value :=
  Collection.map_path_readingsFrom ..

/-- Info files are read in ascending order of their paths. -/
theorem pairwise_path_readings (batch : Batch) (hfiles : space.files.IsHierarchy) :
    (batch.readings space).Pairwise fun a b => Path.before a.path b.path = true := by
  have hwell : (batch.prepared space).files.IsWellFormed :=
    (hfiles.createDirectories batch.outputDir).toIsWellFormed
  have hpaths : ((batch.readings space).map InfoFile.Reading.path).Pairwise
      fun a b => Path.before a b = true := by
    rw [map_path_readings]
    exact InfoFile.pairwise_filesUnder hwell
  exact List.pairwise_map.1 hpaths

theorem failed_collected (batch : Batch) (space : Workspace) :
    (batch.collected space).value.report.failed
      = (batch.readings space).filterMap InfoFile.Reading.failure? := by
  have hreport := Collection.report_addFiles_eq ((batch.prepared space).recorded
    (InfoFile.filesUnder (batch.prepared space).files batch.root).log) batch.root
    ⟨Table.empty, .empty⟩ (InfoFile.filesUnder (batch.prepared space).files batch.root).value
  exact congrArg Report.failed hreport

theorem map_job_attempts (batch : Batch) (space : Workspace) :
    (batch.attempts space).map Attempt.job = (batch.collected space).value.jobList :=
  map_job_attemptsFrom ..

/-- Materials are attempted by ascending hash. -/
theorem pairwise_before_attempts (batch : Batch) (space : Workspace) :
    (batch.attempts space).Pairwise
      fun a b => SortKey.before a.job.hash b.job.hash = true := by
  have hjobs := Collection.pairwise_jobList
    (Collection.isKeyed_ofRoot (batch.prepared space) batch.root .empty)
  exact List.pairwise_map.1 ((map_job_attempts batch space).symm ▸ hjobs)

/-- No material is attempted twice. -/
theorem eq_of_hash_eq {first second : Attempt} (hfirst : first ∈ batch.attempts space)
    (hsecond : second ∈ batch.attempts space) (h : first.job.hash = second.job.hash) :
    first = second :=
  List.inj_on_of_nodup_map (l := batch.attempts space)
    (List.pairwise_map.2 (pairwise_hash_attempts batch space)) hfirst hsecond h

/-- A product and a failure with the same hash would be of one attempt, which comes to either. -/
theorem hash_ne_subject {product : Product} {loss : Failure}
    (hproduct : product ∈ (batch.attempts space).filterMap (Attempt.product? batch))
    (hloss : loss ∈ (batch.attempts space).filterMap (Attempt.failure? batch)) :
    product.hash ≠ loss.subject := by
  intro heq
  obtain ⟨first, hfirst, hproduct⟩ := List.mem_filterMap.1 hproduct
  obtain ⟨second, hsecond, hloss⟩ := List.mem_filterMap.1 hloss
  rw [Attempt.hash_of_product? hproduct, Attempt.subject_of_failure? hloss] at heq
  obtain rfl := eq_of_hash_eq hfirst hsecond heq
  rcases first.product_or_failure batch with ⟨_, -, -, hnone⟩ | ⟨_, -, -, hnone⟩
  · rw [hnone] at hloss
    cases hloss
  · rw [hnone] at hproduct
    cases hproduct

/-- The attempted materials are those of products and those of failures. -/
theorem exists_attempt_iff (hash : Text) : (∃ attempt ∈ batch.attempts space,
      attempt.job.hash = hash)
    ↔ (∃ product ∈ (batch.attempts space).filterMap (Attempt.product? batch), product.hash = hash)
      ∨ ∃ loss ∈ (batch.attempts space).filterMap (Attempt.failure? batch),
        loss.subject = hash := by
  constructor
  · rintro ⟨attempt, hattempt, rfl⟩
    rcases attempt.product_or_failure batch with ⟨product, hproduct, hhash, -⟩
      | ⟨loss, hloss, hsubject, -⟩
    · exact .inl ⟨product, List.mem_filterMap.2 ⟨attempt, hattempt, hproduct⟩, hhash⟩
    · exact .inr ⟨loss, List.mem_filterMap.2 ⟨attempt, hattempt, hloss⟩, hsubject⟩
  · rintro (⟨product, hproduct, rfl⟩ | ⟨loss, hloss, rfl⟩)
    · obtain ⟨attempt, hattempt, hproduct⟩ := List.mem_filterMap.1 hproduct
      exact ⟨attempt, hattempt, (Attempt.hash_of_product? hproduct).symm⟩
    · obtain ⟨attempt, hattempt, hloss⟩ := List.mem_filterMap.1 hloss
      exact ⟨attempt, hattempt, (Attempt.subject_of_failure? hloss).symm⟩

/-- The report of a batch accounts for its info files and its materials. -/
theorem accounts_of_run (hfiles : space.files.IsHierarchy) {report : Report}
    (hrun : (batch.run space).result = .ok report) :
    report.Accounts (batch.readings space) (batch.collected space).value.jobList
      ((batch.attempts space).filterMap (Attempt.failure? batch)) := by
  obtain ⟨hreport, -⟩ := run_eq_ok hrun
  rw [failed_collected] at hreport
  subst hreport
  have hattempts := pairwise_before_attempts batch space
  constructor
  · exact pairwise_path_readings batch hfiles
  · rw [← map_job_attempts]
    exact List.pairwise_map.2 hattempts
  · rfl
  · -- Products keep the hashes of their attempts, and so their order.
    refine List.pairwise_filterMap.2 (hattempts.imp ?_)
    intro first second hbefore product hproduct other hother
    rwa [Attempt.hash_of_product? hproduct, Attempt.hash_of_product? hother]
  · refine List.pairwise_filterMap.2 (hattempts.imp ?_)
    intro first second hbefore failure hfailure other hother
    rwa [Attempt.subject_of_failure? hfailure, Attempt.subject_of_failure? hother]
  · exact fun product hproduct loss hloss => hash_ne_subject hproduct hloss
  · intro hash
    rw [← map_job_attempts, ← exists_attempt_iff]
    simp only [List.mem_map, exists_exists_and_eq_and]
  · have hlength := Attempt.length_filterMap_add batch (batch.attempts space)
    rw [← List.length_map Attempt.job, map_job_attempts] at hlength
    simp only [List.length_append]
    omega

/-- A report that accounts for info files and materials is clean if none of them failed. -/
theorem Report.Accounts.isClean_iff {report : Report} {readings : List InfoFile.Reading}
    {jobs : List Job} {losses : List Failure} (h : report.Accounts readings jobs losses) :
    report.isClean = true
      ↔ (∀ reading ∈ readings, ∃ info, (InfoFile.load reading.files reading.path).value = .ok info)
        ∧ ∀ job ∈ jobs, ∃ product ∈ report.converted, product.hash = job.hash := by
  have hclean : report.isClean = true
      ↔ readings.filterMap InfoFile.Reading.failure? = [] ∧ losses = [] := by
    rw [isClean, List.isEmpty_iff, h.failed_eq, List.append_eq_nil_iff]
  -- A job is converted unless it is lost, and a loss is no product.
  have hlosses : losses = []
      ↔ ∀ job ∈ jobs, ∃ product ∈ report.converted, product.hash = job.hash := by
    constructor
    · rintro hnil job hjob
      refine ((h.exists_job_iff job.hash).1 ⟨job, hjob, rfl⟩).resolve_right ?_
      simp [hnil]
    · intro hjobs
      refine List.eq_nil_iff_forall_not_mem.2 fun loss hloss => ?_
      obtain ⟨job, hjob, hhash⟩ := (h.exists_job_iff loss.subject).2 (.inr ⟨loss, hloss, rfl⟩)
      obtain ⟨product, hproduct, hconverted⟩ := hjobs job hjob
      exact h.disjoint product hproduct loss hloss (hconverted.trans hhash)
  simp only [hclean, hlosses, List.filterMap_eq_nil_iff, InfoFile.Reading.failure?_eq_none_iff]

/-- A batch whose output directory can be created goes through all its materials. -/
theorem exists_run_eq_ok (h : (space.files.createDirectories batch.outputDir).1 = .ok ()) :
    ∃ report, (batch.run space).result = .ok report := by
  unfold run
  cases hcreate : space.files.createDirectories batch.outputDir with
  | mk created files =>
    rw [hcreate] at h
    cases h
    exact ⟨_, rfl⟩

theorem exit_batchResult {report : Report} (hrun : (batch.run space).result = .ok report) :
    (batchResult batch space).exit = .ok report.exitCode := by
  unfold batchResult
  simp only [hrun]

/-- If its output directory can be created, a batch reports for each info file that cannot be loaded
and for each material what became of it, and it succeeds if nothing failed. -/
theorem exists_accounts_run (hfiles : space.files.IsHierarchy)
    (hcreate : (space.files.createDirectories batch.outputDir).1 = .ok ()) :
    ∃ report losses, (batch.run space).result = .ok report
      ∧ (batch.readings space).map InfoFile.Reading.path
        = (InfoFile.filesUnder (batch.prepared space).files batch.root).value
      ∧ report.Accounts (batch.readings space) (batch.collected space).value.jobList losses
      ∧ ((batchResult batch space).exit = .ok 0
        ↔ (∀ reading ∈ batch.readings space, ∃ info,
              (InfoFile.load reading.files reading.path).value = .ok info)
          ∧ ∀ job ∈ (batch.collected space).value.jobList,
              ∃ product ∈ report.converted, product.hash = job.hash) := by
  obtain ⟨report, hrun⟩ := exists_run_eq_ok hcreate
  have haccounts := accounts_of_run hfiles hrun
  refine ⟨report, _, hrun, map_path_readings batch space, haccounts, ?_⟩
  -- The exit code is zero if the report is clean.
  rw [← haccounts.isClean_iff, exit_batchResult hrun, Report.exitCode]
  cases report.isClean <;> simp

/-- An export with an info file that cannot be loaded, a material without a shader and one that can
be converted. The log is written beside the results. -/
def mixedExport : Workspace where
  files := {
    workDir := []
    table := Table.ofList [
      (["t.usf".toList], .file (.text "return output;".toList)),
      (["export".toList], .directory),
      (["export".toList, "Shaders".toList], .directory),
      (["export".toList, "Shaders".toList, "PS_B.hlsl".toList],
        .file (.text "// ps_5_0\n  float4 r0,r1;\n  return;".toList)),
      (["export".toList, "a_info.cfg".toList], .file (.text "-".toList)),
      (["export".toList, "b_info.cfg".toList],
        .file (.text "\x7b\"Materials\":\x7b\"A\":\x7b\x7d,\"B\":\x7b\x7d\x7d\x7d".toList)),
      (["log".toList], .file (.text []))] }
  logFile := some ⟨["log".toList], .info, "0"⟩

/-- The batch that converts the mixed export. -/
def mixedBatch : Batch := ⟨"export", "export/usf", "t.usf", "usf"⟩

theorem exists_accounts_run_mixedExport :
    mixedExport.files.IsHierarchy
      ∧ (mixedExport.files.createDirectories mixedBatch.outputDir).1 = .ok ()
      ∧ ∃ report losses, (mixedBatch.run mixedExport).result = .ok report
        ∧ (mixedBatch.readings mixedExport).map InfoFile.Reading.path
          = (InfoFile.filesUnder (mixedBatch.prepared mixedExport).files mixedBatch.root).value
        ∧ report.Accounts (mixedBatch.readings mixedExport)
          (mixedBatch.collected mixedExport).value.jobList losses
        ∧ ((batchResult mixedBatch mixedExport).exit = .ok 0
          ↔ (∀ reading ∈ mixedBatch.readings mixedExport, ∃ info,
                (InfoFile.load reading.files reading.path).value = .ok info)
            ∧ ∀ job ∈ (mixedBatch.collected mixedExport).value.jobList,
                ∃ product ∈ report.converted, product.hash = job.hash) := by
  have hfiles : mixedExport.files.IsHierarchy :=
    ⟨⟨by decide +kernel, by decide +kernel⟩, by decide +kernel, by decide +kernel⟩
  have hcreate : (mixedExport.files.createDirectories mixedBatch.outputDir).1 = .ok () := by
    decide +kernel
  exact ⟨hfiles, hcreate, exists_accounts_run hfiles hcreate⟩

example : (mixedBatch.run mixedExport).result.toOption.map (fun report =>
      (report.converted.map (·.hash), report.failed.map (·.subject)))
    = some (["B".toList], ["export/a_info.cfg".toList, "A".toList]) := by decide +kernel

end Batch

end MaterialNode
