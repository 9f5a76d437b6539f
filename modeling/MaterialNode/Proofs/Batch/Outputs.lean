import MaterialNode.Proofs.Batch.Attempts
import MaterialNode.Proofs.Files.KeyedPath
import MaterialNode.Settings

/-!
# The Outputs of a Batch

The shader and the plan of a material are named after its hash. The hash is a key of an info file
and may be any text, so its folders may lead out of the output directory. Nothing that was written
is removed when an attempt fails: it leaves the shader of a plan that could not be saved, and the
start of what was being written when storage broke it off.

## Main definitions

* `Batch.folder`: the directory of a material's outputs.
* `Batch.IsInner`: the folders of a hash do not lead out of the output directory.
* `Batch.Attempt.Keeps`, `Batch.Attempt.LeavesShader`, `Batch.Attempt.LeavesShaderStart`,
  `Batch.Attempt.LeavesPlanStart`: what a failed attempt leaves.

## Main results

* `Batch.ofPath_planPath_congr`: shaders with one place have plans with one place.
* `Batch.exists_job_of_file_changed`: the files that a batch creates or changes, and where they lie.
* `Batch.keeps_or_leaves_of_failure`: what a failed attempt leaves.
-/

namespace MaterialNode

/-- An extension that the settings admit has no slash. -/
theorem Settings.slash_not_mem_outputExtension {settings : Settings}
    (h : settings.fault? = none) : '/' ∉ settings.outputExtension := by
  intro hslash
  rw [fault?] at h
  split at h
  · cases h
  · rw [if_pos (.inr (by simpa using hslash))] at h
    cases h

namespace Batch

variable {batch : Batch} {space : Workspace}

/-! ## Places -/

/-- The directory of a material's outputs, to which the folders of its hash lead from the output
directory. -/
def folder (batch : Batch) (workDir : Location) (hash : Text) : Location :=
  .walk (.origin (.ofPath workDir batch.outputDir) hash) (Path.folders hash)

theorem shaderPath_eq (hash : Text) :
    batch.shaderPath hash = Path.join batch.outputDir (hash ++ '.' :: batch.extension) := by
  rw [shaderPath]
  simp

theorem ofPath_planPath (workDir : Location) (hash : Text) :
    Location.ofPath workDir (batch.planPath hash)
      = batch.folder workDir hash ++ [Path.stem hash ++ ".json".toList] := by
  obtain ⟨hdot, hdots⟩ := Path.stem_append_json_ne hash
  rw [← Location.step_of_ne hdot hdots]
  exact Location.ofPath_join_append_dot (by decide) workDir _ _

/-- A shader that a path leads to is in the directory of the material's outputs. -/
theorem ofPath_shaderPath_of_resolve (hextension : '/' ∉ batch.extension) {tree : FileTree}
    {hash : Text} {location : Location}
    (h : tree.resolve (batch.shaderPath hash) = .ok ⟨location, false⟩) :
    Location.ofPath tree.workDir (batch.shaderPath hash)
      = batch.folder tree.workDir hash ++ [Path.stem hash ++ '.' :: batch.extension] := by
  rw [shaderPath_eq] at h ⊢
  obtain ⟨above, hnames⟩ := Path.exists_names_join_append_dot hextension batch.outputDir hash
  obtain ⟨hdot, hdots, -⟩ := FileTree.ne_dots_of_resolve h hnames
  rw [Location.ofPath_join_append_dot hextension, Location.step_of_ne hdot hdots]
  rfl

/-- Materials whose shaders have one place have one place for their plans. -/
theorem ofPath_planPath_congr (hextension : '/' ∉ batch.extension) {tree : FileTree}
    {hash hash' : Text} {location location' : Location}
    (h : tree.resolve (batch.shaderPath hash) = .ok ⟨location, false⟩)
    (h' : tree.resolve (batch.shaderPath hash') = .ok ⟨location', false⟩)
    (hplace : Location.ofPath tree.workDir (batch.shaderPath hash)
      = Location.ofPath tree.workDir (batch.shaderPath hash')) :
    Location.ofPath tree.workDir (batch.planPath hash)
      = Location.ofPath tree.workDir (batch.planPath hash') := by
  rw [ofPath_shaderPath_of_resolve hextension h,
    ofPath_shaderPath_of_resolve hextension h'] at hplace
  obtain ⟨hfolder, hname⟩ := List.append_inj' hplace rfl
  have hstem := List.append_cancel_right (List.singleton_inj.1 hname)
  rw [ofPath_planPath, ofPath_planPath, hfolder, hstem]

/-- A plan is saved where the shader was written, if both have one place. -/
theorem exists_writeText_planPath {tree withShader : FileTree} {hash code : Text}
    (hwrite : tree.writeText (batch.shaderPath hash) code = .ok withShader)
    (hplace : Location.ofPath tree.workDir (batch.shaderPath hash)
      = Location.ofPath tree.workDir (batch.planPath hash)) (document : Text) :
    ∃ withPlan, withShader.writeText (batch.planPath hash) document = .ok withPlan := by
  obtain ⟨location, hresolve, hdirectory, hlong, -⟩ := FileTree.writeContent_eq_ok_iff.1 hwrite
  have hchanges := FileTree.ChangesOnly.of_writeText hwrite
  have hlocation : location = Location.ofPath tree.workDir (batch.shaderPath hash) :=
    FileTree.location_of_resolve hresolve
  have hjson : batch.planPath hash = Path.join batch.outputDir hash ++ ".json".toList :=
    Path.join_append_dot ..
  rw [shaderPath_eq, Path.join_append_dot] at hresolve
  have hplan : tree.resolve (batch.planPath hash) = .ok ⟨location, false⟩ := by
    rw [hjson] at hplace ⊢
    exact FileTree.resolve_of_same_place hresolve (hlocation.trans hplace).symm
  refine ⟨_, FileTree.writeContent_eq_ok_iff.2
    ⟨location, hchanges.resolve_eq_ok_iff.2 hplan, ?_, hlong, rfl⟩⟩
  rwa [ne_eq, hchanges.directory_iff]

/-! ## Staying in the Output Directory -/

/-- Whether the folders of a hash stay in the directory that they are taken from. -/
def IsInner (hash : Text) : Prop :=
  Path.isAbsolute hash = false ∧ Location.StaysBelow 0 (Path.folders hash)

theorem isInner_of_not_mem {hash : Text} (h : '/' ∉ hash) : IsInner hash := by
  constructor
  · exact Path.isAbsolute_of_not_mem h
  · rw [Path.folders_of_not_mem h]
    trivial

/-- The outputs of a material are in or below the output directory if its hash is inner. -/
theorem isPrefix_folder (batch : Batch) {hash : Text} (h : IsInner hash) (workDir : Location) :
    Location.ofPath workDir batch.outputDir <+: batch.folder workDir hash := by
  obtain ⟨hrelative, hbelow⟩ := h
  have hnone : Location.StaysBelow ([] : Location).length (Path.folders hash) := hbelow
  have hwalk := Location.isPrefix_walk hnone (Location.ofPath workDir batch.outputDir)
  rw [folder, Location.origin, hrelative]
  rwa [List.append_nil] at hwalk

/-- An attempt writes nothing, its shader, or its shader and its plan. -/
theorem places_isPrefix (batch : Batch) (attempt : Attempt) :
    attempt.places batch <+: [attempt.shaderPlace batch, attempt.planPlace batch] := by
  have hshader : [attempt.shaderPlace batch]
      <+: [attempt.shaderPlace batch, attempt.planPlace batch] := ⟨[attempt.planPlace batch], rfl⟩
  unfold Attempt.places
  split
  · exact List.prefix_rfl
  · exact List.nil_prefix
  · split
    · exact hshader
    · exact List.nil_prefix
  · split
    · exact List.prefix_rfl
    · exact hshader
  · exact hshader

/-- What an attempt writes is in the directory of the material's outputs, under the stem of the hash
with an ending. -/
theorem places_isPrefix_folder (hextension : '/' ∉ batch.extension) {attempt : Attempt}
    (hlog : attempt.start.LogIsFile) : attempt.places batch
      <+: [batch.folder attempt.start.files.workDir attempt.job.hash
          ++ [Path.stem attempt.job.hash ++ '.' :: batch.extension],
        batch.folder attempt.start.files.workDir attempt.job.hash
          ++ [Path.stem attempt.job.hash ++ ".json".toList]] := by
  have hprefix := places_isPrefix batch attempt
  have hshader : ∀ {content : Content} {withShader : FileTree},
      (attempt.converting batch).files.writeContent (batch.shaderPath attempt.job.hash) content
        = .ok withShader →
      attempt.shaderPlace batch = batch.folder attempt.start.files.workDir attempt.job.hash
        ++ [Path.stem attempt.job.hash ++ '.' :: batch.extension] := by
    intro content withShader hwrite
    obtain ⟨place, hresolve, -⟩ := FileTree.writeContent_eq_ok_iff.1 hwrite
    have hplace := ofPath_shaderPath_of_resolve hextension hresolve
    rwa [Attempt.workDir_converting batch hlog] at hplace
  have hplan : attempt.planPlace batch = _ := ofPath_planPath ..
  -- Only a shader that was opened is known to have a name that is not made of dots.
  cases attempt.course batch with
  | unconverted _ _ hresult => simp [Attempt.places, hresult]
  | unwritten _ _ _ hcause hresult => simp [Attempt.places, hresult, hcause]
  | shaderBrokenOff _ _ _ _ _ hstart => rwa [hshader hstart, hplan] at hprefix
  | unsaved _ _ _ _ hwrite => rwa [hshader hwrite, hplan] at hprefix
  | planBrokenOff _ _ _ _ _ _ hwrite => rwa [hshader hwrite, hplan] at hprefix
  | done _ _ _ _ hwrite => rwa [hshader hwrite, hplan] at hprefix

theorem dropLast_of_mem_places (hextension : '/' ∉ batch.extension) {attempt : Attempt}
    (hlog : attempt.start.LogIsFile) {location : Location} (h : location ∈ attempt.places batch) :
    location.dropLast = batch.folder attempt.start.files.workDir attempt.job.hash := by
  have hmem := (places_isPrefix_folder hextension hlog).subset h
  simp only [List.mem_cons, List.not_mem_nil, or_false] at hmem
  rcases hmem with rfl | rfl
  · rw [List.dropLast_concat]
  · rw [List.dropLast_concat]

/-- A file that a batch creates or changes, the log file apart, is the shader or the plan of a
collected material. It lies in the directory to which the folders of the hash lead from the output
directory, so it lies in or below the output directory unless they lead out. -/
theorem exists_job_of_file_changed (hlog : space.LogIsFile) (hextension : '/' ∉ batch.extension)
    {location : Location} {content : Content} (hlocation : location ∉ space.logPlaces)
    (hafter : (batch.run space).files.entryAt? location = some (.file content))
    (hbefore : space.files.entryAt? location ≠ some (.file content)) :
    ∃ job ∈ (batch.collected space).value.jobList,
      (location = Location.ofPath space.files.workDir (batch.shaderPath job.hash)
        ∨ location = Location.ofPath space.files.workDir (batch.planPath job.hash))
      ∧ location.dropLast = batch.folder space.files.workDir job.hash
      ∧ (IsInner job.hash →
        Location.ofPath space.files.workDir batch.outputDir <+: location) := by
  by_cases hplaces : ∀ attempt ∈ batch.attempts space, location ∉ attempt.places batch
  · exact absurd ((file_run_iff hlog hlocation hplaces).1 hafter) hbefore
  · simp only [Classical.not_forall, Classical.not_not] at hplaces
    obtain ⟨attempt, hattempt, hplace⟩ := hplaces
    have hof := isOf_of_mem_attempts hlog hattempt
    have hcases := (places_isPrefix batch attempt).subset hplace
    simp only [List.mem_cons, List.not_mem_nil, or_false] at hcases
    have hfolder := dropLast_of_mem_places hextension hof.logIsFile hplace
    rw [Attempt.shaderPlace, Attempt.planPlace, hof.workDir_eq] at hcases
    rw [hof.workDir_eq] at hfolder
    refine ⟨attempt.job, mem_jobList_of_mem_attempts hattempt, hcases, hfolder, fun hinner => ?_⟩
    have hinside := isPrefix_folder batch hinner space.files.workDir
    rw [← hfolder] at hinside
    exact hinside.trans (List.dropLast_prefix location)

/-- An exporter tree whose one info file names one material. -/
def soleExport (hash : Text) (others : List (Location × Entry)) : FileTree where
  workDir := []
  table := Table.ofList <| [
    (["export".toList], .directory),
    (["export".toList, "a_info.cfg".toList], .file (.text
      ("\x7b\"Materials\":\x7b\"".toList ++ hash ++ "\":\x7b\x7d\x7d\x7d".toList))),
    (["export".toList, "Shaders".toList], .directory),
    (["t.usf".toList], .file (.text "return output;".toList))] ++ others

/-- A shader that uses nothing. -/
def soleShader : Entry := .file (.text "// ps_5_0\n  float4 r0,r1;\n  return;".toList)

/-- A batch over this tree. -/
def soleBatch (extension : Text) : Batch :=
  ⟨"export".toList, "out".toList, "t.usf".toList, extension⟩

/-- The tree with a material whose hash is a name. -/
def plainExport : FileTree :=
  soleExport "A".toList [(["export".toList, "Shaders".toList, "PS_A.hlsl".toList], soleShader)]

theorem exists_job_of_file_changed_plainExport : ∃ content,
    ((soleBatch "usf".toList).run (.ofFiles plainExport)).files.entryAt?
      ["out".toList, "A.usf".toList] = some (.file content)
    ∧ plainExport.entryAt? ["out".toList, "A.usf".toList] ≠ some (.file content)
    ∧ ∃ job ∈ ((soleBatch "usf".toList).collected (.ofFiles plainExport)).value.jobList,
      (["out".toList, "A.usf".toList]
          = Location.ofPath [] ((soleBatch "usf".toList).shaderPath job.hash)
        ∨ ["out".toList, "A.usf".toList]
          = Location.ofPath [] ((soleBatch "usf".toList).planPath job.hash))
      ∧ ["out".toList, "A.usf".toList].dropLast = (soleBatch "usf".toList).folder [] job.hash
      ∧ (IsInner job.hash →
        Location.ofPath [] "out".toList <+: ["out".toList, "A.usf".toList]) := by
  have hwritten : ((soleBatch "usf".toList).run (.ofFiles plainExport)).files.HasFile
      ["out".toList, "A.usf".toList] := by decide +kernel
  have hnew : plainExport.entryAt? ["out".toList, "A.usf".toList] = none := by decide +kernel
  obtain ⟨content, hafter⟩ := hwritten
  have hbefore : plainExport.entryAt? ["out".toList, "A.usf".toList] ≠ some (.file content) := by
    rw [hnew]
    exact (Option.some_ne_none _).symm
  exact ⟨content, hafter, hbefore, exists_job_of_file_changed
    (Workspace.logIsFile_ofFiles plainExport) (by decide) (by decide) hafter hbefore⟩

/-- The tree with a material whose hash leads out of the output directory. -/
def leadingOutExport : FileTree :=
  soleExport "../B".toList [
    (["export".toList, "Shaders".toList, "PS_..".toList], .directory),
    (["export".toList, "Shaders".toList, "PS_..".toList, "B.hlsl".toList], soleShader)]

/-- Admissible settings do not keep the outputs in the output directory. -/
theorem not_forall_file_changed_isPrefix : ¬ ∀ (settings : Settings) (batch : Batch)
    (files : FileTree) (location : Location) (content : Content),
    settings.fault? = none → batch.extension = settings.outputExtension →
    (batch.run (.ofFiles files)).files.entryAt? location = some (.file content) →
    files.entryAt? location ≠ some (.file content) →
    Location.ofPath files.workDir batch.outputDir <+: location := by
  intro hall
  have hwritten : ((soleBatch "usf".toList).run (.ofFiles leadingOutExport)).files.HasFile
      ["B.usf".toList] := by decide +kernel
  have hnew : leadingOutExport.entryAt? ["B.usf".toList] = none := by decide +kernel
  obtain ⟨content, hafter⟩ := hwritten
  have hprefix := hall .default (soleBatch "usf".toList) leadingOutExport ["B.usf".toList] content
    (by decide) rfl hafter (by rw [hnew]; exact (Option.some_ne_none _).symm)
  exact absurd hprefix (by decide +kernel)

/-! ## Failed Attempts -/

/-- Whether an attempt leaves what stands at a location as it was. -/
def Attempt.Keeps (batch : Batch) (attempt : Attempt) (location : Location) : Prop :=
  (attempt.written batch).files.entryAt? location = attempt.start.files.entryAt? location

/-- Whether an attempt leaves the converted shader at a location because the plan could not be saved.
The plan has another place, unless storage refuses to open its file. -/
def Attempt.LeavesShader (batch : Batch) (attempt : Attempt) (location : Location) : Prop :=
  ∃ program cause, (attempt.converted batch).value = .ok program
    ∧ (attempt.written batch).result
      = .error (.plan (.writing (batch.planPath attempt.job.hash) cause))
    ∧ location = attempt.shaderPlace batch
    ∧ (location = attempt.planPlace batch → ∃ wording, cause = .storage (.refused wording))
    ∧ (attempt.written batch).files.entryAt? location
      = some (.file (.text (attempt.plan program).code))

/-- Whether an attempt leaves the start of the converted shader at a location because storage broke
off its writing. -/
def Attempt.LeavesShaderStart (batch : Batch) (attempt : Attempt) (location : Location) : Prop :=
  ∃ program bytes wording, (attempt.converted batch).value = .ok program
    ∧ (attempt.written batch).result
      = .error (.shader (batch.shaderPath attempt.job.hash) (.storage (.brokenOff bytes wording)))
    ∧ location = attempt.shaderPlace batch
    ∧ (attempt.written batch).files.entryAt? location
      = some (.file (.ofStart bytes (attempt.plan program).code))

/-- Whether an attempt leaves the start of the plan at a location because storage broke off its
writing. -/
def Attempt.LeavesPlanStart (batch : Batch) (attempt : Attempt) (location : Location) : Prop :=
  ∃ program bytes wording, (attempt.converted batch).value = .ok program
    ∧ (attempt.written batch).result = .error (.plan
      (.writing (batch.planPath attempt.job.hash) (.storage (.brokenOff bytes wording))))
    ∧ location = attempt.planPlace batch
    ∧ (attempt.written batch).files.entryAt? location
      = some (.file (.ofStart bytes (attempt.plan program).document))

/-- An attempt keeps all files but those that it writes and the log file. -/
theorem Attempt.keeps_of_not_mem_places {attempt : Attempt} (hlog : attempt.start.LogIsFile)
    {location : Location} (hlocation : location ∉ attempt.start.logPlaces)
    (hplaces : location ∉ attempt.places batch) : attempt.Keeps batch location := by
  have hchanges := (Attempt.changesOnly_written batch hlog).files
  exact hchanges.entryAt?_eq location (by simp [hlocation, hplaces])

/-- A shader does not stand where the plan was to be saved, if nothing but the path of the plan is in
its way. -/
theorem Attempt.shaderPlace_ne_planPlace {attempt : Attempt} (hlog : attempt.start.LogIsFile)
    {code document : Text} {withShader : FileTree} {cause : FileError}
    (hshader : (attempt.converting batch).files.writeText (batch.shaderPath attempt.job.hash) code
      = .ok withShader)
    (hplan : withShader.writeText (batch.planPath attempt.job.hash) document = .error cause) :
    attempt.shaderPlace batch ≠ attempt.planPlace batch := by
  intro hplaces
  rw [Attempt.shaderPlace, Attempt.planPlace, ← Attempt.workDir_converting batch hlog] at hplaces
  obtain ⟨withPlan, hsaved⟩ := exists_writeText_planPath hshader hplaces document
  cases hsaved.symm.trans hplan

/-- What a failed attempt leaves at a place that it wrote. -/
theorem Attempt.leaves_of_mem_places {attempt : Attempt} (hlog : attempt.start.LogIsFile)
    {failure : Failure} (hfailure : attempt.failure? batch = some failure) {location : Location}
    (hplace : location ∈ attempt.places batch) :
    attempt.LeavesShader batch location ∨ attempt.LeavesShaderStart batch location
      ∨ attempt.LeavesPlanStart batch location := by
  rw [Attempt.LeavesShader, Attempt.LeavesShaderStart, Attempt.LeavesPlanStart, Written.files]
  cases attempt.course batch with
  | unconverted _ _ hresult => simp [Attempt.places, hresult] at hplace
  | unwritten _ _ _ hcause hresult => simp [Attempt.places, hresult, hcause] at hplace
  | shaderBrokenOff program bytes wording withStart hconverted hstart hresult hspace =>
    obtain rfl : location = attempt.shaderPlace batch := by
      simpa [Attempt.places, hresult, WriteError.isOpened] using hplace
    rw [hspace]
    exact .inr (.inl ⟨program, bytes, wording, hconverted, hresult, rfl,
      Attempt.entryAt?_of_shader hlog hstart⟩)
  | unsaved program withShader cause hconverted hshader hcause hplan hresult hspace =>
    obtain rfl : location = attempt.shaderPlace batch := by
      simpa [Attempt.places, hresult, hcause] using hplace
    rw [hspace]
    refine .inl ⟨program, cause, hconverted, hresult, rfl, fun hsame => ?_,
      Attempt.entryAt?_of_shader hlog hshader⟩
    -- A path that bars the plan is not that of the shader, which was just written.
    cases cause with
    | path fault =>
      have hwritable := FileTree.writable_of_writeOn hplan
      exact absurd hsame (Attempt.shaderPlace_ne_planPlace hlog hshader
        (FileTree.writeContent_of_error hwritable (.text (attempt.plan program).document)))
    | storage fault =>
      cases fault with
      | refused wording => exact ⟨wording, rfl⟩
      | brokenOff _ _ => cases hcause
  | planBrokenOff program withShader bytes wording withStart hconverted hshader hstart hresult
      hspace =>
    rw [hspace]
    by_cases hplan : location = attempt.planPlace batch
    · subst hplan
      exact .inr (.inr ⟨program, bytes, wording, hconverted, hresult, rfl,
        Attempt.entryAt?_of_plan hlog hshader hstart⟩)
    · obtain rfl : location = attempt.shaderPlace batch := by
        simpa [Attempt.places, hresult, WriteError.isOpened, hplan] using hplace
      exact .inl ⟨program, _, hconverted, hresult, rfl, fun hsame => absurd hsame hplan,
        Attempt.entryAt?_shaderPlace_of_plan hlog hshader hstart hplan⟩
  | done _ _ _ _ _ _ hresult =>
    rw [Attempt.failure?, hresult] at hfailure
    cases hfailure

/-- The failures of attempts are reported after those of info files. A failed attempt keeps all files
that it does not write, the log file apart, and at a place that it writes it leaves the shader of a
plan that could not be saved, or the start of what storage broke off. -/
theorem keeps_or_leaves_of_failure (hlog : space.LogIsFile) {report : Report}
    (hrun : (batch.run space).result = .ok report) :
    report.failed = (batch.collected space).value.report.failed
        ++ (batch.attempts space).filterMap (Attempt.failure? batch)
      ∧ ∀ attempt ∈ batch.attempts space, ∀ failure, attempt.failure? batch = some failure →
        ∀ location ∉ space.logPlaces,
          (location ∉ attempt.places batch → attempt.Keeps batch location)
          ∧ (location ∈ attempt.places batch → attempt.LeavesShader batch location
            ∨ attempt.LeavesShaderStart batch location
            ∨ attempt.LeavesPlanStart batch location) := by
  refine ⟨congrArg Report.failed (run_eq_ok hrun).1, ?_⟩
  intro attempt hattempt failure hfailure location hlocation
  have hof := isOf_of_mem_attempts hlog hattempt
  rw [← hof.logPlaces_eq] at hlocation
  exact ⟨Attempt.keeps_of_not_mem_places hof.logIsFile hlocation,
    Attempt.leaves_of_mem_places hof.logIsFile hfailure⟩

theorem ok_of_toOption {α ε : Type} {result : Except ε α} {value : α}
    (h : result.toOption = some value) : result = .ok value := by
  cases result with
  | error error => cases h
  | ok other => rw [Option.some.inj h]

/-- An export on storage that runs full while the plan of its material is written. -/
def fullExport : Workspace where
  files := plainExport
  logFile := none
  storage := ⟨fun _ path _ =>
    if path = "out/A.json".toList then some (.brokenOff 7 "No space left on device (os error 28)")
    else none⟩

/-- What the failed attempt at this export is reported as. -/
def fullReport : Report :=
  ⟨[], [⟨"A".toList,
    "writing material plan out/A.json: No space left on device (os error 28)".toList⟩]⟩

theorem keeps_or_leaves_of_failure_fullExport : fullExport.LogIsFile
    ∧ ((soleBatch "usf".toList).run fullExport).result = .ok fullReport
    ∧ fullReport.failed
      = ((soleBatch "usf".toList).collected fullExport).value.report.failed
        ++ ((soleBatch "usf".toList).attempts fullExport).filterMap
          (Attempt.failure? (soleBatch "usf".toList))
    ∧ ∀ attempt ∈ (soleBatch "usf".toList).attempts fullExport,
      ∀ failure, attempt.failure? (soleBatch "usf".toList) = some failure →
      ∀ location ∉ fullExport.logPlaces,
        (location ∉ attempt.places (soleBatch "usf".toList) →
          attempt.Keeps (soleBatch "usf".toList) location)
        ∧ (location ∈ attempt.places (soleBatch "usf".toList) →
          attempt.LeavesShader (soleBatch "usf".toList) location
          ∨ attempt.LeavesShaderStart (soleBatch "usf".toList) location
          ∨ attempt.LeavesPlanStart (soleBatch "usf".toList) location) := by
  have hlog : fullExport.LogIsFile := by
    rintro location ⟨⟩
  have hrun : ((soleBatch "usf".toList).run fullExport).result = .ok fullReport :=
    ok_of_toOption (by decide +kernel)
  exact ⟨hlog, hrun, keeps_or_leaves_of_failure hlog hrun⟩

example : ((soleBatch "usf".toList).run fullExport).files.entryAt?
    ["out".toList, "A.json".toList] = some (.file (.text "\x7b\n  \"ma".toList)) := by decide +kernel

/-- The tree with a directory where the plan of the material is to be saved. -/
def blockedExport : FileTree :=
  soleExport "A".toList [
    (["export".toList, "Shaders".toList, "PS_A.hlsl".toList], soleShader),
    (["out".toList], .directory),
    (["out".toList, "A.json".toList], .directory)]

/-- What the failed attempt at this tree is reported as. -/
def blockedReport : Report :=
  ⟨[], [⟨"A".toList, "writing material plan out/A.json: Is a directory (os error 21)".toList⟩]⟩

/-- A failed attempt may leave a shader that was not there. -/
theorem not_forall_keeps_of_failure : ¬ ∀ (batch : Batch) (files : FileTree) (report : Report),
    (batch.run (.ofFiles files)).result = .ok report →
    ∀ attempt ∈ batch.attempts (.ofFiles files), ∀ failure,
      attempt.failure? batch = some failure →
      attempt.Keeps batch (attempt.shaderPlace batch)
        ∧ attempt.Keeps batch (attempt.planPlace batch) := by
  intro hall
  have hrun : ((soleBatch "usf".toList).run (.ofFiles blockedExport)).result
      = .ok blockedReport := ok_of_toOption (by decide +kernel)
  -- The one attempt fails, and the place of its shader is not empty any more.
  have hattempts : ((soleBatch "usf".toList).attempts (.ofFiles blockedExport)).any fun attempt =>
      (attempt.failure? (soleBatch "usf".toList)).isSome
        && (attempt.start.files.entryAt? (attempt.shaderPlace (soleBatch "usf".toList))).isNone
        && ((attempt.written (soleBatch "usf".toList)).files.entryAt?
          (attempt.shaderPlace (soleBatch "usf".toList))).isSome := by decide +kernel
  obtain ⟨attempt, hattempt, hfacts⟩ := List.any_eq_true.1 hattempts
  simp only [Bool.and_eq_true, Option.isSome_iff_exists] at hfacts
  obtain ⟨⟨⟨failure, hfailure⟩, hempty⟩, entry, hfilled⟩ := hfacts
  have hkeeps := (hall _ _ _ hrun attempt hattempt failure hfailure).1
  rw [Attempt.Keeps, hfilled] at hkeeps
  rw [← hkeeps] at hempty
  cases hempty

end Batch

end MaterialNode
