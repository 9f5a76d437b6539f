import MaterialNode.Batch
import MaterialNode.Proofs.Files.Search

/-!
# Collected Materials

The materials of the info files under a root are collected file by file, in the order of paths. A
material is collected from the first file that names it and is left alone by later ones.

## Main definitions

* `InfoFile.Names`: an info file names a material.
* `Collection.Holds`: a collection holds the materials of a list of info files.

## Main results

* `Collection.isKeyed_ofRoot`: a job is collected under the hash of its material.
* `Collection.exists_holds_ofRoot`: what is collected from the info files under a root.
-/

namespace MaterialNode

/-! ## Tables of Jobs -/

namespace Batch.Job

variable {jobs : Table Text Batch.Job}

theorem get?_addTo (jobs : Table Text Batch.Job) (job : Batch.Job) (hash : Text) :
    (addTo jobs job).get? hash
      = (jobs.get? hash).or (if job.hash = hash then some job else none) := by
  rw [addTo]
  by_cases hkey : job.hash = hash
  · subst hkey
    cases hjobs : jobs.get? job.hash with
    | none => simp [Table.get?_insert]
    | some other => simp [hjobs]
  · rw [if_neg hkey, Option.or_none]
    split
    · rfl
    · rw [Table.get?_insert, if_neg (Ne.symm hkey)]

/-- Of several jobs for a material the one in the table is kept, and else the first. -/
theorem get?_foldl_addTo (jobs : Table Text Batch.Job) (others : List Batch.Job) (hash : Text) :
    (others.foldl addTo jobs).get? hash
      = (jobs.get? hash).or (others.find? fun job => job.hash = hash) := by
  induction others generalizing jobs with
  | nil => simp
  | cons job others ih =>
    rw [List.foldl_cons, ih, get?_addTo, Option.or_assoc, List.find?_cons]
    by_cases hkey : job.hash = hash <;> simp [hkey]

/-- The job that an info file has for a material. -/
theorem find?_ofInfo (path : Text) (info : InfoFile) (root hash : Text) :
    (ofInfo path info root).find? (fun job => job.hash = hash)
      = (info.materials.get? hash).map fun material =>
          ⟨hash, (Path.parent? path).getD root, material⟩ := by
  rw [ofInfo, Table.get?]
  induction info.materials.entries with
  | nil => rfl
  | cons entry entries ih =>
    rw [List.map_cons, List.find?_cons, Table.find?_cons]
    by_cases hkey : entry.1 = hash <;> simp [hkey, ih]

end Batch.Job

namespace Collection

/-! ## One File after Another -/

/-- Whether each job is listed under the hash of its material. -/
def IsKeyed (collection : Collection) : Prop :=
  ∀ hash job, collection.jobs.get? hash = some job → job.hash = hash

theorem addFile_of_error {space : Workspace} {root path : Text} {error : DocumentError}
    (hload : (InfoFile.load space.files path).value = .error error) (collection : Collection) :
    (addFile space root collection path).value
      = { collection with report := collection.report.addFailed ⟨path, error.message⟩ } := by
  unfold addFile
  simp only [hload]

theorem addFile_of_ok {space : Workspace} {path : Text} {info : InfoFile}
    (hload : (InfoFile.load space.files path).value = .ok info) (root : Text)
    (collection : Collection) : (addFile space root collection path).value
      = { collection with
          jobs := (Batch.Job.ofInfo path info root).foldl Batch.Job.addTo collection.jobs } := by
  unfold addFile
  simp only [hload]

theorem isKeyed_addFile (space : Workspace) (root : Text) {collection : Collection}
    (h : collection.IsKeyed) (path : Text) :
    (addFile space root collection path).value.IsKeyed := by
  cases hload : (InfoFile.load space.files path).value with
  | error error =>
    rw [addFile_of_error hload]
    exact h
  | ok info =>
    rw [addFile_of_ok hload]
    intro hash job hjob
    rw [Batch.Job.get?_foldl_addTo, Option.or_eq_some_iff] at hjob
    rcases hjob with hjob | ⟨-, hjob⟩
    · exact h hash job hjob
    · simpa using List.find?_some hjob

theorem isKeyed_addFiles (space : Workspace) (root : Text) {collection : Collection}
    (h : collection.IsKeyed) (paths : List Text) :
    (addFiles space root collection paths).value.IsKeyed := by
  induction paths generalizing space collection with
  | nil => exact h
  | cons path paths ih => exact ih _ (isKeyed_addFile space root h path)

/-- Each job is collected under the hash of its material. -/
theorem isKeyed_ofRoot (space : Workspace) (root : Text) (report : Batch.Report) :
    (ofRoot space root report).value.IsKeyed := by
  apply isKeyed_addFiles
  rintro hash job ⟨⟩

/-- The collected jobs come by ascending hash. -/
theorem pairwise_jobList {collection : Collection} (h : collection.IsKeyed) :
    collection.jobList.Pairwise fun a b => SortKey.before a.hash b.hash = true := by
  refine List.pairwise_map.2 ((List.Pairwise.and_mem.1 collection.jobs.ascending).imp ?_)
  rintro first second ⟨hfirst, hsecond, hbefore⟩
  rwa [h _ _ (Table.mem_entries_iff.1 hfirst), h _ _ (Table.mem_entries_iff.1 hsecond)]

theorem mem_jobList_iff {collection : Collection} (h : collection.IsKeyed) {job : Batch.Job} :
    job ∈ collection.jobList ↔ collection.jobs.get? job.hash = some job := by
  rw [jobList, List.mem_map]
  constructor
  · rintro ⟨⟨hash, _⟩, hentry, rfl⟩
    have hjob := Table.mem_entries_iff.1 hentry
    rwa [h hash _ hjob]
  · intro hjob
    exact ⟨_, Table.mem_entries_iff.2 hjob, rfl⟩

/-- Collecting materials converts none. -/
theorem converted_addFiles (space : Workspace) (root : Text) (collection : Collection)
    (paths : List Text) : (addFiles space root collection paths).value.report.converted
      = collection.report.converted := by
  induction paths generalizing space collection with
  | nil => rfl
  | cons path paths ih =>
    have hfirst : (addFile space root collection path).value.report.converted
        = collection.report.converted := by
      cases hload : (InfoFile.load space.files path).value with
      | error error =>
        rw [addFile_of_error hload]
        rfl
      | ok info => rw [addFile_of_ok hload]
    exact (ih _ _).trans hfirst

theorem converted_ofRoot (space : Workspace) (root : Text) (report : Batch.Report) :
    (ofRoot space root report).value.report.converted = report.converted :=
  converted_addFiles ..

end Collection

/-! ## All Files -/

namespace InfoFile

/-- Whether an info file can be loaded and names a material. -/
def Names (files : FileTree) (path hash : Text) (material : MaterialMetadata) : Prop :=
  ∃ info, (load files path).value = .ok info ∧ info.materials.get? hash = some material

/-- The failure of an info file that cannot be loaded. -/
def failure? (files : FileTree) (path : Text) : Option Batch.Failure :=
  match (load files path).value with
  | .ok _ => none
  | .error error => some ⟨path, error.message⟩

/-- The job that an info file has for a material, if it can be loaded and names it. -/
def job? (files : FileTree) (root hash path : Text) : Option Batch.Job :=
  match (load files path).value with
  | .ok info => (info.materials.get? hash).map fun material =>
      ⟨hash, (Path.parent? path).getD root, material⟩
  | .error _ => none

variable {files : FileTree} {root hash path : Text}

theorem job?_eq_some_iff {job : Batch.Job} : job? files root hash path = some job
    ↔ job.hash = hash ∧ job.assetDir = (Path.parent? path).getD root
      ∧ Names files path hash job.info := by
  obtain ⟨hash', assetDir, info⟩ := job
  unfold job? Names
  cases (load files path).value with
  | error error => simp
  | ok loaded =>
    simp only [Option.map_eq_some_iff, Batch.Job.mk.injEq, Except.ok.injEq, exists_eq_left']
    grind

theorem job?_eq_none_iff : job? files root hash path = none
    ↔ ∀ material, ¬ Names files path hash material := by
  constructor
  · intro hnone material hnames
    have hjob : job? files root hash path
        = some ⟨hash, (Path.parent? path).getD root, material⟩ :=
      job?_eq_some_iff.2 ⟨rfl, rfl, hnames⟩
    rw [hnone] at hjob
    cases hjob
  · intro hnames
    refine Option.eq_none_iff_forall_ne_some.2 fun job hjob => ?_
    exact hnames _ (job?_eq_some_iff.1 hjob).2.2

end InfoFile

namespace Collection

variable {files : FileTree} {root : Text}

theorem get?_addFile (collection : Collection) (path hash : Text) :
    (addFile (.ofFiles files) root collection path).value.jobs.get? hash
      = (collection.jobs.get? hash).or (InfoFile.job? files root hash path) := by
  cases hload : (InfoFile.load files path).value with
  | error error =>
    have hfile : (InfoFile.load (Workspace.ofFiles files).files path).value = .error error := hload
    rw [addFile_of_error hfile, InfoFile.job?, hload]
    exact Option.or_none.symm
  | ok info =>
    have hfile : (InfoFile.load (Workspace.ofFiles files).files path).value = .ok info := hload
    rw [addFile_of_ok hfile, InfoFile.job?, hload]
    show _ = Option.or _ (Option.map _ _)
    rw [← Batch.Job.find?_ofInfo, Batch.Job.get?_foldl_addTo]

theorem report_addFile (space : Workspace) (collection : Collection) (path : Text) :
    (addFile space root collection path).value.report
      = { collection.report with
          failed := collection.report.failed
            ++ (InfoFile.failure? space.files path).toList } := by
  cases hload : (InfoFile.load space.files path).value with
  | error error =>
    rw [addFile_of_error hload, InfoFile.failure?, hload]
    rfl
  | ok info =>
    rw [addFile_of_ok hload, InfoFile.failure?, hload]
    simp

/-- A material is collected from the first file that has a job for it. -/
theorem get?_addFiles (collection : Collection) (paths : List Text) (hash : Text) :
    (addFiles (.ofFiles files) root collection paths).value.jobs.get? hash
      = (collection.jobs.get? hash).or (paths.findSome? (InfoFile.job? files root hash)) := by
  induction paths generalizing collection with
  | nil => exact Option.or_none.symm
  | cons path paths ih =>
    refine (ih _).trans ?_
    rw [get?_addFile, Option.or_assoc, List.findSome?_cons]
    cases InfoFile.job? files root hash path <;> rfl

/-- The failures of the files that cannot be loaded are added to the report. -/
theorem report_addFiles (collection : Collection) (paths : List Text) :
    (addFiles (.ofFiles files) root collection paths).value.report
      = { collection.report with
          failed := collection.report.failed ++ paths.filterMap (InfoFile.failure? files) } := by
  induction paths generalizing collection with
  | nil => simp [addFiles]
  | cons path paths ih =>
    refine (ih _).trans ?_
    rw [report_addFile, List.filterMap_cons, Workspace.ofFiles]
    cases InfoFile.failure? files path <;> simp

/-- What is collected from a list of info files, added to a report. -/
structure Holds (files : FileTree) (root : Text) (report : Batch.Report) (paths : List Text)
    (collection : Collection) : Prop where
  /-- The jobs come by ascending hash, so no two are for one material. -/
  ascending : collection.jobList.Pairwise fun a b => SortKey.before a.hash b.hash = true
  /-- There is a job for each material that a file names. -/
  exists_iff : ∀ hash, (∃ job ∈ collection.jobList, job.hash = hash)
    ↔ ∃ path ∈ paths, ∃ material, InfoFile.Names files path hash material
  /-- A job comes from the first file that names its material. -/
  first : ∀ job ∈ collection.jobList, ∃ before path after, paths = before ++ path :: after
    ∧ InfoFile.Names files path job.hash job.info
    ∧ job.assetDir = (Path.parent? path).getD root
    ∧ ∀ earlier ∈ before, ∀ material, ¬ InfoFile.Names files earlier job.hash material
  /-- The files that cannot be loaded are reported after what the report holds. -/
  report_eq : collection.report
    = { report with failed := report.failed ++ paths.filterMap (InfoFile.failure? files) }

theorem holds_addFiles (files : FileTree) (root : Text) (report : Batch.Report)
    (paths : List Text) : Holds files root report paths
      (addFiles (.ofFiles files) root ⟨Table.empty, report⟩ paths).value := by
  have hkeyed : (addFiles (.ofFiles files) root ⟨Table.empty, report⟩ paths).value.IsKeyed := by
    apply isKeyed_addFiles
    rintro hash job ⟨⟩
  -- The job of a hash is the one of the first path that names it.
  have hget : ∀ hash,
      (addFiles (.ofFiles files) root ⟨Table.empty, report⟩ paths).value.jobs.get? hash
        = paths.findSome? (InfoFile.job? files root hash) := by
    intro hash
    rw [get?_addFiles]
    exact Option.none_or
  constructor
  · exact pairwise_jobList hkeyed
  · intro hash
    constructor
    · rintro ⟨job, hjob, rfl⟩
      rw [mem_jobList_iff hkeyed, hget] at hjob
      obtain ⟨path, hpath, hjob⟩ := List.exists_of_findSome?_eq_some hjob
      exact ⟨path, hpath, _, (InfoFile.job?_eq_some_iff.1 hjob).2.2⟩
    · rintro ⟨path, hpath, material, hnames⟩
      cases hfound : paths.findSome? (InfoFile.job? files root hash) with
      | none =>
        have hnone := List.findSome?_eq_none_iff.1 hfound path hpath
        exact absurd hnames (InfoFile.job?_eq_none_iff.1 hnone material)
      | some job =>
        obtain ⟨_, _, hjob⟩ := List.exists_of_findSome?_eq_some hfound
        obtain ⟨rfl, -⟩ := InfoFile.job?_eq_some_iff.1 hjob
        exact ⟨job, (mem_jobList_iff hkeyed).2 ((hget _).trans hfound), rfl⟩
  · intro job hjob
    rw [mem_jobList_iff hkeyed, hget, List.findSome?_eq_some_iff] at hjob
    obtain ⟨before, path, after, hpaths, hjob, hbefore⟩ := hjob
    obtain ⟨-, hdir, hnames⟩ := InfoFile.job?_eq_some_iff.1 hjob
    refine ⟨before, path, after, hpaths, hnames, hdir, fun earlier hearlier => ?_⟩
    exact InfoFile.job?_eq_none_iff.1 (hbefore earlier hearlier)
  · exact report_addFiles ..

/-- The info files under a root, in ascending order, are those that materials are collected from,
each material from the first file that names it. -/
theorem exists_holds_ofRoot {files : FileTree} {root : Text} (hwell : files.IsWellFormed)
    (hwalk : files.IsWalkable root) (report : Batch.Report) : ∃ paths : List Text,
      (∀ path, path ∈ paths ↔ ∃ location, files.IsFileUnder root path location
        ∧ InfoFile.IsNamedInfo location)
      ∧ paths.Pairwise (fun a b => Path.before a b = true)
      ∧ Holds files root report paths (ofRoot (.ofFiles files) root report).value :=
  ⟨(InfoFile.filesUnder files root).value, fun _ => InfoFile.mem_filesUnder_iff hwell hwalk,
    InfoFile.pairwise_filesUnder hwell, holds_addFiles ..⟩

/-- Two info files that name one material, and one that cannot be read. -/
def sharedExport : FileTree where
  workDir := []
  table := Table.ofList [
    (["export".toList], .directory),
    (["export".toList, "a".toList], .directory),
    (["export".toList, "a-b".toList], .directory),
    (["export".toList, "a-b".toList, "x_info.cfg".toList],
      .file (.text "\x7b\"Materials\":\x7b\"A\":\x7b\x7d,\"B\":\x7b\x7d\x7d\x7d".toList)),
    (["export".toList, "a".toList, "x_info.cfg".toList],
      .file (.text "\x7b\"Materials\":\x7b\"A\":\x7b\x7d\x7d\x7d".toList)),
    (["export".toList, "c_info.cfg".toList], .file (.text "-".toList))]

theorem exists_holds_ofRoot_sharedExport :
    sharedExport.IsWellFormed ∧ sharedExport.IsWalkable "export" ∧ ∃ paths : List Text,
      (∀ path, path ∈ paths ↔ ∃ location, sharedExport.IsFileUnder "export" path location
        ∧ InfoFile.IsNamedInfo location)
      ∧ paths.Pairwise (fun a b => Path.before a b = true)
      ∧ Holds sharedExport "export" .empty paths
        (ofRoot (.ofFiles sharedExport) "export" .empty).value := by
  have hwell : sharedExport.IsWellFormed := ⟨by decide +kernel, by decide +kernel⟩
  have hwalk : sharedExport.IsWalkable "export" := by
    rintro place ⟨⟩
    decide +kernel
  exact ⟨hwell, hwalk, exists_holds_ofRoot hwell hwalk .empty⟩

end Collection

end MaterialNode
