import MaterialNode.Proofs.Files.Changes
import MaterialNode.Proofs.Files.Search
import MaterialNode.Proofs.Yaml.WrittenRecord
import MaterialNode.Settings.Document

/-!
# Saved Settings

The document of settings holds these settings and no others (`ofDocument?_document`), whatever the
texts in it are. Saving does not ask whether settings are admissible, and loading does: settings
that were saved are loaded if they are admissible, and are turned down for their fault if not
(`load_eq_of_save`).
-/

namespace MaterialNode

open Yaml

namespace Settings

/-! ## Reading Back the Settings -/

variable {key : Text}

/-- Whether a key can be printed before a value. -/
def IsKey (key : Text) : Prop :=
  key ≠ [] ∧ key.all isKeyChar = true ∧ key.byteLength ≤ Scanner.maxKeyLength

instance (key : Text) : Decidable (IsKey key) := inferInstanceAs (Decidable (_ ∧ _))

/-- A value that is printed is read by a reader of nodes. -/
def ReadsAs {α : Type} (read? : Node → Option α) (written : Text) (value : α) : Prop :=
  ∃ plain text, IsScalar plain text written ∧ read? (.scalar none plain text) = some value

theorem readsAs_writeString (text : Text) : ReadsAs Node.text? (writeString text) text := by
  obtain ⟨plain, hscalar, -⟩ := exists_isScalar_writeString text
  exact ⟨plain, text, hscalar, rfl⟩

theorem readsAs_writeOptional (value : Option Text) :
    ReadsAs Node.optionalText? (writeOptional value) value := by
  cases value with
  | none =>
    exact ⟨true, "null", isScalar_of_canBePlain (by decide) (by decide +kernel), by decide +kernel⟩
  | some text =>
    obtain ⟨plain, hscalar, hplain⟩ := exists_isScalar_writeString text
    refine ⟨plain, text, hscalar, ?_⟩
    cases plain with
    | false => rfl
    | true =>
      obtain ⟨hne, hword⟩ := hplain rfl
      simp [Node.optionalText?, hne, hword]

theorem readsAs_word (level : LogLevel) :
    ReadsAs (fun node => node.word?.bind LogLevel.ofWord?) (level.word ++ "\n".toList) level := by
  refine ⟨true, level.word, ?_, LogLevel.ofWord?_word level⟩
  cases level <;> exact isScalar_of_canBePlain (by decide) (by decide +kernel)

/-- A key with a value that is read back can be read. -/
theorem exists_entry {α : Type} {read? : Node → Option α} {written : Text} {value : α}
    (hkey : IsKey key) (hvalue : ReadsAs read? written value) : ∃ entry : WrittenEntry,
      entry.IsReadable ∧ entry.lines = writeEntry key written ∧ entry.key = key
        ∧ read? entry.nodes.2 = some value := by
  obtain ⟨plain, text, hscalar, hread⟩ := hvalue
  obtain ⟨hne, hchars, hlength⟩ := hkey
  exact ⟨⟨key, written, plain, text⟩, ⟨hne, List.all_eq_true.1 hchars, hlength, hscalar⟩,
    rfl, rfl, hread⟩

/-- The settings that a mapping with one entry for each key makes. -/
theorem ofNode?_mapping {dir template level log extension : WrittenEntry}
    (hdir : dir.key = "resources_dir") (htemplate : template.key = "template_file")
    (hlevel : level.key = "log_level") (hlog : log.key = "log_file")
    (hextension : extension.key = "output_extension") :
    ofNode? (.mapping ([dir, template, level, log, extension].map WrittenEntry.nodes)) = do
      return {
        resourcesDir := ← Node.optionalText? dir.nodes.2
        templateFile := ← Node.text? template.nodes.2
        logLevel := ← level.nodes.2.word?.bind LogLevel.ofWord?
        logFile := ← Node.optionalText? log.nodes.2
        outputExtension := ← Node.text? extension.nodes.2 } := by
  obtain ⟨_, _, dirPlain, dirText⟩ := dir
  obtain ⟨_, _, templatePlain, templateText⟩ := template
  obtain ⟨_, _, levelPlain, levelText⟩ := level
  obtain ⟨_, _, logPlain, logText⟩ := log
  obtain ⟨_, _, extensionPlain, extensionText⟩ := extension
  -- With closed keys the reader finds each member by computation.
  cases hdir
  cases htemplate
  cases hlevel
  cases hlog
  cases hextension
  rfl

/-- The document of settings holds the settings. -/
theorem ofDocument?_document (settings : Settings) :
    ofDocument? settings.document = some settings := by
  obtain ⟨dir, hdir, hdirLines, hdirKey, hdirRead⟩ :=
    exists_entry (show IsKey "resources_dir" by decide)
      (readsAs_writeOptional settings.resourcesDir)
  obtain ⟨template, htemplate, htemplateLines, htemplateKey, htemplateRead⟩ :=
    exists_entry (show IsKey "template_file" by decide) (readsAs_writeString settings.templateFile)
  obtain ⟨level, hlevel, hlevelLines, hlevelKey, hlevelRead⟩ :=
    exists_entry (show IsKey "log_level" by decide) (readsAs_word settings.logLevel)
  obtain ⟨log, hlog, hlogLines, hlogKey, hlogRead⟩ :=
    exists_entry (show IsKey "log_file" by decide) (readsAs_writeOptional settings.logFile)
  obtain ⟨extension, hextension, hextensionLines, hextensionKey, hextensionRead⟩ :=
    exists_entry (show IsKey "output_extension" by decide)
      (readsAs_writeString settings.outputExtension)
  -- The document is the lines of these entries, one after the other.
  have hdocument : settings.document
      = [dir, template, level, log, extension].flatMap WrittenEntry.lines := by
    simp [document, hdirLines, htemplateLines, hlevelLines, hlogLines, hextensionLines]
  have hreadable : ∀ entry ∈ [dir, template, level, log, extension], entry.IsReadable := by
    simp [hdir, htemplate, hlevel, hlog, hextension]
  rw [ofDocument?, hdocument, Node.ofText?_entries (List.cons_ne_nil _ _) hreadable,
    Option.bind_some, ofNode?_mapping hdirKey htemplateKey hlevelKey hlogKey hextensionKey,
    hdirRead, htemplateRead, hlevelRead, hlogRead, hextensionRead]
  rfl

/-! ## Saving and Loading -/

variable {settings : Settings} {files after : FileTree} {path : Text}

/-- What loading makes of a file that holds the document of settings: the settings, unless they
have a fault. -/
theorem load_of_readText_document (h : files.readText path = .ok settings.document) :
    (load files path).value = match settings.fault? with
      | some error => .error error
      | none => .ok settings := by
  obtain ⟨location, hresolve, hentry⟩ := FileTree.readText_eq_ok_iff.1 h
  have hlookup : files.lookup path = .ok (.file (.text settings.document)) :=
    FileTree.lookup_eq_ok_iff.2 ⟨_, hresolve, hentry, fun _ => rfl⟩
  have hexists : files.pathExists path = true := by simp [FileTree.pathExists, hlookup]
  cases hfault : settings.fault? <;> simp [load, hexists, h, ofDocument?_document, hfault]

/-- Settings that were saved stand at the path. -/
theorem readText_of_save (h : settings.save files path = (.ok (), after)) :
    after.readText path = .ok settings.document := by
  unfold save at h
  generalize files.createParent path = creation at h
  obtain ⟨created, between⟩ := creation
  cases created with
  | error cause => cases h
  | ok _ =>
    cases hwrite : between.writeText path settings.document with
    | error cause => simp [hwrite] at h
    | ok written =>
      simp only [hwrite, Prod.mk.injEq, true_and] at h
      exact h ▸ FileTree.readText_of_writeText hwrite

/-- Settings that were saved are loaded, unless they have a fault. -/
theorem load_eq_of_save (hsave : settings.save files path = (.ok (), after)) :
    (load after path).value = match settings.fault? with
      | some error => .error error
      | none => .ok settings :=
  load_of_readText_document (readText_of_save hsave)

/-- Settings with texts that look like other scalars, start with blanks, or have several lines. -/
def awkwardSettings : Settings where
  resourcesDir := some "null"
  templateFile := "  # two\n\n\tlines: [\"".toList ++ [Char.ofNat 7, '\r', '\n']
  logLevel := .trace
  logFile := some "~"
  outputExtension := "123"

theorem load_eq_of_save_awkwardSettings : ∃ after,
    awkwardSettings.save ⟨[], .empty⟩ "nested/settings.yaml" = (.ok (), after)
      ∧ (load after "nested/settings.yaml").value = .ok awkwardSettings := by
  -- The directory is created and the file written in it.
  have hsave : awkwardSettings.save ⟨[], .empty⟩ "nested/settings.yaml"
      = (.ok (), ⟨[], .ofList [(["nested".toList, "settings.yaml".toList],
          .file (.text awkwardSettings.document)), (["nested".toList], .directory)]⟩) := rfl
  have hfault : awkwardSettings.fault? = none := by decide +kernel
  refine ⟨_, hsave, ?_⟩
  have hload := load_eq_of_save hsave
  rwa [hfault] at hload

/-- Settings whose extension holds a slash. -/
def slashedSettings : Settings :=
  { default with outputExtension := "a/b" }

/-- Saving does not ask for admissible settings, so that not all that were saved are loaded. -/
theorem not_forall_load_eq_of_save :
    ¬∀ (settings : Settings) (files after : FileTree) (path : Text),
      settings.save files path = (.ok (), after) → (load after path).value = .ok settings := by
  intro h
  have hsave : slashedSettings.save ⟨[], .empty⟩ "s.yaml" = (.ok (), ⟨[], .ofList
      [(["s.yaml".toList], .file (.text slashedSettings.document))]⟩) := rfl
  have hload := load_of_readText_document (readText_of_save hsave)
  rw [h _ _ _ _ hsave] at hload
  exact nomatch hload

end Settings

end MaterialNode
