import MaterialNode.DocumentError
import MaterialNode.Log
import MaterialNode.Metadata.Reader
import MaterialNode.Text.Quoted

/-!
# Metadata Files

Info files and stage sections are read from files. An exporter tree is searched for its
info files, which are listed by path.
-/

namespace MaterialNode

namespace StageMetadata

/-- The stage section at a path. -/
def load (files : FileTree) (path : Text) : Logged (Except DocumentError StageMetadata) :=
  match files.readText path with
  | .error cause => ⟨.error (.file cause), []⟩
  | .ok text =>
    match (Json.read? text).bind ofJson? with
    | none => ⟨.error .json, []⟩
    | some info =>
      ⟨.ok info, [⟨.debug, .material, "Loaded stage info from " ++ path.quoted ++ ": "
        ++ Text.ofNat info.samples.size ++ " constant buffer sample set(s), "
        ++ Text.ofNat info.textures.size ++ " texture(s)"⟩]⟩

end StageMetadata

namespace InfoFile

/-- The info file at a path. -/
def load (files : FileTree) (path : Text) : Logged (Except DocumentError InfoFile) :=
  match files.readText path with
  | .error cause =>
    ⟨.error (.file cause), [⟨.error, .infoFiles, "Failed to load config file " ++ path.quoted
      ++ ": " ++ cause.message⟩]⟩
  | .ok text =>
    match (Json.read? text).bind ofJson? with
    | none =>
      ⟨.error .json,
        [⟨.error, .infoFiles, "Unable to parse config json in " ++ path.quoted ++ ":"⟩]⟩
    | some info =>
      ⟨.ok info, [⟨.debug, .infoFiles, "Loaded " ++ path.quoted ++ ": mesh '" ++ info.meshName
        ++ "', " ++ Text.ofNat info.materials.size ++ " material(s)"⟩]⟩

/-- Whether a path names an info file. -/
def isInfoPath (path : Text) : Bool := fileEnding.isSuffixOf ((Path.fileName? path).getD path)

/-- The info files under a path in ascending order. A path that leads nowhere has none. What
bars the search is reported. -/
def filesUnder (files : FileTree) (root : Text) : Logged (List Text) :=
  let found := files.search root
  ⟨Path.sort (found.files.filter isInfoPath), found.barred.map fun (path, cause) =>
    ⟨.warn, .infoFiles, "Skipping unreadable entry under " ++ root.quoted
      ++ ": IO error for operation on " ++ path ++ ": " ++ cause.message⟩⟩

end InfoFile
end MaterialNode
