import MaterialNode.Files.Path
import MaterialNode.Table
import MaterialNode.Text.Cut

/-!
# File Trees

A file tree holds directories and files by their location, the list of names that leads to
them from the root. Trees hold no links, no devices and no other special files, and all of a
tree can be read. Paths are resolved from the working directory, through directories that
must exist. The readers leave the tree alone, and the writers return the tree after the
write.

A write opens its file first, which creates or empties it, and the text follows. So a write
that storage breaks off leaves a file with the first part of the text.
-/

namespace MaterialNode

/-- Why an operation on files failed. -/
inductive FileError where
  /-- A name on the way, or the file itself, does not exist. -/
  | notFound
  /-- What should be created exists. -/
  | alreadyExists
  /-- A name that must be a directory is a file. -/
  | notDirectory
  /-- What should be a file is a directory. -/
  | isDirectory
  /-- The file holds bytes that are no UTF-8 text. -/
  | notText
  /-- A name of the path, or the whole path, is longer than names and paths can be. -/
  | nameTooLong
  /-- The path holds a zero, which ends paths. -/
  | zeroInPath
  deriving DecidableEq

namespace FileError

/-- The wording of an error. -/
def message : FileError → Text
  | .notFound => "No such file or directory (os error 2)"
  | .alreadyExists => "File exists (os error 17)"
  | .notDirectory => "Not a directory (os error 20)"
  | .isDirectory => "Is a directory (os error 21)"
  | .notText => "stream did not contain valid UTF-8"
  | .nameTooLong => "File name too long (os error 36)"
  | .zeroInPath => "file name contained an unexpected NUL byte"

end FileError

/-- What a file holds. -/
inductive Content where
  /-- UTF-8 text. -/
  | text (text : Text)
  /-- Bytes that are no UTF-8 text. -/
  | bytes (bytes : List UInt8)
  deriving DecidableEq

namespace Content

/-- The content that bytes make up. -/
def ofBytes (bytes : List UInt8) : Content :=
  match String.fromUTF8? ⟨bytes.toArray⟩ with
  | some decoded => .text decoded.toList
  | none => .bytes bytes

/-- What a file holds that took only the first bytes of a text, or all if it has no more. They
can end within a character. -/
def ofStart (bytes : Nat) (text : Text) : Content :=
  .ofBytes ((text.flatMap String.utf8EncodeChar).take bytes)

end Content

/-- What stands at a location: a directory or a file with content of its own, and no link,
device or other special file. -/
inductive Entry where
  /-- A directory. -/
  | directory
  /-- A file. -/
  | file (content : Content)
  deriving DecidableEq

/-- The names that lead from the root to a place. -/
abbrev Location := List Text

/-- The absolute path of a location. -/
def Location.path (location : Location) : Text := '/' :: Text.joinWith ['/'] location

/-- Directories and files by location, and the directory that relative paths start in. Each
location has its own entry, so that a write to one changes no other. -/
structure FileTree where
  /-- The location of the working directory. -/
  workDir : Location
  /-- What stands at each location, the root directory apart. -/
  table : Table Location Entry
  deriving DecidableEq

/-- How storage fails a write, with the wording of the system. -/
inductive WriteFault where
  /-- The file is not opened. -/
  | refused (wording : Text)
  /-- The file is opened, and so created or emptied, but takes only the first bytes of the
  text. -/
  | brokenOff (bytes : Nat) (wording : Text)
  deriving DecidableEq

/-- Why a write failed. -/
inductive WriteError where
  /-- The path leads to no place for a file. -/
  | path (cause : FileError)
  /-- Storage failed the write. -/
  | storage (fault : WriteFault)
  deriving DecidableEq

namespace WriteError

/-- The wording of an error. -/
def message : WriteError → Text
  | .path cause => cause.message
  | .storage (.refused wording) => wording
  | .storage (.brokenOff _ wording) => wording

/-- Whether the file was opened before the write failed. -/
def isOpened : WriteError → Bool
  | .storage (.brokenOff _ _) => true
  | _ => false

end WriteError

/-- The storage that results are written to, by which of their writes it fails. Directories
and the log file are taken to be written without such a fault. -/
structure Storage where
  /-- The fault in writing a text to a path of a tree, if storage fails the write. -/
  fault? : FileTree → (path text : Text) → Option WriteFault

/-- The storage that fails no write. -/
def Storage.ample : Storage := ⟨fun _ _ _ => none⟩

namespace FileTree

/-- What stands at a location. The root is a directory. -/
def entryAt? (tree : FileTree) (location : Location) : Option Entry :=
  if location.isEmpty then some .directory else tree.table.get? location

/-- `tree` with the given entry at a location, in place of what stood there. -/
def put (tree : FileTree) (location : Location) (entry : Entry) : FileTree :=
  { tree with table := tree.table.insert location entry }

/-- The most bytes that a name can have. -/
def maxNameBytes : Nat := 255

/-- The most bytes that a path can have. -/
def maxPathBytes : Nat := 4095

/-- Whether the last name of a location is longer than names can be, so that nothing can
stand there. -/
def isTooLong (location : Location) : Bool :=
  location.getLast?.any fun name => decide (maxNameBytes < name.byteLength)

/-- Why there is nothing at a location: nothing may be able to stand there. -/
def absence (location : Location) : FileError :=
  if isTooLong location then .nameTooLong else .notFound

/-- Follows names from a directory through directories that exist. -/
def follow (tree : FileTree) (location : Location) : List Text → Except FileError Location
  | [] => .ok location
  | name :: rest =>
    if name = ['.'] then follow tree location rest
    else if name = ['.', '.'] then follow tree location.dropLast rest
    else match tree.entryAt? (location ++ [name]) with
      | none => .error (absence (location ++ [name]))
      | some (.file _) => .error .notDirectory
      | some .directory => follow tree (location ++ [name]) rest

/-- The place that a path leads to. -/
structure Place where
  /-- Its location, in a directory that exists. -/
  location : Location
  /-- Whether the path demands a directory, as one does that ends in a slash. -/
  asDirectory : Bool

/-- The place that a path leads to. Only the names before the last are looked up, so that
it depends on what is to be done there which fault of the last name is found first. -/
def resolve (tree : FileTree) (path : Text) : Except FileError Place :=
  let names := (Text.fields '/' path).filter fun piece => !piece.isEmpty
  let start := if Path.isAbsolute path then [] else tree.workDir
  if path.contains '\x00' then .error .zeroInPath
  else if maxPathBytes < path.byteLength then .error .nameTooLong
  else match names.getLast? with
    | none => if path.isEmpty then .error .notFound else .ok ⟨[], true⟩
    | some last =>
      match tree.follow start names.dropLast with
      | .error error => .error error
      | .ok parent =>
        if last = ['.'] then .ok ⟨parent, true⟩
        else if last = ['.', '.'] then .ok ⟨parent.dropLast, true⟩
        else .ok ⟨parent ++ [last], path.getLast? == some '/'⟩

/-- The locations that names lead through from a directory, ends included. -/
def locationsFrom (location : Location) : List Text → List Location
  | [] => [location]
  | name :: rest =>
    location :: locationsFrom
      (if name = ['.'] then location
        else if name = ['.', '.'] then location.dropLast
        else location ++ [name]) rest

/-- The locations that a path leads through, ends included. -/
def locationsOn (tree : FileTree) (path : Text) : List Location :=
  locationsFrom (if Path.isAbsolute path then [] else tree.workDir)
    ((Text.fields '/' path).filter fun piece => !piece.isEmpty)

/-- What a path leads to. -/
def lookup (tree : FileTree) (path : Text) : Except FileError Entry := do
  let place ← tree.resolve path
  match tree.entryAt? place.location with
  | none => .error (absence place.location)
  | some .directory => .ok .directory
  | some (.file content) =>
    if place.asDirectory then .error .notDirectory else .ok (.file content)

/-- Whether a path leads to a file or directory. -/
def pathExists (tree : FileTree) (path : Text) : Bool :=
  match tree.lookup path with
  | .ok _ => true
  | .error _ => false

/-- Whether a path leads to a file. -/
def isFile (tree : FileTree) (path : Text) : Bool :=
  match tree.lookup path with
  | .ok (.file _) => true
  | _ => false

/-- Whether a path leads to a directory. -/
def isDirectory (tree : FileTree) (path : Text) : Bool :=
  match tree.lookup path with
  | .ok .directory => true
  | _ => false

/-- The text of the file that a path leads to. -/
def readText (tree : FileTree) (path : Text) : Except FileError Text := do
  match ← tree.lookup path with
  | .directory => .error .isDirectory
  | .file (.bytes _) => .error .notText
  | .file (.text text) => .ok text

/-- The location of the file that a write to a path creates or replaces. A path that demands
a directory is not written to, whatever stands or can stand there. -/
def writable (tree : FileTree) (path : Text) : Except FileError Location := do
  let place ← tree.resolve path
  if place.asDirectory ∨ tree.entryAt? place.location = some .directory then .error .isDirectory
  else if isTooLong place.location then .error .nameTooLong
  else .ok place.location

/-- The tree with a content in the file that a write to a path creates or replaces. -/
def writeContent (tree : FileTree) (path : Text) (content : Content) :
    Except FileError FileTree := do
  return tree.put (← tree.writable path) (.file content)

/-- The tree after a text is written to a path, in place of what the file held. This is the
write that storage does not fail. -/
def writeText (tree : FileTree) (path text : Text) : Except FileError FileTree :=
  tree.writeContent path (.text text)

/-- Writes a text to a path on a storage, and returns whether this worked with the tree
afterwards. A file that was opened stays when the write is broken off. -/
def writeOn (tree : FileTree) (storage : Storage) (path text : Text) :
    Except WriteError Unit × FileTree :=
  match tree.writable path with
  | .error cause => (.error (.path cause), tree)
  | .ok location =>
    match storage.fault? tree path text with
    | none => (.ok (), tree.put location (.file (.text text)))
    | some (.refused wording) => (.error (.storage (.refused wording)), tree)
    | some (.brokenOff bytes wording) =>
      (.error (.storage (.brokenOff bytes wording)),
        tree.put location (.file (.ofStart bytes text)))

/-- `content` with a text after it. -/
def extend (content : Content) (text : Text) : Content :=
  match content with
  | .text start => .text (start ++ text)
  | .bytes bytes => .bytes (bytes ++ (String.ofList text).toUTF8.toList)

/-- The tree after a text is put at the end of the file at a location, which is created if
it does not exist. -/
def extendFile (tree : FileTree) (location : Location) (text : Text) : FileTree :=
  match tree.entryAt? location with
  | some (.file content) => tree.put location (.file (extend content text))
  | _ => tree.put location (.file (.text text))

/-- The tree after a directory is created at a path. -/
def createDirectory (tree : FileTree) (path : Text) : Except FileError FileTree := do
  let place ← tree.resolve path
  match tree.entryAt? place.location with
  | some _ => .error .alreadyExists
  | none =>
    if isTooLong place.location then .error .nameTooLong
    else return tree.put place.location .directory

/-- Creates a directory and the directories above it, as far as they do not exist, and
returns whether this worked with the tree afterwards. Directories that were created before a
failure stay. At most `fuel` directories are created. -/
def createDirectoriesWith (fuel : Nat) (tree : FileTree) (path : Text) :
    Except FileError Unit × FileTree :=
  if path.isEmpty then (.ok (), tree)
  else match tree.createDirectory path with
    | .ok tree => (.ok (), tree)
    -- The directory above does not exist: it is created, and then this one.
    | .error .notFound =>
      match fuel, Path.parent? path with
      | fuel + 1, some parent =>
        match createDirectoriesWith fuel tree parent with
        | (.error error, tree) => (.error error, tree)
        | (.ok _, tree) =>
          match tree.createDirectory path with
          | .ok tree => (.ok (), tree)
          | .error error => (if tree.isDirectory path then .ok () else .error error, tree)
      | _, _ => (.error .notFound, tree)
    | .error error => (if tree.isDirectory path then .ok () else .error error, tree)

/-- Creates a directory and the directories above it, as far as they do not exist, and
returns whether this worked with the tree afterwards. A path has no more directories above
it than characters. -/
def createDirectories (tree : FileTree) (path : Text) : Except FileError Unit × FileTree :=
  createDirectoriesWith path.length tree path

/-- Creates the directory that a path puts a file into, if the path has one above it. -/
def createParent (tree : FileTree) (path : Text) : Except FileError Unit × FileTree :=
  match Path.parent? path with
  | some parent => tree.createDirectories parent
  | none => (.ok (), tree)

/-- The names that lead from `base` down to `location`, if it lies below. -/
def below? (base location : Location) : Option (List Text) :=
  if base.isPrefixOf location then some (location.drop base.length) else none

/-- What stands below a location, with the names that lead down to it. -/
def entriesBelow (tree : FileTree) (base : Location) : List (List Text × Entry) :=
  tree.table.entries.filterMap fun (location, entry) =>
    (below? base location).map fun names => (names, entry)

/-- The path of what stands at the end of names that lead down from a directory's path. -/
def pathBelow (path : Text) (names : List Text) : Text := names.foldl Path.join path

/-- What a search for files comes upon. -/
structure Search where
  /-- The files, by path. -/
  files : List Text
  /-- The paths that the search cannot go below, with what stands in its way. -/
  barred : List (Text × FileError)

/-- A search for the files that a path leads to: the file itself, or all files in and below
the directory. What a directory holds is come upon only if the directory itself is, and can
be read by its path: far down in a tree, a path can be too long for that. -/
def search (tree : FileTree) (path : Text) : Search :=
  match tree.lookup path, tree.resolve path with
  | .error cause, _ | _, .error cause => ⟨[], [(path, cause)]⟩
  | .ok (.file _), .ok _ => ⟨[path], []⟩
  | .ok .directory, .ok place =>
    let reached := (tree.entriesBelow place.location).filter fun (names, _) =>
      tree.isDirectory (pathBelow path names.dropLast)
    ⟨reached.filterMap fun (names, entry) =>
        match entry with
        | .file _ => some (pathBelow path names)
        | .directory => none,
      reached.filterMap fun (names, entry) =>
        match entry, tree.lookup (pathBelow path names) with
        | .directory, .error cause => some (pathBelow path names, cause)
        | _, _ => none⟩

/-- A location holds what was last put there, and others what they held. -/
theorem entryAt?_put (tree : FileTree) (location other : Location) (entry : Entry)
    (h : location ≠ []) :
    (tree.put location entry).entryAt? other
      = if other = location then some entry else tree.entryAt? other := by
  unfold entryAt? put
  by_cases hother : other = []
  · simp [hother, Ne.symm h]
  · simp [hother, Table.get?_insert]

end FileTree
end MaterialNode
