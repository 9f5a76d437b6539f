import MaterialNode.SortKey
import MaterialNode.Text

/-!
# Paths

A path is a text whose names are separated by slashes. Paths are joined and shown as they
are spelled, and compared by their components: repeated slashes and `.` after the first
place make no difference, and `..` is a component like any other.
-/

namespace MaterialNode.Path

/-- A component of a path. -/
inductive Component where
  /-- The slash that an absolute path starts with. -/
  | root
  /-- The dot that a relative path starts with. -/
  | current
  /-- Two dots. -/
  | parent
  /-- A name. -/
  | name (name : Text)
  deriving DecidableEq

namespace Component

/-- The place of a kind of component in the order of components. -/
def rank : Component → Nat
  | .root => 0
  | .current => 1
  | .parent => 2
  | .name _ => 3

/-- Whether one component comes before another. Names are ordered as texts. -/
def before : Component → Component → Bool
  | .name a, .name b => SortKey.before a b
  | a, b => decide (a.rank < b.rank)

instance : SortKey Component where
  before := before
  irrefl a := by cases a <;> simp [before, SortKey.irrefl]
  trans {a b c} hab hbc := by
    cases a <;> cases b <;> cases c <;> simp_all [before, rank]
    exact SortKey.trans hab hbc
  connected {a b} hab hba := by
    cases a <;> cases b <;> simp_all [before, rank]
    exact SortKey.connected hab hba

/-- The component that a piece between slashes stands for, if it stands for one. -/
def ofPiece? (piece : Text) : Option Component :=
  if piece.isEmpty ∨ piece = ['.'] then none
  else if piece = ['.', '.'] then some .parent
  else some (.name piece)

end Component

/-- Whether a path starts at the root. -/
def isAbsolute (path : Text) : Bool := path.head? == some '/'

/-- The component that a path opens with before its names: the root or a leading dot. -/
def opening? (path : Text) : Option Component :=
  if isAbsolute path then some .root
  else if (Text.fields '/' path).head? = some ['.'] then some .current
  else none

/-- The components of a path. -/
def components (path : Text) : List Component :=
  (opening? path).toList ++ (Text.fields '/' path).filterMap Component.ofPiece?

/-- Whether one path comes before another, by the first component in which they differ. -/
def before (first second : Text) : Bool :=
  SortKey.before (components first) (components second)

/-- Whether two paths have the same components. -/
def equivalent (first second : Text) : Bool := decide (components first = components second)

/-- `name` taken relative to `base`. An absolute name stands for itself. -/
def join (base name : Text) : Text :=
  if isAbsolute name then name
  else if base.isEmpty ∨ base.getLast? = some '/' then base ++ name
  else base ++ '/' :: name

/-- `pieces` without the pieces at the end that stand for no component. -/
def dropIdle (pieces : List Text) : List Text :=
  (pieces.reverse.dropWhile fun piece => (Component.ofPiece? piece).isNone).reverse

/-- The pieces of a path after its opening, up to the last that stands for a component. -/
def namePieces (path : Text) : List Text :=
  let body := if (opening? path).isSome then path.drop 1 else path
  dropIdle (Text.fields '/' body)

/-- The path without its last component; none for the root and the empty path. -/
def parent? (path : Text) : Option Text :=
  let opening := if (opening? path).isSome then path.take 1 else []
  match namePieces path with
  -- A lone dot has the empty path above it.
  | [] => if opening? path = some .current then some [] else none
  | pieces => some (opening ++ Text.joinWith ['/'] (dropIdle pieces.dropLast))

/-- The last component of a path, if it is a name. -/
def fileName? (path : Text) : Option Text :=
  match (components path).getLast? with
  | some (.name name) => some name
  | _ => none

/-- `path` put into a sorted list, before the paths that it does not come after. -/
def insertSorted (path : Text) : List Text → List Text
  | [] => [path]
  | first :: rest =>
    if before first path then first :: insertSorted path rest else path :: first :: rest

/-- `paths` in ascending order. Paths with the same components keep their order. -/
def sort : List Text → List Text
  | [] => []
  | path :: rest => insertSorted path (sort rest)

/-- `paths` without those that have the components of `last` or of the path kept before
them. -/
def dropRepeatsAfter (last : Text) : List Text → List Text
  | [] => []
  | path :: rest =>
    if equivalent last path then dropRepeatsAfter last rest
    else path :: dropRepeatsAfter path rest

/-- `paths` with each run of paths with the same components reduced to its first. -/
def dropRepeats : List Text → List Text
  | [] => []
  | path :: rest => path :: dropRepeatsAfter path rest

/-- Sorting only reorders. -/
theorem sort_perm (paths : List Text) : (sort paths).Perm paths := by
  have insert_perm : ∀ (path : Text) (sorted : List Text),
      (insertSorted path sorted).Perm (path :: sorted) := by
    intro path sorted
    induction sorted with
    | nil => simp [insertSorted]
    | cons first rest ih =>
      simp only [insertSorted]
      split
      · exact (ih.cons first).trans (.swap ..)
      · exact .refl _
  induction paths with
  | nil => simp [sort]
  | cons path rest ih => exact (insert_perm path _).trans (ih.cons path)

end MaterialNode.Path
