import ProtoInterfaces.Fault
import ProtoInterfaces.Files.Path

/-!
# File trees

A file tree holds directories and regular files, no links and no special files, by their location,
which is given by names from the root down. One of its directories is the working directory: a path
is followed from there, or from the root if it begins there, segment by segment, and every place
that is gone through has to be a directory. However it is reached, a place has one location.
-/
namespace ProtoInterfaces

/-- What stands at a location. -/
inductive Node where
  | directory
  | file (content : List UInt8)
  deriving DecidableEq, Repr

/-- A place in a file tree. -/
structure Location where
  /-- Names from the root down. -/
  names : List Text
  deriving DecidableEq, Repr

namespace Location

/-- The place above all others. -/
def root : Location := ⟨[]⟩

/-- The place of a name within a location. -/
def child (location : Location) (name : Text) : Location := ⟨location.names ++ [name]⟩

/-- The place above a location. The root is above itself. -/
def parent (location : Location) : Location := ⟨location.names.dropLast⟩

/-- The names that lead down to a location from another one, if it lies there or below. -/
def below? (location other : Location) : Option (List Text) :=
  if other.names.isPrefixOf location.names then some (location.names.drop other.names.length)
  else none

end Location

/-- Directories and files by location. -/
structure FileTree where
  /-- The working directory. It is one, and so is every place above it. -/
  working : Location := ⟨["working".toList]⟩
  /-- What stands at each other location that is taken, the latest entry of a location first. -/
  entries : List (Location × Node) := []
  deriving Repr

namespace FileTree

/-- Where a path begins. -/
def start (tree : FileTree) (path : Text) : Location :=
  if Path.isAbsolute path then .root else tree.working

/-- What stands at a location. -/
def lookup (tree : FileTree) (location : Location) : Option Node :=
  if (tree.working.below? location).isSome then some .directory else tree.entries.lookup location

/-- The tree with a node at a location, in the place of what stood there. -/
def put (tree : FileTree) (location : Location) (node : Node) : FileTree :=
  { tree with entries := (location, node) :: tree.entries.filter fun entry => entry.1 ≠ location }

/-- After a node is put at a location that was no directory, it stands there. -/
theorem lookup_put_self {tree : FileTree} {location : Location} {node : Node}
    (vacant : tree.lookup location ≠ some .directory) :
    (tree.put location node).lookup location = some node := by
  have apart : (tree.working.below? location).isSome = false := by
    rw [← Bool.not_eq_true]
    intro above
    simp [lookup, above] at vacant
  simp [lookup, put, apart]

/-- After a node is put at a location, every other location holds what it held. -/
theorem lookup_put_of_ne {tree : FileTree} {location other : Location} {node : Node}
    (distinct : other ≠ location) :
    (tree.put location node).lookup other = tree.lookup other := by
  have elsewhere : (other == location) = false := by simpa using distinct
  have kept (entries : List (Location × Node)) :
      (entries.filter fun entry => decide (entry.1 ≠ location)).lookup other =
        entries.lookup other := by
    induction entries with
    | nil => rfl
    | cons entry rest ih =>
      obtain ⟨place, found⟩ := entry
      by_cases here : place = location
      · rw [List.filter_cons_of_neg (by simp [here]), ih, List.lookup_cons, here, elsewhere]
      · rw [List.filter_cons_of_pos (by simp [here]), List.lookup_cons, List.lookup_cons, ih]
  simp only [lookup, put, List.lookup_cons, elsewhere, kept]

/-- The place that segments lead to from a location, which has to be a directory if there are
any. The place reached need not be taken. -/
def follow (tree : FileTree) : Location → List Text → Except FileCause Location
  | location, [] => .ok location
  | location, segment :: rest =>
    match tree.lookup location with
    | none => .error .notFound
    | some (.file _) => .error .notDirectory
    | some .directory =>
      if segment = Path.here then follow tree location rest
      else if segment = Path.above then follow tree location.parent rest
      else if Utf8.size segment > Path.longestName then .error .nameTooLong
      else follow tree (location.child segment) rest

/-- The place that a path leads to through the given segments. -/
def locate (tree : FileTree) (path : Text) (segments : List Text) : Except FileCause Location :=
  if path.isEmpty then .error .notFound
  else if Utf8.size path > Path.longestPath then .error .nameTooLong
  else tree.follow (tree.start path) segments

/-- The segments of a path, with one that stays in place for a slash at its end, so that the
place before that slash has to be a directory. -/
def segmentsInto (path : Text) : List Text :=
  Path.segments path ++ if Path.endsWithSlash path then [Path.here] else []

/-- What a path leads to. -/
def find (tree : FileTree) (path : Text) : Except FileCause Node :=
  match tree.locate path (segmentsInto path) with
  | .error cause => .error cause
  | .ok location =>
    match tree.lookup location with
    | some node => .ok node
    | none => .error .notFound

/-- Whether a path holds a null character, which no path of a file may. -/
def holdsNull (path : Text) : Bool := path.contains '\x00'

/-- Whether a path leads to something. -/
def exists? (tree : FileTree) (path : Text) : Bool :=
  !holdsNull path && match tree.find path with
    | .ok _ => true
    | .error _ => false

/-- Whether a path leads to a file. -/
def isFile (tree : FileTree) (path : Text) : Bool :=
  !holdsNull path && match tree.find path with
    | .ok (.file _) => true
    | _ => false

/-- Whether a path leads to a directory. -/
def isDirectory (tree : FileTree) (path : Text) : Bool :=
  !holdsNull path && match tree.find path with
    | .ok .directory => true
    | _ => false

/-- The fault of a path that cannot be used. -/
def faultOf (path : Text) (cause : FileCause) : Fault := .file ⟨cause, path⟩

/-- The bytes of the file at a path, which is used in its shortest form. -/
def read (tree : FileTree) (path : Text) : Except Fault (List UInt8) :=
  let shortest := Path.normal path
  if holdsNull path then .error .nullInPath
  else
    match tree.find shortest with
    | .ok (.file content) => .ok content
    | .ok .directory => .error (faultOf shortest .isDirectory)
    | .error cause => .error (faultOf shortest cause)

/-- The tree after bytes are written to the file at a path, which is used in its shortest form.
The file is made if its directory exists. -/
def write (tree : FileTree) (path : Text) (content : List UInt8) : Except Fault FileTree :=
  let shortest := Path.normal path
  if holdsNull path then .error .nullInPath
  else
    match tree.locate shortest (Path.segments shortest) with
    | .error cause => .error (faultOf shortest cause)
    | .ok location =>
      match tree.lookup location with
      | some .directory => .error (faultOf shortest .isDirectory)
      | _ => .ok (tree.put location (.file content))

/-- The tree after a directory is made at a path, where nothing may stand yet. -/
def makeDirectory (tree : FileTree) (path : Text) : Except Fault FileTree :=
  if holdsNull path then .error .nullInPath
  else
    match tree.locate path (Path.segments path) with
    | .error cause => .error (faultOf path cause)
    | .ok location =>
      match tree.lookup location with
      | some _ => .error (faultOf path .alreadyExists)
      | none => .ok (tree.put location .directory)

/-- The tree after a directory is made at a path unless it is one already. -/
def ensureDirectory (tree : FileTree) (path : Text) : FileTree × Option Fault :=
  match tree.makeDirectory path with
  | .ok made => (made, none)
  | .error fault => (tree, if tree.isDirectory path then none else some fault)

/-- Whether a fault says that a place is taken. -/
def saysTaken : Fault → Bool
  | .file fault => fault.cause = .alreadyExists
  | _ => false

/-- The tree after a directory and those missing above it are made, and the fault that ended the
making, if any. What was made before a fault stays. That a missing directory above turns out to
be taken ends nothing. -/
def makeDirectories (tree : FileTree) (path : Text) : FileTree × Option Fault :=
  let parts := Path.parentAndName path
  if missing : parts.2 ≠ [] ∧ parts.1 ≠ [] ∧ tree.exists? parts.1 = false then
    have : parts.1.length < path.length := Path.length_parentAndName missing.1
    let (made, fault) := makeDirectories tree parts.1
    match fault.filter fun fault => !saysTaken fault with
    | some fault => (made, some fault)
    | none => if parts.2 = Path.here then (made, none) else made.ensureDirectory path
  else tree.ensureDirectory path
termination_by path.length

/-- The tree with a node at a path and directories above it, for building a tree. -/
def place (tree : FileTree) (path : Text) (node : Node) : FileTree :=
  go tree (tree.start path) (Path.segments path)
where
  /-- Goes down the segments and puts the node at the last of them. -/
  go (tree : FileTree) (location : Location) : List Text → FileTree
    | [] => tree
    | [segment] => tree.put (location.child segment) node
    | segment :: rest =>
      let next := location.child segment
      go (if (tree.lookup next).isSome then tree else tree.put next .directory) next rest

/-- Everything below the working directory, by path in the order of code points. -/
def listing (tree : FileTree) : List (Text × Node) :=
  (tree.entries.filterMap fun entry => (entry.1.below? tree.working).map fun names =>
    (Text.join ['/'] names, entry.2)).mergeSort fun left right => Text.noLater left.1 right.1

end FileTree

end ProtoInterfaces
