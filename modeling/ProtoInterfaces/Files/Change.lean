import ProtoInterfaces.Files.Tree

/-!
# Changes of a file tree

A file tree is pieced together from what is found along paths, and two trees are compared by what
the later one holds and the earlier one does not. A directory is always found, and always made,
before what it holds.
-/
namespace ProtoInterfaces

/-- The paths that a path leads through, itself at the end. -/
def Path.stages (path : Text) : List Text :=
  (List.range (segments path).length).map fun before =>
    root path ++ Text.join ['/'] ((segments path).take (before + 1))

/-- A location as a path from the root. -/
def Location.path (location : Location) : Text := '/' :: Text.join ['/'] location.names

namespace FileTree

/-- The tree with what was found at a path, if the places that the path leads through are in the
tree. -/
def record (tree : FileTree) (path : Text) (found : Node) : FileTree :=
  match tree.follow (tree.start path) (Path.segments path) with
  | .ok location => tree.put location found
  | .error _ => tree

/-- What a later tree holds and an earlier one does not, by path, in the order in which it was
put there. -/
def changes (earlier later : FileTree) : List (Text × Node) :=
  (later.entries.reverse.filter fun entry => earlier.lookup entry.1 ≠ some entry.2).map
    fun entry => (entry.1.path, entry.2)

end FileTree

end ProtoInterfaces
