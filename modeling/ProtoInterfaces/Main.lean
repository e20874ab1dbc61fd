import ProtoInterfaces.CommandLine.Footprint

/-!
# The command

Gathers what stands along the footprint of the command line, runs it, writes what has changed,
and prints. Everything else is decided by the library.
-/
open ProtoInterfaces

/-- What stands at a path on disk. A file that may not be read ends the command. -/
def nodeOnDisk? (path : Text) : IO (Option Node) := do
  match ← (IO.FS.readBinFile (String.ofList path)).toBaseIO with
  | .ok content => return some (.file content.toList)
  | .error (.inappropriateType ..) => return some .directory
  | .error (.permissionDenied name code details) =>
    throw (.permissionDenied name code details)
  | .error _ => return none

/-- The file tree with what stands at a path on disk. -/
def observe (tree : FileTree) (path : Text) : IO FileTree := do
  match ← nodeOnDisk? path with
  | some found => return tree.record path found
  | none => return tree

/-- Makes a directory or writes a file on disk. -/
def commit (change : Text × Node) : IO Unit :=
  match change with
  | (path, .directory) => IO.FS.createDir (String.ofList path)
  | (path, .file content) => IO.FS.writeBinFile (String.ofList path) ⟨content.toArray⟩

/-- Runs the command line on the files on disk, as seen from the current directory. A fault that the
command does not report itself is reported here and ends it with the exit code 1. -/
def main (arguments : List String) : IO UInt32 := do
  let arguments := arguments.map String.toList
  let working : Location := ⟨Path.segments (← IO.currentDir).toString.toList⟩
  let found ← (CommandLine.footprint arguments).foldlM observe { working }
  let effect := CommandLine.run found arguments
  (found.changes effect.tree).forM commit
  IO.print (String.ofList effect.output)
  IO.eprint (String.ofList effect.errors)
  match effect.outcome with
  | .ok code => return code.toUInt32
  | .error fault =>
    IO.eprintln (String.ofList fault.message)
    return 1
