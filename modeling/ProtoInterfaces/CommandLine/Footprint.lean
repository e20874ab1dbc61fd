import ProtoInterfaces.CommandLine.Run
import ProtoInterfaces.Files.Change

/-!
# The footprint of a command line

The paths that a command line may read or write, so that what is found there can be gathered
before it runs. A command line that runs no batch has none.
-/
namespace ProtoInterfaces.CommandLine

/-- Whether a file may stand at a path, as far as its text tells. An input with a line feed is a
schema itself. -/
def mayLead (path : Text) : Bool :=
  !path.isEmpty && !path.contains '\n' && !FileTree.holdsNull path

/-- The paths that a batch may write. -/
def outputPaths (arguments : Arguments) : List Text :=
  match arguments.output with
  | .path path => path :: arguments.files.map (Batch.outputPath path)
  | _ => []

/-- The paths that a command line may use, each after those that it leads through. -/
def footprint (arguments : List Text) : List Text :=
  match Arguments.parse arguments with
  | .error _ => []
  | .ok arguments =>
    ((arguments.files.filter mayLead) ++
      (outputPaths arguments).filter fun path => !FileTree.holdsNull path).flatMap Path.stages

end ProtoInterfaces.CommandLine
