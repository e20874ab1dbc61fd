import ProtoInterfaces.CommandLine.Arguments

/-!
# Running a command line

A command line either asks for help, cannot be understood, or runs a batch. A refused request
and a path that cannot be used are reported and end the command with an exit code of their own;
other faults are left to the caller.
-/
namespace ProtoInterfaces.CommandLine

/-- What a command line does. -/
structure Effect where
  /-- The exit code, or a fault that is left to the caller. -/
  outcome : Except Fault Nat
  /-- What is printed. -/
  output : Text
  /-- What is reported beside the output. -/
  errors : Text
  /-- The file tree afterwards. -/
  tree : FileTree

/-- The settings that arguments ask for. A stream behaviour without a name is an empty list of
names. -/
def Arguments.settings (arguments : Arguments) : Settings where
  keepComments := some arguments.keepComments
  stream :=
    match arguments.streamBehavior with
    | some behavior => some (.text behavior.name)
    | none => some (.list [])
  stripEmptyLines := some !arguments.keepEmptyLines

/-- Whether a fault is reported by the command itself. -/
def isReported : Fault → Bool
  | .configuration _ | .file _ => true
  | _ => false

/-- The report of a fault that ends the command. -/
def fatalReport (fault : Fault) : Text := "FATAL: ".toList ++ fault.message ++ ['\n']

/-- What arguments do with a file tree. -/
def Arguments.run (tree : FileTree) (arguments : Arguments) : Batch.Report :=
  match arguments.settings.choose with
  | .error fault => ⟨.error (.configuration fault), [], [], tree⟩
  | .ok options => Batch.run tree ⟨arguments.files, arguments.output, options⟩

/-- What a command does after its batch. -/
def conclude (report : Batch.Report) : Effect :=
  let warnings := Warning.reports report.warnings
  match report.outcome with
  | .ok _ => ⟨.ok 0, report.printed, warnings, report.tree⟩
  | .error fault =>
    if isReported fault then
      ⟨.ok 1, report.printed, warnings ++ fatalReport fault, report.tree⟩
    else ⟨.error fault, report.printed, warnings, report.tree⟩

/-- What a command line does with a file tree. -/
def run (tree : FileTree) (arguments : List Text) : Effect :=
  match Arguments.parse arguments with
  | .error .help => ⟨.ok 0, help, [], tree⟩
  | .error (.misused fault) => ⟨.ok 2, [], fault.report, tree⟩
  | .ok arguments => conclude (arguments.run tree)

end ProtoInterfaces.CommandLine
