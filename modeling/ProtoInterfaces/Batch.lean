import ProtoInterfaces.Source

/-!
# Batches

A batch renders several named inputs. Every input is read before anything is written, so a
fault of reading leaves no trace. One rendering is printed or written to the output; several
are printed under headings or written into the output directory, each under the stem of its
input. Two inputs with one stem share a file, and the later one stays in it.
-/
namespace ProtoInterfaces.Batch

/-- Where the renderings of a batch go. -/
inductive Output where
  /-- They are printed. -/
  | printed
  /-- One goes into the file at a path, several into the directory there. -/
  | path (path : Text)
  /-- An output that was asked for without a name, by a flag with `--` attached to it, and cannot be
  written. -/
  | nameless
  deriving DecidableEq, Repr

/-- What a batch asks for. -/
structure Request where
  /-- Names of the inputs, or their texts. -/
  inputs : List Text
  /-- Where the renderings go. -/
  output : Output
  /-- What is chosen about the renderings. -/
  options : Options

/-- What a batch does. -/
structure Report where
  /-- The paths written, or the fault that ended the batch. -/
  outcome : Except Fault (List Text)
  /-- What is printed. -/
  printed : Text
  /-- Warnings about lines that could not be read, in order. -/
  warnings : List Warning
  /-- The file tree afterwards. -/
  tree : FileTree

/-- The renderings of inputs in order, up to the first that cannot be read, the warnings about
them, and the fault of that one. -/
def renderAll (tree : FileTree) (options : Options) :
    List Text → List Warning × Except Fault (List (Text × Rendering))
  | [] => ([], .ok [])
  | input :: rest =>
    match Source.render tree options (.value (.text input)) with
    | .error fault => ([], .error fault)
    | .ok rendering =>
      let (warnings, others) := renderAll tree options rest
      (rendering.warnings ++ warnings,
        match others with
        | .error fault => .error fault
        | .ok others => .ok ((input, rendering) :: others))

/-- What is printed of a rendering. -/
def printout (rendering : Rendering) : Text := rendering.text ++ ['\n']

/-- What is printed of a rendering among others: a heading with its input, then its text. -/
def headedPrintout (input : Text) (rendering : Rendering) : Text :=
  "// ----- ".toList ++ input ++ " -----\n\n".toList ++ printout rendering

/-- What is printed when renderings have been written. -/
def doneNotice : Text := "Done!\n".toList

/-- The path of a rendering in the output directory. -/
def outputPath (directory input : Text) : Text :=
  Path.within directory (Path.stem input ++ ".ts".toList)

/-- The tree after renderings are written into a directory one after the other, and the paths
written or the fault that ended the writing. -/
def writeAll (directory : Text) : FileTree → List (Text × Rendering) →
    FileTree × Except Fault (List Text)
  | tree, [] => (tree, .ok [])
  | tree, (input, rendering) :: rest =>
    match rendering.save tree (outputPath directory input) with
    | .error fault => (tree, .error fault)
    | .ok tree =>
      match writeAll directory tree rest with
      | (tree, .error fault) => (tree, .error fault)
      | (tree, .ok paths) => (tree, .ok (outputPath directory input :: paths))

/-- The tree after the output directory is made ready, and the fault that prevented it. -/
def prepareDirectory (tree : FileTree) (path : Text) : FileTree × Option Fault :=
  if tree.exists? path && !tree.isDirectory path then
    (tree, some (.configuration (.outputNotDirectory path)))
  else tree.makeDirectories path

/-- The report of writing a single rendering to a file. -/
def saveOne (tree : FileTree) (warnings : List Warning) (rendering : Rendering)
    (path : Text) : Report :=
  match rendering.save tree path with
  | .error fault => ⟨.error fault, [], warnings, tree⟩
  | .ok tree => ⟨.ok [path], doneNotice, warnings, tree⟩

/-- The report of writing several renderings into a directory. -/
def saveAll (tree : FileTree) (warnings : List Warning)
    (renderings : List (Text × Rendering)) (directory : Text) : Report :=
  match prepareDirectory tree directory with
  | (tree, some fault) => ⟨.error fault, [], warnings, tree⟩
  | (tree, none) =>
    match writeAll directory tree renderings with
    | (tree, .error fault) => ⟨.error fault, [], warnings, tree⟩
    | (tree, .ok paths) => ⟨.ok paths, doneNotice, warnings, tree⟩

/-- The report of renderings that could all be read. -/
def deliver (tree : FileTree) (warnings : List Warning) (output : Output) :
    List (Text × Rendering) → Report
  | [(_, rendering)] =>
    match output with
    | .printed => ⟨.ok [], printout rendering, warnings, tree⟩
    | .path path => saveOne tree warnings rendering path
    | .nameless => ⟨.error (.namelessOutput .file), [], warnings, tree⟩
  | renderings =>
    match output with
    | .printed => ⟨.ok [], renderings.flatMap fun (input, rendering) =>
        headedPrintout input rendering, warnings, tree⟩
    | .path directory => saveAll tree warnings renderings directory
    | .nameless => ⟨.error (.namelessOutput .directory), [], warnings, tree⟩

/-- What a batch does with a file tree. -/
def run (tree : FileTree) (request : Request) : Report :=
  match request.inputs with
  | [] => ⟨.error (.configuration .noInput), [], [], tree⟩
  | inputs =>
    match renderAll tree request.options inputs with
    | (warnings, .error fault) => ⟨.error fault, [], warnings, tree⟩
    | (warnings, .ok renderings) => deliver tree warnings request.output renderings

end ProtoInterfaces.Batch
