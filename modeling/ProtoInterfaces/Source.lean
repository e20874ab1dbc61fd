import ProtoInterfaces.Files.Tree
import ProtoInterfaces.Text.Line
import ProtoInterfaces.Rendering.Document

/-!
# Sources

A schema comes as a value, the path of a file, bytes, or a stream of characters or of bytes. A
text given as a value is the schema itself unless it is on one line and names a file: by the
ending `.proto`, or because such a file exists. Files are read with line ends unified, bytes and
streams as they are, and one byte-order mark at the beginning is dropped.
-/
namespace ProtoInterfaces

/-- Where a schema comes from. -/
inductive Source where
  | value (given : Value)
  | path (path : Text)
  | bytes (content : List UInt8)
  | characterStream (content : Text)
  | byteStream (content : List UInt8)

namespace Source

/-- The mark that may stand at the beginning of a schema and says nothing about it. -/
def byteOrderMark : Char := '\uFEFF'

/-- A text without a byte-order mark at its beginning. -/
def dropMark : Text → Text
  | [] => []
  | c :: rest => if c = byteOrderMark then rest else c :: rest

/-- The text that bytes encode. -/
def decoded (content : List UInt8) : Except Fault Text :=
  match Utf8.decode content with
  | .ok text => .ok text
  | .error fault => .error (.undecodable fault)

/-- The text of the file at a path, with line ends unified. -/
def fileText (tree : FileTree) (path : Text) : Except Fault Text := do
  let content ← tree.read path
  let text ← decoded content
  return text.unifyLineEnds

/-- The ending of the name of a schema file. -/
def schemaEnding : Text := ".proto".toList

/-- Whether a text given as a value names a file. -/
def namesFile (tree : FileTree) (text : Text) : Bool :=
  !text.contains '\n' && (schemaEnding.isSuffixOf text || tree.isFile text)

/-- The text of a source, a mark at its beginning included. -/
def content (tree : FileTree) : Source → Except Fault Text
  | .value .null => .error (.configuration .noInput)
  | .value (.text []) => .error (.configuration .noInput)
  | .value (.text text) => if namesFile tree text then fileText tree text else .ok text
  | .value other => .error (.configuration (.unsupportedInput other.kindName))
  | .path name => fileText tree name
  | .bytes [] => .error (.configuration .noInput)
  | .bytes held => decoded held
  | .characterStream held => .ok held
  | .byteStream held => decoded held

/-- The schema that a source holds. -/
def read (tree : FileTree) (source : Source) : Except Fault Text :=
  match source.content tree with
  | .ok text => .ok (dropMark text)
  | .error fault => .error fault

/-- The rendering of the schema that a source holds. -/
def render (tree : FileTree) (options : Options) (source : Source) :
    Except Fault Rendering :=
  match source.read tree with
  | .ok text => .ok (renderDocument options text)
  | .error fault => .error fault

end Source

/-- The tree after the text of a rendering is written to the file at a path. -/
def Rendering.save (rendering : Rendering) (tree : FileTree) (path : Text) :
    Except Fault FileTree :=
  tree.write path (Utf8.encode rendering.text)

end ProtoInterfaces
