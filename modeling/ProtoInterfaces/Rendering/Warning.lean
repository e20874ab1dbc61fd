import ProtoInterfaces.Text.Blank
import ProtoInterfaces.Text.Quoted

/-!
# Warnings

A line that should declare something and cannot be read is kept as it is, with a warning that
says what was expected and shows the line without the blanks around it.
-/
namespace ProtoInterfaces

/-- What a line that cannot be read was expected to be. -/
inductive Expectation where
  | messageLine
  | serviceLine
  | methodLine
  | packageLine
  | fieldLine
  /-- A method on its own, outside a document. -/
  | methodDeclaration
  deriving DecidableEq, Repr

/-- The words for what was expected. -/
def Expectation.description : Expectation → Text
  | .messageLine => "message_open line".toList
  | .serviceLine => "service_open line".toList
  | .methodLine => "rpc line".toList
  | .packageLine => "package line".toList
  | .fieldLine => "field line".toList
  | .methodDeclaration => "rpc declaration".toList

/-- A line that cannot be read and is kept as it is. -/
structure Warning where
  /-- What the line was expected to be. -/
  expected : Expectation
  /-- The line without the blanks around it. -/
  line : Text
  deriving DecidableEq, Repr

namespace Warning

/-- The warning about a line. -/
def about (expected : Expectation) (line : Text) : Warning := ⟨expected, line.trim⟩

/-- The report of a warning, with its line feed. -/
def report (warning : Warning) : Text :=
  "Warning: unrecognised ".toList ++ warning.expected.description ++
    ", left unchanged: ".toList ++ Text.quoted warning.line ++ ['\n']

/-- The reports of warnings, one after the other. -/
def reports (warnings : List Warning) : Text := warnings.flatMap report

end Warning

end ProtoInterfaces
