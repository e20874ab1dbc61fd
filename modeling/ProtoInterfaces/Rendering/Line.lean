import ProtoInterfaces.Declaration
import ProtoInterfaces.Options
import ProtoInterfaces.Schema.Line
import ProtoInterfaces.Rendering.Warning

/-!
# Rendering of a line

A line is rendered from its words, its indentation and the context that the lines before it
leave: the version of the schema, whether a package was declared, and whether a stream was seen.
The rendering is a line or nothing, perhaps a warning, and the context for the lines after it.
-/
namespace ProtoInterfaces

/-- What the lines of a schema so far mean for those that follow. -/
structure Context where
  /-- The version of the schema. -/
  version : SyntaxVersion := .proto2
  /-- Whether a package was declared. -/
  packageDeclared : Bool := false
  /-- Whether a method with a stream was seen. -/
  usesStream : Bool := false
  deriving DecidableEq, Repr

/-- What stands for a line that is left out, both in a list of lines and in a schema: a line of
a schema that reads so is left out too. -/
def removalMark : Text := "--remove--".toList

/-- What a line becomes. -/
inductive Emission where
  | dropped
  | line (text : Text)
  deriving DecidableEq, Repr

/-- What a line becomes as text, with the removal mark for a line that is left out. -/
def Emission.text : Emission → Text
  | .dropped => removalMark
  | .line content => content

/-- The rendering of one line. -/
structure Step where
  /-- What the line becomes. -/
  emission : Emission
  /-- The warning about a line that cannot be read. -/
  warning : Option Warning := none
  /-- The context for the lines after it. -/
  context : Context
  deriving DecidableEq, Repr

namespace Step

/-- A line that is left out. -/
def drop (context : Context) : Step := { emission := .dropped, context }

/-- A line that becomes another one. -/
def emit (context : Context) (text : Text) : Step := { emission := .line text, context }

/-- A line that cannot be read and is kept as it is. -/
def keepUnread (context : Context) (expected : Expectation) (line : Text) : Step :=
  { emission := .line line, warning := some (.about expected line), context }

end Step

/-- The opening of an interface from the words of its line; an empty block is closed at once. -/
def openInterface (name : Text) (words : List Text) : Text :=
  Declaration.interfaceOpen name ++ if hasEmptyBlock words then Declaration.blockClose else []

/-- The name of the interface of a service: within a package it says that it is one. -/
def serviceInterfaceName (context : Context) (name : Text) : Text :=
  name ++ if context.packageDeclared then "Service".toList else []

/-- The rendering of a line in a context. -/
def renderLine (options : Options) (context : Context) (line : Text) : Step :=
  let words := line.words
  let indent := (Indentation.ofLine line).text
  let name := declaredName words
  match LineKind.ofWords words with
  | .blank => if options.stripEmptyLines then .drop context else .emit context []
  | .comment => if options.keepComments then .emit context line else .drop context
  | .blockClose => .emit context (indent ++ Declaration.blockClose)
  | .messageOpen =>
    if name.isEmpty then .keepUnread context .messageLine line
    else .emit context (indent ++ openInterface name words)
  | .serviceOpen =>
    if name.isEmpty then .keepUnread context .serviceLine line
    else .emit context (indent ++ openInterface (serviceInterfaceName context name) words)
  | .method =>
    match Method.ofLine? line with
    | none => .keepUnread context .methodLine line
    | some method =>
      .emit { context with usesStream := context.usesStream || method.isStreaming }
        (indent ++ Declaration.signature options.stream method)
  | .package =>
    if name.isEmpty then .keepUnread context .packageLine line
    else
      .emit { context with packageDeclared := true }
        (indent ++ Declaration.namespaceOpen (Identifier.pascal name))
  | .field =>
    match Field.ofLine? context.version line with
    | none => .keepUnread context .fieldLine line
    | some field => .emit context (indent ++ Declaration.property field)

/-- The renderings of lines one after the other, each in the context that those before it
leave. -/
def renderEach (options : Options) : Context → List Text → List Step
  | _, [] => []
  | context, line :: rest =>
    let step := renderLine options context line
    step :: renderEach options step.context rest

/-- The rendering of a method on its own, outside a document. -/
def renderMethod (behavior : StreamBehavior) (line : Text) : Text × Option Warning :=
  match Method.ofLine? line with
  | none => (line, some (.about .methodDeclaration line))
  | some method => ((Indentation.ofLine line).text ++ Declaration.signature behavior method, none)

end ProtoInterfaces
