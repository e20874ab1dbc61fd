import ProtoInterfaces.Rendering.Line

/-!
# Rendering of a document

The lines of a schema are gone through once, statements about the schema as a whole left out, and
what each becomes is added to the output. The place of the line that opens a namespace is kept;
the lines after it are indented by one more unit when the pass is over, the unit being the first
indentation that the schema uses, and the namespace is closed at the end. The import of the stream
type stands before everything else if a method with a stream was seen.
-/
namespace ProtoInterfaces

/-- The lines of a schema, with the removal mark in the place of statements about the schema as
a whole. -/
def withoutStatements (text : Text) : List Text :=
  text.lines.map fun line => if isStatement line then removalMark else line

/-- The unit of indentation of a schema without any indentation. -/
def defaultUnit : Text := [' ', ' ']

/-- The unit of indentation of a schema: the first indentation of its lines. -/
def indentUnit : List Text → Text
  | [] => defaultUnit
  | line :: rest =>
    let indentation := Indentation.ofLine line
    if indentation.width = 0 then indentUnit rest else indentation.text

/-- What a pass over the lines of a schema has gathered. -/
structure Progress where
  /-- The context for the next line. -/
  context : Context
  /-- What the lines so far became. -/
  output : Array Text := #[]
  /-- The place in the output of the line that opens the namespace. -/
  namespaceAt : Option Nat := none
  /-- Warnings about lines that could not be read, in order. -/
  warnings : Array Warning := #[]
  deriving DecidableEq, Repr

/-- The pass after one more line. -/
def Progress.advance (options : Options) (progress : Progress) (line : Text) : Progress :=
  if line = removalMark then progress
  else
    let step := renderLine options progress.context line
    let warnings := progress.warnings ++ step.warning.toList
    if step.emission.text = removalMark then { progress with context := step.context, warnings }
    else
      { context := step.context
        output := progress.output.push step.emission.text
        namespaceAt :=
          if step.context.packageDeclared && !progress.context.packageDeclared then
            some progress.output.size
          else progress.namespaceAt
        warnings }

/-- The lines, those after a place indented by a unit unless they are empty. -/
def indentAfter (unit : Text) (place : Nat) (lines : List Text) : List Text :=
  lines.mapIdx fun index line => if place < index && !line.isEmpty then unit ++ line else line

/-- The lines with the namespace that opens at a place indented and closed. -/
def withNamespace (unit : Text) (lines : List Text) : Option Nat → List Text
  | some place => indentAfter unit place lines ++ [Declaration.blockClose]
  | none => lines

/-- The lines after the import of the stream type and an empty line, if a stream was seen and its
type is written; nothing if no module is known to import the type from. -/
def withImport? (behavior : StreamBehavior) (context : Context) (lines : List Text) :
    Option (List Text) :=
  if context.usesStream && behavior ≠ .strip then
    (Declaration.streamImport? behavior).map fun line => line :: [] :: lines
  else some lines

/-- A module is known whenever the stream type is written. -/
theorem isSome_withImport? (behavior : StreamBehavior) (context : Context) (lines : List Text) :
    (withImport? behavior context lines).isSome := by
  unfold withImport?
  cases behavior <;> cases context.usesStream <;> rfl

/-- The lines of a document's rendering and the warnings about it, if the version that the schema
states and the module of the stream type are known. -/
def documentLines? (options : Options) (text : Text) : Option (List Text × List Warning) := do
  let version ← SyntaxVersion.detect? text
  let source := withoutStatements text
  let progress := source.foldl (Progress.advance options) { context := { version } }
  let body := withNamespace (indentUnit source) progress.output.toList progress.namespaceAt
  let lines ← withImport? options.stream progress.context body
  return (lines, progress.warnings.toList)

/-- Every document has a rendering. -/
theorem isSome_documentLines? (options : Options) (text : Text) :
    (documentLines? options text).isSome := by
  obtain ⟨version, detected⟩ := Option.isSome_iff_exists.mp (SyntaxVersion.isSome_detect? text)
  simp only [documentLines?, bind, detected, Option.bind_some, pure, Option.isSome_bind,
    Option.any_eq_true_iff_get]
  exact ⟨isSome_withImport? .., rfl⟩

/-- The lines of a document's rendering and the warnings about it. -/
def documentLines (options : Options) (text : Text) : List Text × List Warning :=
  (documentLines? options text).get (isSome_documentLines? options text)

/-- The rendering of a document. -/
structure Rendering where
  /-- The declarations. -/
  text : Text
  /-- Warnings about lines that could not be read, in order. -/
  warnings : List Warning
  deriving DecidableEq, Repr

/-- The rendering of a document. -/
def renderDocument (options : Options) (text : Text) : Rendering :=
  let (lines, warnings) := documentLines options text
  ⟨Text.joinLines lines, warnings⟩

end ProtoInterfaces
