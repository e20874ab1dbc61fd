import ProtoInterfaces.Schema.Scalar
import ProtoInterfaces.Schema.Version
import ProtoInterfaces.Text.DecimalDigit
import ProtoInterfaces.Text.WordCharacter

/-!
# Fields

A field stands at the beginning of a line as an optional label, a type, a name, `=` and a number;
what follows the first digit of the number is not looked at. A field without a label is optional
in the third version of the language and required in the second. A label word is read as the type
when only one further word stands before the `=`.
-/
namespace ProtoInterfaces

/-- How many values a field holds. -/
inductive Cardinality where
  | required
  | optional
  | repeated
  deriving DecidableEq, Repr

namespace Cardinality

/-- The label of a cardinality in a schema. -/
def label : Cardinality → Text
  | .required => "required".toList
  | .optional => "optional".toList
  | .repeated => "repeated".toList

/-- The cardinality of a field without a label. -/
def unlabelled : SyntaxVersion → Cardinality
  | .proto3 => .optional
  | .proto2 => .required

/-- What follows one label and the blanks after it. -/
def afterLabel? (cardinality : Cardinality) (text : Text) : Option (Cardinality × Text) := do
  let rest ← Text.after? cardinality.label text
  let rest ← rest.skipBlanks1?
  return (cardinality, rest)

/-- The label at the beginning of a text and what follows it and the blanks after it. -/
def readLabel? (text : Text) : Option (Cardinality × Text) :=
  [Cardinality.required, .optional, .repeated].findSome? fun cardinality =>
    cardinality.afterLabel? text

end Cardinality

/-- A field of a message. -/
structure Field where
  /-- Name as the schema writes it. -/
  name : Text
  /-- Type name as the schema writes it. -/
  type : Text
  /-- How many values it holds. -/
  cardinality : Cardinality
  deriving DecidableEq, Repr

namespace Field

/-- Whether a text goes on with `=` and a digit, blanks set aside. -/
def isNumbered (text : Text) : Bool :=
  match Text.skipBlanks text with
  | '=' :: rest =>
    match Text.skipBlanks rest with
    | digit :: _ => isDecimalDigit digit
    | [] => false
  | _ => false

/-- The type and name that begin a text and are followed by a number. -/
def readTypeAndName? (text : Text) : Option (Text × Text) := do
  let (type, rest) ← text.takeRun? isTypeCharacter
  let rest ← rest.skipBlanks1?
  let (name, rest) ← rest.takeRun? isWordCharacter
  if isNumbered rest then some (type, name) else none

/-- The field whose label begins a text. -/
def readLabelled? (text : Text) : Option Field := do
  let (cardinality, rest) ← Cardinality.readLabel? text
  let (type, name) ← readTypeAndName? rest
  return ⟨name, type, cardinality⟩

/-- The field without a label that begins a text. -/
def readUnlabelled? (version : SyntaxVersion) (text : Text) : Option Field := do
  let (type, name) ← readTypeAndName? text
  return ⟨name, type, Cardinality.unlabelled version⟩

/-- The field that a line declares, if it declares one. -/
def ofLine? (version : SyntaxVersion) (line : Text) : Option Field :=
  match readLabelled? line.skipBlanks with
  | some field => some field
  | none => readUnlabelled? version line.skipBlanks

/-- Whether the type of the field is a scalar type. -/
def isScalar (field : Field) : Bool := isScalarName field.type

end Field

end ProtoInterfaces
