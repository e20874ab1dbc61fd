import ProtoInterfaces.Proofs.Schema.FieldHead

/-!
# Complete field declarations

A complete declaration of a field is taken apart into its label, type, name and number with the
blanks between them. A line that begins with one declares its field under every version, whatever
follows on the line. It is of the kind of fields unless the declaration has no label and its type
reads like the first word of another kind of line.
-/
namespace ProtoInterfaces

/-- The parts of a complete declaration of a field. -/
structure FieldDeclaration where
  /-- The label and the blanks after it, if there is a label. -/
  label : Option (Cardinality × Text)
  /-- The type. -/
  type : Text
  /-- Blanks between type and name. -/
  gap : Text
  /-- The name. -/
  name : Text
  /-- Blanks before the equality sign. -/
  space : Text
  /-- Blanks before the number. -/
  lead : Text
  /-- The number. -/
  number : Text
  /-- Blanks before the semicolon. -/
  trail : Text
  labelGap : ∀ found ∈ label, found.2 ≠ [] ∧ ∀ c ∈ found.2, isBlank c = true
  typeHolds : type ≠ []
  typeNamed : ∀ c ∈ type, isTypeCharacter c = true
  gapHolds : gap ≠ []
  gapBlank : ∀ c ∈ gap, isBlank c = true
  nameHolds : name ≠ []
  nameWord : ∀ c ∈ name, isWordCharacter c = true
  spaceBlank : ∀ c ∈ space, isBlank c = true
  leadBlank : ∀ c ∈ lead, isBlank c = true
  numberBegins : number.head?.any isDecimalDigit = true
  numberWord : ∀ c ∈ number, isWordCharacter c = true
  trailBlank : ∀ c ∈ trail, isBlank c = true

namespace FieldDeclaration

/-- What follows the name. -/
def numbered (declaration : FieldDeclaration) : Text :=
  declaration.space ++ '=' :: (declaration.lead ++ (declaration.number ++
    (declaration.trail ++ [';'])))

/-- What follows the type. -/
def named (declaration : FieldDeclaration) : Text :=
  declaration.gap ++ (declaration.name ++ declaration.numbered)

/-- The declaration as a text. -/
def text (declaration : FieldDeclaration) : Text :=
  match declaration.label with
  | some (cardinality, gap) => cardinality.label ++ (gap ++ (declaration.type ++ declaration.named))
  | none => declaration.type ++ declaration.named

/-- The field that is declared under a version. -/
def field (declaration : FieldDeclaration) (version : SyntaxVersion) : Field :=
  ⟨declaration.name, declaration.type,
    (declaration.label.map Prod.fst).getD (Cardinality.unlabelled version)⟩

variable (declaration : FieldDeclaration)

end FieldDeclaration

end ProtoInterfaces
