import ProtoInterfaces.Proofs.Schema.FieldHead
import ProtoInterfaces.Proofs.Schema.MethodDeclaration

/-!
# What methods and fields are read from

A method or a field that is read has a name of word characters and types of characters of type
names. A method line consists of those, of blanks and of parentheses up to what may end it.
-/
namespace ProtoInterfaces

/-- A character that may stand in a method line before what may end it. -/
def isMethodCharacter (c : Char) : Bool := isBlank c || isTypeCharacter c || c = '(' || c = ')'

/-- A method with a name of word characters and with types of characters of type names. -/
structure Method.Named (method : Method) : Prop where
  /-- The name is a word. -/
  name : ∀ c ∈ method.name, isWordCharacter c = true
  /-- What the method takes is of a type with a name. -/
  request : ∀ c ∈ method.request.type, isTypeCharacter c = true
  /-- What the method returns is of a type with a name. -/
  response : ∀ c ∈ method.response.type, isTypeCharacter c = true

/-- A field with a name of word characters and with a type of characters of type names. -/
structure Field.Named (field : Field) : Prop where
  /-- The name is a word. -/
  name : ∀ c ∈ field.name, isWordCharacter c = true
  /-- The field is of a type with a name. -/
  type : ∀ c ∈ field.type, isTypeCharacter c = true

/-! ## Methods -/

/-- Wording may stand in a method line. -/
theorem isMethodCharacter_of_isWording {text : Text} (wording : Text.IsWording text) :
    ∀ c ∈ text, isMethodCharacter c = true := by
  intro c member
  rcases wording c member with blank | named
  · simp [isMethodCharacter, blank]
  · simp [isMethodCharacter, named]

/-- What a method takes or returns may stand in a method line, parentheses included. -/
theorem PayloadDeclaration.isMethodCharacter_of_mem_text (declaration : PayloadDeclaration) :
    ∀ c ∈ declaration.text, isMethodCharacter c = true := by
  intro c member
  rw [text, List.mem_cons, List.mem_append, List.mem_singleton] at member
  rcases member with rfl | inner | rfl
  · decide
  · exact isMethodCharacter_of_isWording declaration.wording_inner c inner
  · decide

/-- A method is read from characters of a method line up to what may end it, and its name and its
types are names. -/
theorem Method.of_ofLine? {line : Text} {method : Method} (read : ofLine? line = some method) :
    method.Named ∧
      ∃ trailer, Text.Leaves isMethodCharacter line trailer ∧ isTrailer trailer = true := by
  obtain ⟨declaration, rfl, rfl⟩ := ofLine?_eq_some_iff.mp read
  have named : declaration.method.Named :=
    ⟨declaration.nameWord, declaration.request.typeNamed, declaration.response.typeNamed⟩
  have front := isMethodCharacter_of_isWording declaration.wording_front
  have request := declaration.request.isMethodCharacter_of_mem_text
  have middle := isMethodCharacter_of_isWording declaration.wording_middle
  have response := declaration.response.isMethodCharacter_of_mem_text
  refine ⟨named, declaration.ending.text, ⟨declaration.front ++ (declaration.request.text ++
    (declaration.middle ++ declaration.response.text)), ?_, ?_⟩, isTrailer_iff.mpr ⟨_, rfl⟩⟩
  · simp [MethodDeclaration.text]
  · exact List.forall_mem_append.mpr ⟨front, List.forall_mem_append.mpr ⟨request,
      List.forall_mem_append.mpr ⟨middle, response⟩⟩⟩

/-! ## Fields -/

/-- The name and the type of a field that is read are names. -/
theorem Field.named_of_ofLine? {version : SyntaxVersion} {line : Text} {field : Field}
    (read : ofLine? version line = some field) : field.Named := by
  obtain ⟨head, _, rfl⟩ := ofLine?_eq_some_iff.mp read
  exact ⟨head.nameWord, head.typeNamed⟩

end ProtoInterfaces
