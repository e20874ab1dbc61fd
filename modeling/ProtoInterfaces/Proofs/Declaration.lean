import ProtoInterfaces.Declaration
import ProtoInterfaces.Proofs.Identifier.Characters
import ProtoInterfaces.Proofs.Schema.Names
import ProtoInterfaces.Proofs.Text.Lines

/-!
# Characters of declarations

Properties and signatures are made of characters that names may hold, of what becomes of them in
camel case, and of a little punctuation. So neither holds a brace, a slash, a star or a line
break.
-/
namespace ProtoInterfaces

/-- A character that may stand in a property or a signature. -/
def isDeclarationCharacter (c : Char) : Bool :=
  !isCaseless c || isTypeCharacter c || [' ', '(', ')', ':', '<', '>', '?', '[', ']'].contains c

/-- A text of characters that may stand in a property or a signature. -/
def IsDeclaration (text : Text) : Prop := ∀ c ∈ text, isDeclarationCharacter c = true

instance (text : Text) : Decidable (IsDeclaration text) :=
  decidable_of_iff (text.all isDeclarationCharacter) List.all_eq_true

/-- Characters of type names may stand in declarations. -/
theorem isDeclarationCharacter_of_isTypeCharacter {c : Char} (named : isTypeCharacter c = true) :
    isDeclarationCharacter c = true := by
  simp [isDeclarationCharacter, named]

/-- No line break may stand in a declaration. -/
theorem isDeclarationCharacter_eq_false_of_isLineBreak {c : Char} (breaks : isLineBreak c = true) :
    isDeclarationCharacter c = false := by
  have blank := isBlank_of_isLineBreak breaks
  have unwritten : c ∉ [' ', '(', ')', ':', '<', '>', '?', '[', ']'] := by
    intro member
    have plain : Unbroken [' ', '(', ')', ':', '<', '>', '?', '[', ']'] := by decide
    exact Text.ne_of_class breaks (plain c member) rfl
  simp [isDeclarationCharacter, isCaseless_of_isBlank blank,
    isTypeCharacter_eq_false_of_isBlank blank, List.contains_eq_mem, unwritten]

namespace Declaration

/-- The opening of an interface is not empty. -/
theorem interfaceOpen_ne_nil (name : Text) : interfaceOpen name ≠ [] :=
  List.append_ne_nil_of_right_ne_nil _ (List.cons_ne_nil _ _)

/-- The opening of a namespace is not empty. -/
theorem namespaceOpen_ne_nil (name : Text) : namespaceOpen name ≠ [] :=
  List.append_ne_nil_of_right_ne_nil _ (List.cons_ne_nil _ _)

/-- No property is empty. -/
theorem property_ne_nil (field : Field) : property field ≠ [] := by
  simp [property]

/-- No signature is empty. -/
theorem signature_ne_nil (behavior : StreamBehavior) (method : Method) :
    signature behavior method ≠ [] := by
  simp [signature]

end Declaration

namespace IsDeclaration

/-- Two declarations one after the other. -/
theorem append {left right : Text} (first : IsDeclaration left) (second : IsDeclaration right) :
    IsDeclaration (left ++ right) := by
  intro c member
  exact (List.mem_append.mp member).elim (first c) (second c)

/-- A name may stand in a declaration. -/
theorem of_type {name : Text} (named : ∀ c ∈ name, isTypeCharacter c = true) :
    IsDeclaration name := fun c member =>
  isDeclarationCharacter_of_isTypeCharacter (named c member)

/-- A text whose caseless characters stand in a name may stand in a declaration. -/
theorem of_caseless {text name : Text} (named : ∀ c ∈ name, isTypeCharacter c = true)
    (kept : ∀ c ∈ text, isCaseless c = true → c ∈ name) : IsDeclaration text := by
  intro c member
  by_cases caseless : isCaseless c = true
  · exact of_type named c (kept c member caseless)
  · simp [isDeclarationCharacter, caseless]

/-- A name in upper camel case may stand in a declaration. -/
theorem pascal {name : Text} (named : ∀ c ∈ name, isTypeCharacter c = true) :
    IsDeclaration (Identifier.pascal name) :=
  of_caseless named fun _ member caseless => (Identifier.mem_of_mem_pascal caseless member).1

/-- A name in lower camel case may stand in a declaration. -/
theorem camel {name : Text} (named : ∀ c ∈ name, isTypeCharacter c = true) :
    IsDeclaration (Identifier.camel name) :=
  of_caseless named fun _ member caseless => (Identifier.mem_of_mem_camel caseless member).1

/-- What stands for a type may stand in a declaration. -/
theorem typeOf {name : Text} (named : ∀ c ∈ name, isTypeCharacter c = true) :
    IsDeclaration (Declaration.typeOf name) := by
  unfold Declaration.typeOf
  split
  · rename_i scalar _
    cases scalar <;> decide
  · exact of_type named

/-- A property is a declaration. -/
theorem property {field : Field} (named : field.Named) :
    IsDeclaration (Declaration.property field) := by
  have name : IsDeclaration (Identifier.camel field.name) :=
    camel fun c member => by simp [isTypeCharacter, named.name c member]
  have optional : IsDeclaration (Declaration.optionalMark field.cardinality) := by
    cases field.cardinality <;> decide
  have array : IsDeclaration (Declaration.arrayMark field.cardinality) := by
    cases field.cardinality <;> decide
  have colon : IsDeclaration [':', ' '] := by decide
  exact (((name.append optional).append colon).append (typeOf named.type)).append array

/-- The type of a payload may stand in a declaration. -/
theorem payloadType (behavior : StreamBehavior) {payload : Payload}
    (named : ∀ c ∈ payload.type, isTypeCharacter c = true) :
    IsDeclaration (Declaration.payloadType behavior payload) := by
  have opening : IsDeclaration "Stream<".toList := by decide
  have closing : IsDeclaration ['>'] := by decide
  unfold Declaration.payloadType
  split
  · cases behavior with
    | strip => exact of_type named
    | native => exact (by decide : IsDeclaration "Stream".toList)
    | generic => exact (opening.append (of_type named)).append closing
  · exact of_type named

/-- A signature is a declaration. -/
theorem signature (behavior : StreamBehavior) {method : Method} (named : method.Named) :
    IsDeclaration (Declaration.signature behavior method) := by
  have name : IsDeclaration (Identifier.camel method.name) :=
    camel fun c member => by simp [isTypeCharacter, named.name c member]
  have parameter : IsDeclaration (Declaration.parameterName behavior method.request) := by
    refine (camel named.request).append ?_
    split
    · exact (by decide : IsDeclaration "Stream".toList)
    · exact of_type (by simp)
  have opening : IsDeclaration [' ', '('] := by decide
  have colon : IsDeclaration [':', ' '] := by decide
  have closing : IsDeclaration [')', ':', ' '] := by decide
  exact ((((((name.append opening).append parameter).append colon).append
    (payloadType behavior named.request)).append closing).append
    (payloadType behavior named.response))

end IsDeclaration

end ProtoInterfaces
