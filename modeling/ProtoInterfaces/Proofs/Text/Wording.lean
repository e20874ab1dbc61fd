import ProtoInterfaces.Proofs.Text.Caseless
import ProtoInterfaces.Proofs.Text.Reading

/-!
# Texts of names and blanks

A name is followed by a blank or by punctuation, and never by a character that it could hold. A text
that consists of names and blanks alone holds no punctuation.
-/
namespace ProtoInterfaces

/-- No character of a type name is blank. -/
theorem solid_of_isTypeCharacter {c : Char} (named : isTypeCharacter c = true) :
    isBlank c = false := by
  cases blank : isBlank c with
  | false => rfl
  | true =>
    rw [isTypeCharacter_eq_false_of_isBlank blank] at named
    contradiction

/-- Word characters are characters of type names. -/
theorem isTypeCharacter_of_isWordCharacter {c : Char} (word : isWordCharacter c = true) :
    isTypeCharacter c = true := by
  simp [isTypeCharacter, word]

namespace Text

/-- A name holds no blanks. -/
theorem solid_of_named {text : Text} (named : ∀ c ∈ text, isTypeCharacter c = true) :
    ∀ c ∈ text, isBlank c = false :=
  fun c member => solid_of_isTypeCharacter (named c member)

/-- A word could be the name of a type. -/
theorem named_of_word {text : Text} (word : ∀ c ∈ text, isWordCharacter c = true) :
    ∀ c ∈ text, isTypeCharacter c = true :=
  fun c member => isTypeCharacter_of_isWordCharacter (word c member)

/-- Blanks are part of no name. -/
theorem unnamed_of_blanks {text : Text} (blanks : ∀ c ∈ text, isBlank c = true) :
    ∀ c ∈ text, isTypeCharacter c = false :=
  fun c member => isTypeCharacter_eq_false_of_isBlank (blanks c member)

/-- Blanks are part of no word. -/
theorem unworded_of_blanks {text : Text} (blanks : ∀ c ∈ text, isBlank c = true) :
    ∀ c ∈ text, isWordCharacter c = false :=
  fun c member => isWordCharacter_eq_false_of_isBlank (blanks c member)

/-- A text of blanks and of characters of type names. -/
def IsWording (text : Text) : Prop := ∀ c ∈ text, isBlank c = true ∨ isTypeCharacter c = true

namespace IsWording

/-- Blanks are wording. -/
theorem of_blanks {text : Text} (blanks : ∀ c ∈ text, isBlank c = true) : IsWording text :=
  fun c member => .inl (blanks c member)

/-- The name of a type is wording. -/
theorem of_named {text : Text} (named : ∀ c ∈ text, isTypeCharacter c = true) : IsWording text :=
  fun c member => .inr (named c member)

/-- A word is wording. -/
theorem of_word {text : Text} (word : ∀ c ∈ text, isWordCharacter c = true) : IsWording text :=
  of_named (named_of_word word)

/-- Wording before wording is wording. -/
theorem append {left right : Text} (first : IsWording left) (second : IsWording right) :
    IsWording (left ++ right) := fun c member =>
  (List.mem_append.mp member).elim (first c) (second c)

/-- Punctuation is no part of wording. -/
theorem not_mem {text : Text} (wording : IsWording text) {c : Char} (solid : isBlank c = false)
    (unnamed : isTypeCharacter c = false) : c ∉ text := fun member =>
  (wording c member).elim (fun blank => ne_of_class blank solid rfl)
    fun named => ne_of_class named unnamed rfl

end IsWording

end Text

end ProtoInterfaces
