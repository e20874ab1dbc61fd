import ProtoInterfaces.Identifier.Casing
import ProtoInterfaces.Proofs.Identifier.Boundaries
import ProtoInterfaces.Proofs.Text.Caseless

/-!
# Characters of identifiers in camel case

Dividing an identifier into words takes every separator away and adds nothing, so what is left of it
in camel case holds no separator and no caseless character that the identifier does not hold.
-/
namespace ProtoInterfaces

namespace Identifier

/-- Every caseless character of a capitalised word stands in the word. -/
theorem mem_of_mem_capitalise {d : Char} (caseless : isCaseless d = true) {word : Text}
    (member : d ∈ capitalise word) : d ∈ word := by
  cases word with
  | nil => exact member
  | cons c rest =>
    rcases List.mem_append.mp member with first | later
    · exact eq_of_mem_upperOf caseless first ▸ List.mem_cons_self
    · exact List.mem_cons_of_mem _ (mem_of_mem_lowerFrom caseless later)

/-- Every caseless character of an identifier in upper camel case stands in the identifier and is
no separator. -/
theorem mem_of_mem_pascal {d : Char} (caseless : isCaseless d = true) {name : Text}
    (member : d ∈ pascal name) : d ∈ name ∧ isSeparator d = false := by
  obtain ⟨word, found, inside⟩ := List.mem_flatMap.mp member
  exact mem_of_mem_words found (mem_of_mem_capitalise caseless inside)

/-- Every caseless character of an identifier in lower camel case stands in the identifier and is
no separator. -/
theorem mem_of_mem_camel {d : Char} (caseless : isCaseless d = true) {name : Text}
    (member : d ∈ camel name) : d ∈ name ∧ isSeparator d = false := by
  apply mem_of_mem_pascal caseless
  unfold camel at member
  cases pascalled : pascal name with
  | nil =>
    rw [pascalled] at member
    exact member
  | cons c rest =>
    rw [pascalled] at member
    rcases List.mem_append.mp member with first | later
    · exact eq_of_mem_lowerOf caseless first ▸ List.mem_cons_self
    · exact List.mem_cons_of_mem _ later

/-- A caseless character outside a class stands in no identifier of that class in lower camel
case. -/
theorem not_mem_camel {belongs : Char → Bool} {name : Text} (inside : ∀ c ∈ name, belongs c = true)
    {d : Char} (caseless : isCaseless d = true) (outside : belongs d = false) :
    d ∉ camel name := fun member =>
  Text.not_mem_of_class inside outside (mem_of_mem_camel caseless member).1

end Identifier

end ProtoInterfaces
