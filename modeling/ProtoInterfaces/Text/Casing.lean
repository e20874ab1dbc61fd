import ProtoInterfaces.Text.CaseContext
import ProtoInterfaces.Text.CaseMapping

/-!
# Lower case of a text

Every character takes its own small form but the capital sigma, whose form depends on its place:
at the end of a word it is the final sigma. A sigma ends a word when a cased letter stands before
it and none after it, characters without influence on case being passed over on both sides.
-/
namespace ProtoInterfaces

/-- The capital sigma. -/
def capitalSigma : Char := 'Σ'

/-- Whether the first character that is not passed over is a cased letter. -/
def leadsToCased : Text → Bool
  | [] => false
  | c :: rest => if isCaseIgnorable c then leadsToCased rest else isCased c

/-- The small form of a capital sigma, from what stands before and after it. -/
def smallSigma (afterCased : Bool) (rest : Text) : Char :=
  if afterCased && !leadsToCased rest then 'ς' else 'σ'

/-- The lower-case form of what follows in a text, given whether the last character before it
that is not passed over is a cased letter. -/
def lowerFrom (afterCased : Bool) : Text → Text
  | [] => []
  | c :: rest =>
    (if c = capitalSigma then [smallSigma afterCased rest] else lowerOf c) ++
      lowerFrom (if isCaseIgnorable c then afterCased else isCased c) rest

/-- The lower-case form of a text. -/
def Text.lower (text : Text) : Text := lowerFrom false text

/-- Without a capital sigma every character is lowered on its own. -/
theorem lowerFrom_eq_flatMap {text : Text} (plain : capitalSigma ∉ text) (afterCased : Bool) :
    lowerFrom afterCased text = text.flatMap lowerOf := by
  induction text generalizing afterCased with
  | nil => rfl
  | cons c rest ih =>
    have here : c ≠ capitalSigma := fun same => plain (by simp [same])
    have later : capitalSigma ∉ rest := fun found => plain (by simp [found])
    simp [lowerFrom, here, ih later]

end ProtoInterfaces
